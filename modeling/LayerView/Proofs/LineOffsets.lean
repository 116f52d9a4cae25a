import LayerView.Proofs.Slices

/-!
# Lines and the offsets at which they start

The offsets of lines are a running sum over pieces whose endings are taken off afterwards, so
nothing in a located line tells how much was taken.  Here the lines are put back into the text.  Each
of them stands at its offset; from its end to the next offset, or to the end of the text, there is a
line ending and nothing else.  So lines and endings tile the text.

The other reading of lines agrees with this one up to a single carriage return, at the end of a text
that ends without a line feed.

Main statements:
- `getElem?_locate`: the offset of a line is the size of the pieces before it
- `tiles_locatedLines`: located lines tile their text
- `located_lines_partition`: the same with the comparison to the other reading of lines
-/

namespace LayerView.Text

/-! ## Endings -/

/-- `new` is `old` without the carriage return at its end, if it has one there. -/
def LosesReturn (old new : Text) : Prop :=
  old = new ++ ['\r'] ∨ new = old ∧ old.getLast? ≠ some '\r'

theorem dropFinal_of_last {c : Char} {t : Text} (h : t.getLast? = some c) :
    dropFinal c t = t.dropLast := if_pos h

theorem dropFinal_of_not_last {c : Char} {t : Text} (h : t.getLast? ≠ some c) :
    dropFinal c t = t := if_neg h

theorem losesReturn_dropFinal (t : Text) : LosesReturn t (dropFinal '\r' t) := by
  by_cases h : t.getLast? = some '\r'
  · rw [dropFinal_of_last h]
    exact Or.inl (List.dropLast_append_getLast? '\r' h).symm
  · rw [dropFinal_of_not_last h]
    exact Or.inr ⟨rfl, h⟩

/-- The endings of a line. -/
def lineEndings : List Text := ["\n".toList, "\r\n".toList]

/-- What may stand in place of an ending behind the last line of a text. -/
def finalEndings : List Text := ["".toList, "\r".toList]

theorem LosesReturn.exists_ending {old new : Text} (h : LosesReturn old new) :
    ∃ e ∈ finalEndings, old = new ++ e := by
  rcases h with h | ⟨rfl, -⟩
  · exact ⟨"\r".toList, by decide, h⟩
  · exact ⟨"".toList, by decide, (List.append_nil new).symm⟩

/-- Whatever stands before it, a line feed makes a line ending. -/
private theorem append_feed_mem_lineEndings {e : Text} (he : e ∈ finalEndings) :
    e ++ ['\n'] ∈ lineEndings := by
  revert e
  decide

/-- A piece with a line feed at its end is its line and a line ending. -/
private theorem exists_ending_of_ended {p : Text} (hp : p.getLast? = some '\n') :
    ∃ e ∈ lineEndings, p = chomp p ++ e := by
  have hchomp : chomp p = dropFinal '\r' p.dropLast := by rw [chomp, dropFinal_of_last hp]
  -- with the line feed gone, a carriage return before it is the last character
  obtain ⟨e, he, hbody⟩ := (losesReturn_dropFinal p.dropLast).exists_ending
  refine ⟨e ++ ['\n'], append_feed_mem_lineEndings he, ?_⟩
  calc p = p.dropLast ++ ['\n'] := (List.dropLast_append_getLast? '\n' hp).symm
    _ = dropFinal '\r' p.dropLast ++ e ++ ['\n'] := by rw [← hbody]
    _ = chomp p ++ (e ++ ['\n']) := by rw [hchomp, List.append_assoc]

theorem losesReturn_chomp {p : Text} (hp : p.getLast? ≠ some '\n') : LosesReturn p (chomp p) := by
  rw [chomp, dropFinal_of_not_last hp]
  exact losesReturn_dropFinal p

/-! ## Offsets of pieces -/

theorem flatten_pieces (t : Text) : (pieces t).flatten = t := flatten_piecesAt '\n' t

theorem pieces_eq_nil_iff {t : Text} : pieces t = [] ↔ t = [] := by
  constructor
  · intro h
    rw [← flatten_pieces t, h, List.flatten_nil]
  · rintro rfl
    rfl

theorem ne_nil_of_mem_piecesAt {stop : Char} {t p : Text} (hp : p ∈ piecesAt stop t) : p ≠ [] := by
  induction t generalizing p with
  | nil => simp [piecesAt] at hp
  | cons c t ih =>
    rw [piecesAt] at hp
    split at hp
    · rcases List.mem_cons.mp hp with rfl | hp
      · exact List.cons_ne_nil c []
      · exact ih hp
    · split at hp
      · rw [List.mem_singleton.mp hp]
        exact List.cons_ne_nil c []
      -- `c` joins the first piece of the rest
      case h_2 q qs hpieces =>
        rcases List.mem_cons.mp hp with rfl | hp
        · exact List.cons_ne_nil c q
        · exact ih (hpieces ▸ List.mem_cons_of_mem q hp)

/-- A line starts behind the pieces before its own. -/
theorem getElem?_locate (n : Nat) (ps : List Text) (i : Nat) :
    (locate n ps)[i]? = ps[i]?.map fun p => ⟨n + size (ps.take i).flatten, chomp p⟩ := by
  induction ps generalizing n i with
  | nil => simp [locate]
  | cons p ps ih =>
    cases i with
    | zero => simp [locate]
    | succ i => simp [locate, ih, Nat.add_assoc]

private theorem offset_ge_of_mem_locate {n : Nat} {ps : List Text} {l : Located}
    (h : l ∈ locate n ps) : n ≤ l.offset := by
  induction ps generalizing n with
  | nil => simp [locate] at h
  | cons p ps ih =>
    -- each line is located behind the pieces that were read before it
    rw [locate] at h
    rcases List.mem_cons.mp h with rfl | h
    · exact Nat.le_refl n
    · exact (Nat.le_add_right n (size p)).trans (ih h)

/-- No piece is empty, so offsets increase. -/
theorem pairwise_offset_locate {ps : List Text} (hps : ∀ p ∈ ps, p ≠ []) (n : Nat) :
    (locate n ps).Pairwise fun l k => l.offset < k.offset := by
  induction ps generalizing n with
  | nil => exact List.Pairwise.nil
  | cons p ps ih =>
    rw [locate, List.pairwise_cons]
    constructor
    · intro k hk
      have hpos : 0 < size p := size_pos (hps p List.mem_cons_self)
      have hnext : n + size p ≤ k.offset := offset_ge_of_mem_locate hk
      show n < k.offset
      omega
    · exact ih (fun q hq => hps q (List.mem_cons_of_mem p hq)) (n + size p)

theorem length_locatedLines (t : Text) : (locatedLines t).length = (pieces t).length := by
  have h := congrArg List.length (map_line_locatedLines t)
  rwa [List.length_map, List.length_map] at h

/-- A text around one of its pieces. -/
private theorem eq_append_of_getElem?_pieces {t p : Text} {i : Nat} (h : (pieces t)[i]? = some p) :
    t = ((pieces t).take i).flatten ++ p ++ ((pieces t).drop (i + 1)).flatten := by
  have htake : (pieces t).take (i + 1) = (pieces t).take i ++ [p] := by
    rw [List.take_add_one, h, Option.toList_some]
  calc t = (pieces t).flatten := (flatten_pieces t).symm
    _ = ((pieces t).take (i + 1) ++ (pieces t).drop (i + 1)).flatten := by
      rw [List.take_append_drop]
    _ = ((pieces t).take i).flatten ++ p ++ ((pieces t).drop (i + 1)).flatten := by
      rw [htake]
      simp

/-- A piece that is not the last one ends with a line feed. -/
private theorem ended_or_last {t p : Text} {i : Nat} (h : (pieces t)[i]? = some p) :
    p.getLast? = some '\n' ∨ i + 1 = (pieces t).length := by
  obtain ⟨hi, -⟩ := List.getElem?_eq_some_iff.mp h
  by_cases hlast : i + 1 = (pieces t).length
  · exact Or.inr hlast
  · left
    have hnext : i + 1 < (pieces t).length := by omega
    -- another piece follows, and a piece is cut off only behind a line feed
    have hsplit : pieces t =
        (pieces t).take (i + 1) ++ (pieces t)[i + 1] :: (pieces t).drop (i + 2) := by
      rw [List.getElem_cons_drop, List.take_append_drop]
    have hmem : p ∈ (pieces t).take (i + 1) := by
      rw [List.take_add_one, h]
      simp
    exact getLast?_of_piecesAt_eq_append hsplit p hmem

/-! ## Tilings -/

/-- The offset at which the line `i` starts; the line behind the last one starts at the end of the
text. -/
def lineStart (t : Text) (ls : List Located) (i : Nat) : Nat :=
  (ls[i]?.map Located.offset).getD (size t)

theorem lineStart_locatedLines (t : Text) (i : Nat) :
    lineStart t (locatedLines t) i = size ((pieces t).take i).flatten := by
  rw [lineStart, locatedLines, getElem?_locate]
  cases hp : (pieces t)[i]? with
  | some p => simp
  | none =>
    -- all pieces are before the end
    have hlen : (pieces t).length ≤ i := List.getElem?_eq_none_iff.mp hp
    rw [List.take_of_length_le hlen, flatten_pieces]
    rfl

/-- Lines that make up a text together with the endings between them. -/
structure Tiles (t : Text) (ls : List Located) : Prop where
  nil_iff : ls = [] ↔ t = []
  zero : ∀ l, ls[0]? = some l → l.offset = 0
  increasing : ls.Pairwise fun l k => l.offset < k.offset
  boundary : ∀ l ∈ ls, IsBoundary t l.offset
  line : ∀ l ∈ ls, slice? t l.offset (l.offset + size l.line) = some l.line
  feed_notMem : ∀ l ∈ ls, '\n' ∉ l.line
  ending : ∀ i l, ls[i]? = some l →
    ∃ e, slice? t (l.offset + size l.line) (lineStart t ls (i + 1)) = some e ∧
      (e ∈ lineEndings ∨ i + 1 = ls.length ∧ e ∈ finalEndings)

/-- The text around a line: what is before it, its ending, and what is behind. -/
theorem exists_parts_of_getElem? {t : Text} {i : Nat} {l : Located}
    (h : (locatedLines t)[i]? = some l) :
    ∃ before e after, t = before ++ l.line ++ e ++ after ∧ size before = l.offset ∧
      size before + size l.line + size e = lineStart t (locatedLines t) (i + 1) ∧
      (e ∈ lineEndings ∨ i + 1 = (locatedLines t).length ∧ e ∈ finalEndings) := by
  have hplace := h
  rw [locatedLines, getElem?_locate] at hplace
  -- the line is what is left of a piece
  obtain ⟨p, hp, rfl⟩ := Option.map_eq_some_iff.mp hplace
  obtain ⟨e, hpiece, he⟩ : ∃ e, p = chomp p ++ e ∧
      (e ∈ lineEndings ∨ i + 1 = (locatedLines t).length ∧ e ∈ finalEndings) := by
    by_cases hended : p.getLast? = some '\n'
    · obtain ⟨e, he, hpiece⟩ := exists_ending_of_ended hended
      exact ⟨e, hpiece, Or.inl he⟩
    · -- only the last piece can be without a line feed
      obtain ⟨e, he, hpiece⟩ := (losesReturn_chomp hended).exists_ending
      refine ⟨e, hpiece, Or.inr ⟨?_, he⟩⟩
      rw [length_locatedLines]
      exact (ended_or_last hp).resolve_left hended
  refine ⟨((pieces t).take i).flatten, e, ((pieces t).drop (i + 1)).flatten, ?_, ?_, ?_, he⟩
  · rw [List.append_assoc _ (chomp p) e, ← hpiece]
    exact eq_append_of_getElem?_pieces hp
  · exact (Nat.zero_add _).symm
  · have hsize : size p = size (chomp p) + size e := by rw [← size_append, ← hpiece]
    rw [lineStart_locatedLines, List.take_add_one, hp, Nat.add_assoc, ← hsize]
    simp

/-- The lines of a text tile it. -/
theorem tiles_locatedLines (t : Text) : Tiles t (locatedLines t) where
  nil_iff := by
    -- there are as many lines as pieces
    rw [← List.length_eq_zero_iff, length_locatedLines, List.length_eq_zero_iff, pieces_eq_nil_iff]
  zero l h := by
    rw [locatedLines, getElem?_locate] at h
    obtain ⟨p, -, rfl⟩ := Option.map_eq_some_iff.mp h
    rfl
  increasing := pairwise_offset_locate (fun _ => ne_nil_of_mem_piecesAt) 0
  boundary l hl := by
    obtain ⟨i, hi⟩ := List.mem_iff_getElem?.mp hl
    obtain ⟨before, e, after, ht, hoffset, -⟩ := exists_parts_of_getElem? hi
    exact ⟨before, l.line ++ e ++ after, by rw [ht]; simp, hoffset⟩
  line l hl := by
    obtain ⟨i, hi⟩ := List.mem_iff_getElem?.mp hl
    obtain ⟨before, e, after, ht, hoffset, -⟩ := exists_parts_of_getElem? hi
    apply slice?_eq_some_iff.mpr
    exact ⟨before, e ++ after, by rw [ht]; simp, hoffset, by rw [hoffset]⟩
  feed_notMem _ := feed_notMem_of_mem_locatedLines
  ending i l hi := by
    obtain ⟨before, e, after, ht, hoffset, hnext, he⟩ := exists_parts_of_getElem? hi
    refine ⟨e, slice?_eq_some_iff.mpr ⟨before ++ l.line, after, ht, ?_, ?_⟩, he⟩
    · rw [size_append, hoffset]
    · rw [size_append, hnext]

/-! ## The other reading -/

/-- The last piece ends as the text does; for the pieces before it both readings are the same. -/
theorem exists_last_piece {t : Text} (ht : t ≠ []) :
    ∃ init p, pieces t = init ++ [p] ∧ p.getLast? = t.getLast? ∧
      init.map chomp = init.map withoutEnding := by
  rcases List.eq_nil_or_concat (pieces t) with hnil | ⟨init, p, hpieces⟩
  · exact absurd (pieces_eq_nil_iff.mp hnil) ht
  · rw [List.concat_eq_append] at hpieces
    refine ⟨init, p, hpieces, ?_, ?_⟩
    · have hmem : p ∈ pieces t := by simp [hpieces]
      -- the last piece is not empty, so the text ends in it
      have hflat : t = init.flatten ++ p := by
        rw [← flatten_pieces t, hpieces]
        simp
      rw [hflat, List.getLast?_append_of_ne_nil _ (ne_nil_of_mem_piecesAt hmem)]
    · apply List.map_congr_left
      intro q hq
      exact (withoutEnding_eq_chomp (getLast?_of_piecesAt_eq_append hpieces q hq)).symm

/-- If the text ends with a line feed, both readings have the same lines. -/
theorem map_line_of_ended {t : Text} (ht : t.getLast? = some '\n') :
    (locatedLines t).map Located.line = lines t := by
  obtain ⟨init, p, hpieces, hp, hinit⟩ := exists_last_piece (t := t) (by rintro rfl; simp at ht)
  rw [map_line_locatedLines, lines, hpieces, List.map_append, List.map_append, hinit,
    List.map_singleton, List.map_singleton, withoutEnding_eq_chomp (hp.trans ht)]

/-- Otherwise they differ in a carriage return at the very end. -/
theorem map_line_of_unended {t : Text} (hne : t ≠ []) (ht : t.getLast? ≠ some '\n') :
    ∃ init last new, lines t = init ++ [last] ∧
      (locatedLines t).map Located.line = init ++ [new] ∧ LosesReturn last new := by
  obtain ⟨init, p, hpieces, hp, hinit⟩ := exists_last_piece hne
  have hunended : p.getLast? ≠ some '\n' := by rwa [hp]
  -- the other reading keeps a piece as it is if no line feed ends it
  have hlast : withoutEnding p = p := by rw [withoutEnding, if_neg hunended]
  refine ⟨init.map withoutEnding, p, chomp p, ?_, ?_, losesReturn_chomp hunended⟩
  · rw [lines, hpieces, List.map_append, List.map_singleton, hlast]
  · rw [map_line_locatedLines, hpieces, List.map_append, List.map_singleton, hinit]

/-- Located lines tile their text.  They are the lines of the other reading, only that a last line
which no line feed ends loses a carriage return. -/
theorem located_lines_partition (t : Text) :
    Tiles t (locatedLines t) ∧
    (t = [] ∨ t.getLast? = some '\n' → (locatedLines t).map Located.line = lines t) ∧
    (t ≠ [] → t.getLast? ≠ some '\n' → ∃ init last new, lines t = init ++ [last] ∧
      (locatedLines t).map Located.line = init ++ [new] ∧ LosesReturn last new) := by
  refine ⟨tiles_locatedLines t, ?_, map_line_of_unended⟩
  rintro (rfl | ht)
  · rfl
  · exact map_line_of_ended ht

/-- Both line endings, a carriage return behind the last line, and a character of two bytes. -/
theorem located_lines_partition_returns :
    let t := "é\r\n\nb\r".toList
    locatedLines t = [⟨0, "é".toList⟩, ⟨4, []⟩, ⟨5, "b".toList⟩] ∧
    Tiles t (locatedLines t) ∧ t ≠ [] ∧ t.getLast? ≠ some '\n' ∧
    ∃ init last new, lines t = init ++ [last] ∧
      (locatedLines t).map Located.line = init ++ [new] ∧ LosesReturn last new := by
  intro t
  have hne : t ≠ [] := by decide
  have hlast : t.getLast? ≠ some '\n' := by decide
  obtain ⟨htiles, -, hunended⟩ := located_lines_partition t
  exact ⟨by decide, htiles, hne, hlast, hunended hne hlast⟩

end LayerView.Text
