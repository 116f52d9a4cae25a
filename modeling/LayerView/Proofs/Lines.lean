import LayerView.Edit
import Mathlib.Data.List.Forall2

/-!
# Cutting and joining lines

A text that was joined from lines and is cut again gives the same lines back, with two exceptions: a
carriage return at the end of a line may go, and so may an empty line at the end of the text.  Both
readings of lines share this law, because both are maps over the same pieces.

Main statements:
- `flatten_piecesAt`: cutting a text loses nothing
- `piecesAt_flatten_of_eq_append`: the text before a piece is cut into the pieces before it
- `map_pieces_joinLines`: what is left of lines that were joined
-/

namespace LayerView.Text

/-! ## Pieces -/

/-- Pieces make up the text that was cut. -/
theorem flatten_piecesAt (stop : Char) (t : Text) : (piecesAt stop t).flatten = t := by
  induction t with
  | nil => rfl
  | cons c t ih =>
    by_cases hc : c = stop
    · simp [piecesAt, hc, ih]
    · -- `c` goes to the first piece of the rest, or is a piece if there is no rest
      cases hp : piecesAt stop t with
      | nil =>
        have ht : t = [] := by simpa [hp] using ih.symm
        simp [piecesAt, hc, ht]
      | cons p ps =>
        have ht : p ++ ps.flatten = t := by simpa [hp] using ih
        simp [piecesAt, hc, hp, ht]

/-- A text without the mark is one piece. -/
theorem piecesAt_of_notMem {stop : Char} {t : Text} (h : stop ∉ t) (ht : t ≠ []) :
    piecesAt stop t = [t] := by
  induction t with
  | nil => exact absurd rfl ht
  | cons c t ih =>
    have hc : c ≠ stop := fun e => h (by simp [e])
    have hrest : stop ∉ t := fun hm => h (List.mem_cons_of_mem c hm)
    cases t with
    | nil => simp [piecesAt, hc]
    | cons d t => rw [piecesAt, if_neg hc, ih hrest (List.cons_ne_nil d t)]

/-- The first mark ends the first piece. -/
theorem piecesAt_append_cons {stop : Char} {s : Text} (h : stop ∉ s) (t : Text) :
    piecesAt stop (s ++ stop :: t) = (s ++ [stop]) :: piecesAt stop t := by
  induction s with
  | nil => simp [piecesAt]
  | cons c s ih =>
    have hc : c ≠ stop := fun e => h (by simp [e])
    have hrest : stop ∉ s := fun hm => h (List.mem_cons_of_mem c hm)
    simp [piecesAt, hc, ih hrest]

/-- A piece has the mark at its end only. -/
theorem notMem_dropLast_of_mem_piecesAt {stop : Char} {t p : Text} (hp : p ∈ piecesAt stop t) :
    stop ∉ p.dropLast := by
  induction t generalizing p with
  | nil => simp [piecesAt] at hp
  | cons c t ih =>
    by_cases hc : c = stop
    · rw [piecesAt, if_pos hc] at hp
      rcases List.mem_cons.mp hp with rfl | hp
      · simp
      · exact ih hp
    · cases hps : piecesAt stop t with
      | nil =>
        rw [piecesAt, if_neg hc, hps] at hp
        obtain rfl : p = [c] := by simpa using hp
        simp
      | cons q qs =>
        rw [piecesAt, if_neg hc, hps] at hp
        rcases List.mem_cons.mp hp with rfl | hp
        · -- the first piece of the rest has `c` put in front
          have hq : stop ∉ q.dropLast := ih (by rw [hps]; exact List.mem_cons_self)
          cases q with
          | nil => simp
          | cons d q =>
            rw [List.dropLast_cons_cons]
            intro hm
            rcases List.mem_cons.mp hm with e | hm
            · exact hc e.symm
            · exact hq hm
        · exact ih (by rw [hps]; exact List.mem_cons_of_mem q hp)

/-- A text is cut behind every mark, so what follows a mark is cut by itself. -/
theorem piecesAt_append_mark (stop : Char) (s t : Text) :
    piecesAt stop (s ++ stop :: t) = piecesAt stop (s ++ [stop]) ++ piecesAt stop t := by
  induction s with
  | nil => simp [piecesAt]
  | cons c s ih =>
    by_cases hc : c = stop
    · simp [piecesAt, hc, ih]
    · cases hp : piecesAt stop (s ++ [stop]) with
      | nil =>
        -- there is a mark, so there is a piece
        have hflat := flatten_piecesAt stop (s ++ [stop])
        simp [hp] at hflat
      | cons p ps => simp [piecesAt, hc, ih, hp]

/-- Every piece but the last ends with the mark. -/
theorem getLast?_of_piecesAt_eq_append {stop : Char} {t p : Text} {done ps : List Text}
    (h : piecesAt stop t = done ++ p :: ps) : ∀ q ∈ done, q.getLast? = some stop := by
  induction t generalizing done p ps with
  | nil => simp [piecesAt] at h
  | cons c t ih =>
    cases done with
    | nil => simp
    | cons d done =>
      by_cases hc : c = stop
      · rw [piecesAt, if_pos hc, List.cons_append, List.cons.injEq] at h
        obtain ⟨rfl, hrest⟩ := h
        intro q hq
        rcases List.mem_cons.mp hq with rfl | hq
        · simp [hc]
        · exact ih hrest q hq
      · cases hps : piecesAt stop t with
        | nil =>
          rw [piecesAt, if_neg hc, hps, List.cons_append, List.cons.injEq] at h
          simp at h
        | cons e es =>
          rw [piecesAt, if_neg hc, hps, List.cons_append, List.cons.injEq] at h
          obtain ⟨rfl, rfl⟩ := h
          -- the first piece only grows at its start
          have hend := ih (show piecesAt stop t = (e :: done) ++ p :: ps by
            rw [hps, List.cons_append])
          intro q hq
          rcases List.mem_cons.mp hq with rfl | hq
          · rw [List.getLast?_cons, hend e List.mem_cons_self, Option.getD_some]
          · exact hend q (List.mem_cons_of_mem e hq)

/-- Pieces that end with the mark and have it nowhere else are cut where they were joined. -/
theorem piecesAt_flatten {stop : Char} {ps : List Text}
    (h : ∀ p ∈ ps, stop ∉ p.dropLast ∧ p.getLast? = some stop) :
    piecesAt stop ps.flatten = ps := by
  induction ps with
  | nil => rfl
  | cons p ps ih =>
    obtain ⟨hbody, hlast⟩ := h p List.mem_cons_self
    -- each piece is cut off at its own mark
    have hp : p = p.dropLast ++ [stop] := (List.dropLast_append_getLast? stop hlast).symm
    have hrest := ih fun q hq => h q (List.mem_cons_of_mem p hq)
    rw [List.flatten_cons, hp, List.append_assoc, List.singleton_append,
      piecesAt_append_cons hbody, hrest]

/-- The text before a piece is cut into the pieces before it. -/
theorem piecesAt_flatten_of_eq_append {stop : Char} {t p : Text} {done ps : List Text}
    (h : piecesAt stop t = done ++ p :: ps) : piecesAt stop done.flatten = done := by
  apply piecesAt_flatten
  intro q hq
  have hmem : q ∈ piecesAt stop t := by
    rw [h]
    exact List.mem_append_left _ hq
  exact ⟨notMem_dropLast_of_mem_piecesAt hmem, getLast?_of_piecesAt_eq_append h q hq⟩

/-! ## Lines hold no line feed -/

theorem mem_of_mem_dropFinal {c d : Char} {t : Text} (h : d ∈ dropFinal c t) : d ∈ t := by
  unfold dropFinal at h
  split at h
  · exact List.dropLast_subset t h
  · exact h

/-- Without the last mark a piece has none. -/
theorem feed_notMem_dropFinal {p : Text} (h : '\n' ∉ p.dropLast) : '\n' ∉ dropFinal '\n' p := by
  unfold dropFinal
  split
  · exact h
  case isFalse hlast =>
    intro hm
    -- a line feed that is not the last character would be in what precedes it
    rcases List.eq_nil_or_concat p with rfl | ⟨q, c, rfl⟩
    · simp at hm
    · simp only [List.concat_eq_append, List.dropLast_concat] at h
      simp only [List.concat_eq_append, List.mem_append, List.mem_singleton] at hm
      rcases hm with hm | rfl
      · exact h hm
      · simp at hlast

/-- With its ending taken off, a piece has no line feed. -/
theorem feed_notMem_chomp {t p : Text} (hp : p ∈ pieces t) : '\n' ∉ chomp p := fun hm =>
  feed_notMem_dropFinal (notMem_dropLast_of_mem_piecesAt hp) (mem_of_mem_dropFinal hm)

theorem feed_notMem_withoutEnding {t p : Text} (hp : p ∈ pieces t) : '\n' ∉ withoutEnding p := by
  have h := feed_notMem_dropFinal (notMem_dropLast_of_mem_piecesAt hp)
  unfold withoutEnding
  unfold dropFinal at h
  split
  -- a carriage return may be taken off behind the line feed
  case isTrue hlast =>
    rw [if_pos hlast] at h
    exact fun hm => h (mem_of_mem_dropFinal hm)
  case isFalse hlast => rwa [if_neg hlast] at h

/-- No line of a text has a line feed. -/
theorem feed_notMem_of_mem_lines {t l : Text} (h : l ∈ lines t) : '\n' ∉ l := by
  obtain ⟨p, hp, rfl⟩ := List.mem_map.mp h
  exact feed_notMem_withoutEnding hp

/-- Located lines are the pieces without their endings. -/
private theorem map_line_locate (n : Nat) (ps : List Text) :
    (locate n ps).map Located.line = ps.map chomp := by
  induction ps generalizing n with
  | nil => rfl
  | cons p ps ih => simp [locate, ih]

theorem map_line_locatedLines (t : Text) :
    (locatedLines t).map Located.line = (pieces t).map chomp := map_line_locate 0 _

theorem feed_notMem_of_mem_locatedLines {t : Text} {l : Located} (h : l ∈ locatedLines t) :
    '\n' ∉ l.line := by
  have hl : l.line ∈ (pieces t).map chomp := by
    rw [← map_line_locatedLines]
    exact List.mem_map_of_mem h
  obtain ⟨p, hp, he⟩ := List.mem_map.mp hl
  rw [← he]
  exact feed_notMem_chomp hp

/-- The two ways to take off an ending differ only where there is no line feed. -/
theorem withoutEnding_eq_chomp {p : Text} (h : p.getLast? = some '\n') :
    withoutEnding p = chomp p := by
  simp [withoutEnding, chomp, dropFinal, h]

/-! ## Lines of a longer text -/

/-- The lines up to a line feed, and those behind it. -/
theorem lines_append_feed (s t : Text) : lines (s ++ '\n' :: t) = lines (s ++ ['\n']) ++ lines t := by
  simp only [lines, pieces, piecesAt_append_mark '\n' s t, List.map_append]

theorem lines_of_feed_notMem {t : Text} (h : '\n' ∉ t) (ht : t ≠ []) : lines t = [t] := by
  have hlast : t.getLast? ≠ some '\n' := fun e => h (List.mem_of_getLast? e)
  simp [lines, pieces, piecesAt_of_notMem h ht, withoutEnding, hlast]

/-- A line feed at the end of a text only ends its last line. -/
theorem lines_concat_feed (t : Text) {c : Char} (hfeed : c ≠ '\n') (hreturn : c ≠ '\r') :
    lines (t ++ [c] ++ ['\n']) = lines (t ++ [c]) := by
  induction hn : t.length using Nat.strongRecOn generalizing t with
  | ind n ih =>
    by_cases ht : '\n' ∈ t
    · -- the lines up to the first line feed are the same, and the rest is shorter
      obtain ⟨a, b, rfl, -⟩ := List.eq_append_cons_of_mem ht
      have hrest := ih b.length (by simp at hn; omega) b rfl
      have hlong : a ++ '\n' :: b ++ [c] ++ ['\n'] = a ++ '\n' :: (b ++ [c] ++ ['\n']) := by simp
      have hshort : a ++ '\n' :: b ++ [c] = a ++ '\n' :: (b ++ [c]) := by simp
      rw [hlong, hshort, lines_append_feed, lines_append_feed a (b ++ [c]), hrest]
    · have hline : '\n' ∉ t ++ [c] := by simp [ht, Ne.symm hfeed]
      have hpieces : pieces (t ++ [c] ++ ['\n']) = [t ++ [c] ++ ['\n']] := by
        simpa [piecesAt] using piecesAt_append_cons hline []
      rw [lines_of_feed_notMem hline (by simp), lines, hpieces]
      simp [withoutEnding, dropFinal, hreturn]

/-! ## Lines that were joined -/

/-- `new` is `old` less some carriage returns at its end. -/
def Trims (old new : Text) : Prop := ∃ n, old = new ++ List.replicate n '\r'

theorem trims_refl (t : Text) : Trims t t := ⟨0, by simp⟩

theorem trims_trans {t u v : Text} (h : Trims t u) (h' : Trims u v) : Trims t v := by
  obtain ⟨n, rfl⟩ := h
  obtain ⟨m, rfl⟩ := h'
  exact ⟨m + n, by simp⟩

theorem trims_dropFinal (t : Text) : Trims t (dropFinal '\r' t) := by
  unfold dropFinal
  split
  case isTrue h =>
    have ht := List.dropLast_append_getLast? '\r' h
    exact ⟨1, by simpa using ht.symm⟩
  case isFalse => exact trims_refl t

theorem joinLines_cons_cons (l k : Text) (ls : List Text) :
    joinLines (l :: k :: ls) = l ++ '\n' :: joinLines (k :: ls) := by
  simp [joinLines, List.intercalate]

/-- A way to take the ending off a piece that touches only the carriage returns of the line. -/
structure TakesEnding (ending : Text → Text) : Prop where
  ended : ∀ l, '\n' ∉ l → Trims l (ending (l ++ ['\n']))
  unended : ∀ l, '\n' ∉ l → Trims l (ending l)
  feed_notMem : ∀ {t p}, p ∈ pieces t → '\n' ∉ ending p

/-- One reading of lines takes off a carriage return only with a line feed. -/
theorem takesEnding_withoutEnding : TakesEnding withoutEnding where
  ended l _ := by
    have h : withoutEnding (l ++ ['\n']) = dropFinal '\r' l := by simp [withoutEnding]
    rw [h]
    exact trims_dropFinal l
  unended l hl := by
    have hlast : l.getLast? ≠ some '\n' := fun e => hl (List.mem_of_getLast? e)
    have h : withoutEnding l = l := by simp [withoutEnding, hlast]
    rw [h]
    exact trims_refl l
  feed_notMem := feed_notMem_withoutEnding

/-- The other takes it off the last line too. -/
theorem takesEnding_chomp : TakesEnding chomp where
  ended l _ := by
    have h : chomp (l ++ ['\n']) = dropFinal '\r' l := by simp [chomp, dropFinal]
    rw [h]
    exact trims_dropFinal l
  unended l hl := by
    have hlast : l.getLast? ≠ some '\n' := fun e => hl (List.mem_of_getLast? e)
    have h : chomp l = dropFinal '\r' l := by simp [chomp, dropFinal, hlast]
    rw [h]
    exact trims_dropFinal l
  feed_notMem := feed_notMem_chomp

/-- Lines that are joined and cut again come back in order, all but empty ones at the end. -/
theorem map_pieces_joinLines {ending : Text → Text} (he : TakesEnding ending) {ls : List Text}
    (hls : ∀ l ∈ ls, '\n' ∉ l) :
    ∃ kept gone, ls = kept ++ gone ∧ (∀ l ∈ gone, l = []) ∧
      List.Forall₂ Trims kept ((pieces (joinLines ls)).map ending) := by
  induction ls with
  | nil => exact ⟨[], [], rfl, by simp, List.Forall₂.nil⟩
  | cons l ls ih =>
    have hl : '\n' ∉ l := hls l List.mem_cons_self
    cases ls with
    | nil =>
      -- no line feed follows the last line, so an empty one leaves no piece
      by_cases hnil : l = []
      · exact ⟨[], [l], rfl, by simp [hnil], by simp [hnil, joinLines, List.intercalate, piecesAt]⟩
      · refine ⟨[l], [], by simp, by simp, ?_⟩
        have hpieces : pieces (joinLines [l]) = [l] := by
          simpa [joinLines, List.intercalate] using piecesAt_of_notMem hl hnil
        rw [hpieces]
        exact List.Forall₂.cons (he.unended l hl) List.Forall₂.nil
    -- a line feed follows, so the line is a piece even if it is empty
    | cons k ls =>
      obtain ⟨kept, gone, hsplit, hgone, hkept⟩ := ih fun x hx => hls x (List.mem_cons_of_mem l hx)
      refine ⟨l :: kept, gone, by simp [hsplit], hgone, ?_⟩
      rw [joinLines_cons_cons, pieces, piecesAt_append_cons hl, List.map_cons]
      exact List.Forall₂.cons (he.ended l hl) hkept

end LayerView.Text
