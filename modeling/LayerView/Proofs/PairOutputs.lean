import LayerView.Proofs.Effects
import LayerView.Proofs.PairedFiles

/-!
# The two files of a view in a directory

A view of two files that goes into a directory is named by the stem of its drawing.  The stem is
joined to the directory and then gets the extensions, and the second step takes a stem like
`Dots.small` for a name with an extension of its own, which it replaces.  So a stem loses what
follows its last dot, unless that dot is its first character, and drawings that differ only there
are written over each other.  A stem of which only a single dot is left leads out of the directory.

Main statements:
- `Path.stemOf_eq_self_iff`: the stems that lose nothing
- `Path.withExtension_append`, `Path.withExtension_append_of_dot`, `Path.withExtension_join_dot`:
  another extension for a name in a directory
- `Path.exists_place_join`: different names in a directory are at different places
- `pair_outputs_in_directory`: the paths of a view, and when they are named by the stem
- `dotted_stem_shortened`: a stem that loses its end
-/

namespace LayerView

open LayerView.Text

namespace Path

/-! ## Stems -/

theorem stemOf_of_splitDot? {name stem ext : Text} (h : splitDot? name = some (stem, ext)) :
    stemOf name = stem := by
  rw [stemOf, h]

theorem stemOf_of_none {name : Text} (h : splitDot? name = none) : stemOf name = name := by
  rw [stemOf, h]

theorem isPrefix_stemOf (name : Text) : stemOf name <+: name := by
  cases h : splitDot? name with
  | none => exact ⟨[], by rw [stemOf_of_none h, List.append_nil]⟩
  | some parts =>
    obtain ⟨hname, -, -⟩ := splitDot?_eq_some_iff.mp h
    rw [stemOf_of_splitDot? h]
    exact ⟨_, hname.symm⟩

theorem stemOf_ne_nil {name : Text} (hname : name ≠ []) : stemOf name ≠ [] := by
  cases h : splitDot? name with
  | none => rwa [stemOf_of_none h]
  | some parts =>
    obtain ⟨-, hstem, -⟩ := splitDot?_eq_some_iff.mp h
    rwa [stemOf_of_splitDot? h]

theorem slash_notMem_stemOf {name : Text} (h : '/' ∉ name) : '/' ∉ stemOf name :=
  fun hm => h ((isPrefix_stemOf name).subset hm)

/-- A stem loses nothing if it has no dot, or only one that is its first character. -/
theorem stemOf_eq_self_iff {name : Text} (hname : name ≠ []) :
    stemOf name = name ↔ '.' ∉ name.tail := by
  obtain ⟨c, t, rfl⟩ := List.exists_cons_of_ne_nil hname
  constructor
  · intro hself hdot
    -- what follows the last dot is an extension
    obtain ⟨back, front, hback, hnot⟩ := List.eq_append_cons_of_mem (List.mem_reverse.mpr hdot)
    have ht : t = front.reverse ++ '.' :: back.reverse := by
      simpa using congrArg List.reverse hback
    have hsplit : splitDot? (c :: t) = some (c :: front.reverse, back.reverse) :=
      splitDot?_eq_some_iff.mpr ⟨by rw [ht]; rfl, by simp, by simpa using hnot⟩
    have hlength := congrArg List.length ((stemOf_of_splitDot? hsplit).symm.trans hself)
    rw [ht] at hlength
    simp at hlength
  · intro hdot
    apply stemOf_of_none
    rw [Option.eq_none_iff_forall_ne_some]
    rintro ⟨stem, ext⟩ hsplit
    obtain ⟨hparts, hstem, -⟩ := splitDot?_eq_some_iff.mp hsplit
    obtain ⟨d, stem, rfl⟩ := List.exists_cons_of_ne_nil hstem
    -- the dot behind the stem is not the first character
    apply hdot
    rw [hparts]
    simp

/-! ## Names in a directory -/

theorem isAbsolute_of_notMem {name : Text} (h : '/' ∉ name) : isAbsolute name = false := by
  cases name with
  | nil => rfl
  | cons c t =>
    have hc : c ≠ '/' := fun hc => h (by simp [hc])
    simp [isAbsolute, hc]

/-- A directory is put in front of a name, with a slash between the two where it needs one. -/
theorem exists_join (dir : Path) :
    ∃ front, EndsDirectory front ∧ dir.length ≤ front.length ∧
      ∀ name, '/' ∉ name → join dir name = front ++ name := by
  by_cases hempty : dir = []
  · -- an empty directory adds nothing, not even a slash
    refine ⟨[], by simp [EndsDirectory], by simp [hempty], ?_⟩
    intro name _
    simp [join, hempty]
  · by_cases hslash : dir.getLast? = some '/'
    · refine ⟨dir, ?_, Nat.le_refl _, ?_⟩
      · intro c hc
        exact (Option.some.inj (hslash.symm.trans hc)).symm
      · intro name hname
        simp [join, isAbsolute_of_notMem hname, hempty, hslash]
    · refine ⟨dir ++ ['/'], by simp [EndsDirectory], by simp, ?_⟩
      intro name hname
      simp [join, isAbsolute_of_notMem hname, hempty, hslash]

theorem isDots_of_ne {name : Text} (hnil : name ≠ []) (hdot : name ≠ ['.'])
    (hdots : name ≠ ['.', '.']) : isDots name = false := by
  simp [isDots, hnil, hdot, hdots]

section Append

variable {front name : Text} (hfront : EndsDirectory front) (hslash : '/' ∉ name)
include hfront hslash

/-- A name behind a directory is split off, unless it is made of dots. -/
theorem splitName?_append (hdots : isDots name = false) :
    splitName? (front ++ name) = some (front, name) := by
  have hlast := lastPart_append hfront hslash
  obtain ⟨hnil, hdot, -⟩ := ne_of_isDots_eq_false hdots
  have htrimmed : trimmed (front ++ name) = front ++ name :=
    trimmed_eq_self (by rwa [hlast]) (by rwa [hlast])
  simp only [splitName?, htrimmed, hlast, beforeLast_append hfront hslash, hdots]
  rfl

/-- In a directory too, an extension takes the place of what follows the last dot. -/
theorem withExtension_append (hname : name ≠ []) (hstem : stemOf name ≠ ['.']) (ext : Text) :
    withExtension (front ++ name) ext = front ++ (stemOf name ++ '.' :: ext) := by
  cases hsplit : splitDot? name with
  | none =>
    -- without an extension there is nothing to drop
    have hself := stemOf_of_none hsplit
    have hdots : isDots name = false := by
      apply isDots_of_ne hname (hself ▸ hstem)
      rintro rfl
      simp [splitDot?] at hsplit
    have hparts := splitName?_append hfront hslash hdots
    have hnone : extension? (front ++ name) = none := by simp [extension?, hparts, hsplit]
    simp [withExtension, dropExtension, hnone, setExtension, hparts]
  | some parts =>
    obtain ⟨stem, old⟩ := parts
    have hstemOf := stemOf_of_splitDot? hsplit
    obtain ⟨rfl, hne, hdot⟩ := splitDot?_eq_some_iff.mp hsplit
    by_cases hold : old = []
    · -- the name ends in its last dot, and dropping the empty extension changes nothing
      subst hold
      have hdots : isDots (stem ++ ['.']) = false := by
        apply isDots_of_ne (by simp) (by simpa using hne)
        intro h
        have hcancel : stem ++ ['.'] = ['.'] ++ ['.'] := h
        exact hstem (hstemOf.trans (List.append_cancel_right hcancel))
      have hparts := splitName?_append hfront hslash hdots
      have hkeep : dropExtension (front ++ (stem ++ ['.'])) = front ++ (stem ++ ['.']) := by
        have hempty : extension? (front ++ (stem ++ ['.'])) = some [] := by
          simp [extension?, hparts, hsplit]
        simp only [dropExtension, hempty, List.length_nil, Nat.sub_zero, List.take_length, ite_self]
      rw [withExtension, hkeep, setExtension, hparts]
      simp [hstemOf]
    · -- a name with an extension of its own
      have hparts : HasParts (front ++ (stem ++ '.' :: old)) front stem old := by
        simp only [List.mem_append, List.mem_cons, not_or] at hslash
        exact hasParts_append hfront hslash.1 hne hslash.2.2 hold hdot
      rw [hstemOf] at hstem ⊢
      exact hparts.withExtension_eq (fun h => absurd h hstem) ext

/-- If only a single dot is left of a longer name, the path leads to the directory above. -/
theorem withExtension_append_of_dot (hname : name ≠ ['.']) (hstem : stemOf name = ['.'])
    (ext : Text) : withExtension (front ++ name) ext = front ++ ['.', '.'] := by
  cases hsplit : splitDot? name with
  | none => exact absurd ((stemOf_of_none hsplit).symm.trans hstem) hname
  | some parts =>
    obtain ⟨stem, old⟩ := parts
    obtain rfl := (stemOf_of_splitDot? hsplit).symm.trans hstem
    obtain ⟨rfl, -, hdot⟩ := splitDot?_eq_some_iff.mp hsplit
    by_cases hold : old = []
    · subst hold
      -- two dots have no file name and stay
      have hlast : lastPart (front ++ ['.', '.']) = ['.', '.'] := lastPart_append hfront hslash
      have htrimmed : trimmed (front ++ ['.', '.']) = front ++ ['.', '.'] :=
        trimmed_eq_self (by simp [hlast]) (by simp [hlast])
      have hparts : splitName? (front ++ ['.', '.']) = none := by
        simp [splitName?, htrimmed, hlast, isDots]
      simp [withExtension, dropExtension, extension?, setExtension, hparts]
    · have hparts : HasParts (front ++ (['.'] ++ '.' :: old)) front ['.'] old := by
        simp only [List.mem_append, List.mem_cons, not_or] at hslash
        exact hasParts_append hfront (by decide) (by decide) hslash.2.2 hold hdot
      exact hparts.withExtension_of_dot hparts.trimmed_eq ext

end Append

/-! ## The directory itself -/

/-- A single dot in a directory is trimmed, and the directory with it as far as it can be. -/
private theorem trimmed_join_dot {dir : Path} (hdir : dir ≠ []) :
    trimmed (join dir ['.']) = trimmed dir := by
  have hrelative : isAbsolute ['.'] = false := by decide
  by_cases hslash : dir.getLast? = some '/'
  · obtain ⟨front, rfl⟩ : ∃ front, dir = front ++ ['/'] := List.getLast?_eq_some_iff.mp hslash
    simp [join, hrelative, trimmed, dropTrailing]
  · simp [join, hrelative, hdir, hslash, trimmed, dropTrailing]

/-- The extension goes to the directory, if that has a name. -/
theorem withExtension_join_dot (dir : Path) (ext : Text) :
    withExtension (join dir ['.']) ext = (splitName? dir).elim (join dir ['.'])
      fun parts => parts.1 ++ (stemOf parts.2 ++ '.' :: ext) := by
  by_cases hdir : dir = []
  · subst hdir
    rfl
  · have htrimmed := trimmed_join_dot hdir
    have hparts : splitName? (join dir ['.']) = splitName? dir := by
      simp only [splitName?, htrimmed]
    -- the dot is trimmed, so nothing is dropped
    have hshorter : trimmed (join dir ['.']) ≠ join dir ['.'] := by
      intro hsame
      obtain ⟨front, -, hlength, hjoin⟩ := exists_join dir
      have hle := List.IsPrefix.length_le <| trimmed_prefix dir
      rw [← htrimmed, hsame, hjoin ['.'] (by decide), List.length_append] at hle
      simp only [List.length_singleton] at hle
      omega
    have hkeep : dropExtension (join dir ['.']) = join dir ['.'] := by
      unfold dropExtension
      split
      · rw [if_neg hshorter]
      · rfl
    rw [withExtension, hkeep, setExtension, hparts]
    cases splitName? dir with
    | none => rfl
    | some parts => simp

/-! ## Places -/

/-- Where a path in a directory leads, up to the name. -/
private theorem exists_route_append {front : Text} (hfront : EndsDirectory front) :
    ∃ base parts, ∀ name, '/' ∉ name → Disk.route (front ++ name) = (base, parts ++ [name]) := by
  -- the slash at the end of the directory parts it from the name
  have hparts : ∀ t name : Text, '/' ∉ name →
      Disk.parts (t ++ ['/'] ++ name) = Disk.parts t ++ [name] := by
    intro t name hname
    rw [List.append_assoc, List.singleton_append, parts_append_slash, parts_of_notMem hname]
  rcases List.eq_nil_or_concat front with rfl | ⟨t, c, rfl⟩
  · refine ⟨[], [], fun name hname => ?_⟩
    rw [List.nil_append, Disk.route, parts_of_notMem hname]
    · rfl
    · rintro t rfl
      exact hname List.mem_cons_self
  · obtain rfl : c = '/' := hfront c (by simp)
    rw [List.concat_eq_append]
    cases t with
    | nil =>
      refine ⟨Disk.root, [], fun name hname => ?_⟩
      show (Disk.root, Disk.parts name) = _
      rw [parts_of_notMem hname, List.nil_append]
    | cons c t =>
      by_cases hc : c = '/'
      · subst hc
        refine ⟨Disk.root, Disk.parts t, fun name hname => ?_⟩
        show (Disk.root, Disk.parts (t ++ ['/'] ++ name)) = _
        rw [hparts t name hname]
      · refine ⟨[], Disk.parts (c :: t), fun name hname => ?_⟩
        rw [Disk.route, hparts (c :: t) name hname]
        rintro u hu
        exact hc (List.cons.inj hu).1

/-- The place of a name in a directory is that of the directory and the name. -/
theorem exists_place_join (dir : Path) :
    ∃ l : Location, ∀ name, '/' ∉ name → isDots name = false →
      Disk.place (join dir name) = l ++ [name] := by
  obtain ⟨front, hfront, -, hjoin⟩ := exists_join dir
  obtain ⟨base, parts, hroute⟩ := exists_route_append hfront
  refine ⟨parts.foldl Disk.step base, fun name hslash hdots => ?_⟩
  -- the name is one step down from the directory
  obtain ⟨hnil, hdot, htwo⟩ := ne_of_isDots_eq_false hdots
  rw [hjoin name hslash, Disk.place, hroute name hslash, List.foldl_append, List.foldl_cons,
    List.foldl_nil, Disk.step, if_neg (by simp [hnil, hdot]), if_neg htwo]

/-! ## The files of a view -/

/-- The two files of a view in a directory, under a stem. -/
def pairIn (dir : Path) (stem : Text) : Path × Path :=
  (join dir (stem ++ ".h".toList), join dir (stem ++ ".m".toList))

/-- A path whose file name is a stem with the extension of a header or an implementation. -/
def HasStem (p : Path) (stem : Text) : Prop :=
  stem ≠ [] ∧ ∃ dir ext, (ext = ['h'] ∨ ext = ['m']) ∧ splitName? p = some (dir, stem ++ '.' :: ext)

/-- Two views of which a file of the one is at the place of a file of the other. -/
def Collide (paths paths' : Path × Path) : Prop :=
  ∃ p ∈ [paths.1, paths.2], ∃ q ∈ [paths'.1, paths'.2], Disk.place p = Disk.place q

/-- Where the files of a view go in a directory, by the stem of its drawing. -/
structure Destinations (dir : Path) (stem : Text) (paths : Path × Path) : Prop where
  /-- They are named by the stem if it has no dot behind its first character, and is not a dot. -/
  named_iff : paths = pairIn dir stem ↔ '.' ∉ stem.tail ∧ stem ≠ ['.']
  /-- In general they are named by what is before the last such dot. -/
  shortened : stemOf stem ≠ ['.'] → paths = pairIn dir (stemOf stem)
  /-- If this is a single dot, both paths lead to the directory above. -/
  above : stem ≠ ['.'] → stemOf stem = ['.'] →
    paths = (join dir ['.', '.'], join dir ['.', '.'])
  /-- A stem of a single dot gives the extensions to the directory, if that has a name. -/
  beside : stem = ['.'] → ∀ front name, splitName? dir = some (front, name) →
    paths = (front ++ (stemOf name ++ ".h".toList), front ++ (stemOf name ++ ".m".toList))
  stays : stem = ['.'] → splitName? dir = none → paths = (join dir ['.'], join dir ['.'])

/-- The stem of a header or an implementation is what is before its extension. -/
theorem HasStem.stem?_eq {p : Path} {stem : Text} (h : HasStem p stem) : stem? p = some stem := by
  obtain ⟨hne, dir, ext, hext, hparts⟩ := h
  -- neither of the extensions has a dot, so the last one is before it
  have hdot : '.' ∉ ext := by rcases hext with rfl | rfl <;> decide
  have hsplit : splitDot? (stem ++ '.' :: ext) = some (stem, ext) :=
    splitDot?_eq_some_iff.mpr ⟨rfl, hne, hdot⟩
  simp only [stem?, hparts, Option.map_some, stemOf_of_splitDot? hsplit]

theorem HasStem.slash_notMem {p : Path} {stem : Text} (h : HasStem p stem) : '/' ∉ stem := by
  obtain ⟨-, dir, ext, -, hparts⟩ := h
  simp only [splitName?, Option.ite_none_left_eq_some, Option.some.injEq, Prod.mk.injEq] at hparts
  have hslash := slash_notMem_lastPart (trimmed p)
  rw [hparts.2.2] at hslash
  exact fun hm => hslash (List.mem_append_left _ hm)

theorem pairIn_eq_iff {dir : Path} {stem stem' : Text} (hslash : '/' ∉ stem)
    (hslash' : '/' ∉ stem') : pairIn dir stem = pairIn dir stem' ↔ stem = stem' := by
  obtain ⟨front, -, -, hjoin⟩ := exists_join dir
  constructor
  · intro h
    -- one of the two files is enough to tell
    have hheader : join dir (stem ++ ".h".toList) = join dir (stem' ++ ".h".toList) :=
      (Prod.mk.inj h).1
    rw [hjoin _ (by simpa using hslash), hjoin _ (by simpa using hslash')] at hheader
    exact List.append_cancel_right (List.append_cancel_left hheader)
  · rintro rfl
    rfl

/-- A stem of a single dot never names the files: the header would be longer than any path that is
made. -/
private theorem not_eq_pairIn_dot (dir : Path) :
    withExtension (join dir ['.']) ['h'] ≠ (pairIn dir ['.']).1 := by
  obtain ⟨front, -, hlength, hjoin⟩ := exists_join dir
  intro h
  have hlengths := congrArg List.length h
  rw [withExtension_join_dot, pairIn, hjoin _ (by decide), hjoin _ (by decide)] at hlengths
  cases hparts : splitName? dir with
  | none => simp [hparts] at hlengths
  | some parts =>
    -- the name of the directory is not longer than the directory
    obtain ⟨up, name⟩ := parts
    have hup : up ++ name = trimmed dir := by
      simp only [splitName?, Option.ite_none_left_eq_some, Option.some.injEq, Prod.mk.injEq]
        at hparts
      rw [← hparts.2.1, ← hparts.2.2, beforeLast_append_lastPart]
    have hdir := List.IsPrefix.length_le <| trimmed_prefix dir
    have hstem := (isPrefix_stemOf name).length_le
    rw [← hup, List.length_append] at hdir
    simp [hparts] at hlengths
    omega

/-- The extensions are put to the stem in the directory. -/
theorem destinations_withExtension (dir : Path) {stem : Text} (hne : stem ≠ [])
    (hslash : '/' ∉ stem) :
    Destinations dir stem
      (withExtension (join dir stem) ['h'], withExtension (join dir stem) ['m']) := by
  obtain ⟨front, hfront, -, hjoin⟩ := exists_join dir
  have hslash' := slash_notMem_stemOf hslash
  have hjoined : ∀ ext, '/' ∉ ext → front ++ (stemOf stem ++ '.' :: ext) =
      join dir (stemOf stem ++ '.' :: ext) := by
    intro ext hext
    rw [hjoin]
    simp [hslash', hext]
  have hshortened : stemOf stem ≠ ['.'] →
      (withExtension (join dir stem) ['h'], withExtension (join dir stem) ['m']) =
        pairIn dir (stemOf stem) := by
    intro hstem
    rw [hjoin stem hslash, withExtension_append hfront hslash hne hstem,
      withExtension_append hfront hslash hne hstem, hjoined _ (by decide), hjoined _ (by decide)]
    rfl
  have habove : stem ≠ ['.'] → stemOf stem = ['.'] →
      (withExtension (join dir stem) ['h'], withExtension (join dir stem) ['m']) =
        (join dir ['.', '.'], join dir ['.', '.']) := by
    intro hsingle hstem
    rw [hjoin stem hslash, withExtension_append_of_dot hfront hslash hsingle hstem,
      withExtension_append_of_dot hfront hslash hsingle hstem, hjoin _ (by decide)]
  refine ⟨?_, hshortened, habove, ?_, ?_⟩
  · rw [← stemOf_eq_self_iff hne]
    by_cases hsingle : stem = ['.']
    · -- the directory takes the extensions, and its name is too short
      subst hsingle
      refine iff_of_false (fun h => not_eq_pairIn_dot dir (Prod.mk.inj h).1) (fun h => h.2 rfl)
    · by_cases hstem : stemOf stem = ['.']
      · -- two dots are no header
        rw [habove hsingle hstem]
        refine iff_of_false ?_ (fun h => hsingle (h.1.symm.trans hstem))
        intro h
        have hheader : join dir ['.', '.'] = join dir (stem ++ ".h".toList) := (Prod.mk.inj h).1
        rw [hjoin _ (by decide), hjoin _ (by simpa using hslash)] at hheader
        have hlast := congrArg List.getLast? (List.append_cancel_left hheader)
        simp at hlast
      · rw [hshortened hstem, pairIn_eq_iff hslash' hslash]
        exact (and_iff_left hsingle).symm
  · rintro rfl up name hparts
    rw [withExtension_join_dot, withExtension_join_dot, hparts]
    rfl
  · rintro rfl hparts
    rw [withExtension_join_dot, withExtension_join_dot, hparts]
    rfl

/-- Two views collide exactly when they are named alike. -/
theorem collide_pairIn_iff (dir : Path) {stem stem' : Text} (hne : stem ≠ []) (hne' : stem' ≠ [])
    (hslash : '/' ∉ stem) (hslash' : '/' ∉ stem') :
    Collide (pairIn dir stem) (pairIn dir stem') ↔ stem = stem' := by
  obtain ⟨l, hplace⟩ := exists_place_join dir
  constructor
  · rintro ⟨p, hp, q, hq, hsame⟩
    -- each file is a stem with an extension
    have hfile : ∀ {s : Text}, s ≠ [] → '/' ∉ s → ∀ {p : Path},
        p ∈ [(pairIn dir s).1, (pairIn dir s).2] →
          ∃ c : Char, Disk.place p = l ++ [s ++ ['.', c]] := by
      intro s hs hslash p hp
      rcases List.mem_cons.mp hp with rfl | hp
      · exact ⟨'h', hplace _ (by simpa using hslash) (isDots_name hs (by decide))⟩
      · obtain rfl := List.mem_singleton.mp hp
        exact ⟨'m', hplace _ (by simpa using hslash) (isDots_name hs (by decide))⟩
    obtain ⟨c, hc⟩ := hfile hne hslash hp
    obtain ⟨d, hd⟩ := hfile hne' hslash' hq
    rw [hc, hd] at hsame
    -- the extensions are of the same length, whichever they are
    have hnames : stem ++ ['.', c] = stem' ++ ['.', d] := by
      simpa using List.append_cancel_left hsame
    exact (List.append_inj' hnames rfl).1
  · rintro rfl
    exact ⟨_, List.mem_cons_self, _, List.mem_cons_self, rfl⟩

end Path

/-- In a directory the files of a view are named by putting extensions to the stem of the drawing.
-/
theorem Source.run_pairOutputs_of_hasStem {σ : Type} {h : Host (StateM σ)} {output input : Path}
    {stem : Text} {s s' : σ} (hinput : Path.HasStem input stem)
    (houtput : (h.kind? output).run s = (some .directory, s')) :
    (Source.pairOutputs h output input).run s =
      ((Path.withExtension (Path.join output stem) ['h'],
        Path.withExtension (Path.join output stem) ['m']), s') := by
  unfold Source.pairOutputs
  rw [Source.run_bind_of_run_eq houtput, hinput.stem?_eq]
  rfl

/-- The paths of a view that goes into a directory, on every host: they are named by the stem of the
drawing if this has no dot behind its first character and is not a single dot.  Otherwise the stem
is shortened, and views of drawings with different stems can be written over each other: they
collide exactly when the shortened stems are the same. -/
theorem pair_outputs_in_directory {σ : Type} (h : Host (StateM σ)) (output input : Path)
    (stem : Text) (hinput : Path.HasStem input stem) (s s' : σ)
    (houtput : (h.kind? output).run s = (some .directory, s')) :
    ∃ paths, (Source.pairOutputs h output input).run s = (paths, s') ∧
      Path.Destinations output stem paths ∧
      ∀ input' stem' paths' t t', Path.HasStem input' stem' →
        (h.kind? output).run t = (some .directory, t') →
        (Source.pairOutputs h output input').run t = (paths', t') →
        Path.stemOf stem ≠ ['.'] → Path.stemOf stem' ≠ ['.'] →
        (Path.Collide paths paths' ↔ Path.stemOf stem = Path.stemOf stem') := by
  have hdestinations : ∀ {input : Path} {stem : Text}, Path.HasStem input stem →
      Path.Destinations output stem (Path.withExtension (Path.join output stem) ['h'],
        Path.withExtension (Path.join output stem) ['m']) :=
    fun hinput => Path.destinations_withExtension output hinput.1 hinput.slash_notMem
  refine ⟨_, Source.run_pairOutputs_of_hasStem hinput houtput, hdestinations hinput, ?_⟩
  intro input' stem' paths' t t' hinput' houtput' hpaths' hstem hstem'
  have hrun' := Source.run_pairOutputs_of_hasStem hinput' houtput'
  -- both runs give the paths of the same stems, whatever the states are
  obtain ⟨rfl, -⟩ := Prod.mk.inj (hpaths'.symm.trans hrun')
  rw [(hdestinations hinput).shortened hstem, (hdestinations hinput').shortened hstem']
  apply Path.collide_pairIn_iff
  · exact Path.stemOf_ne_nil hinput.1
  · exact Path.stemOf_ne_nil hinput'.1
  · exact Path.slash_notMem_stemOf hinput.slash_notMem
  · exact Path.slash_notMem_stemOf hinput'.slash_notMem

/-- A machine with a directory for views. -/
def outputMachine : Machine where
  disk := { directories := [["out".toList]] }

theorem run_kind?_outputMachine :
    (Host.machine.kind? "out".toList).run outputMachine = (some .directory, outputMachine) := by
  have hkind : outputMachine.disk.kind? "out".toList = some .directory := by decide
  exact congrArg (·, outputMachine) hkind

/-- A stem whose only dot is its first character names the files, and the directory is left as it
was. -/
theorem pair_outputs_in_directory_dots :
    Path.HasStem "in/.dots.m".toList ".dots".toList ∧
    (Host.machine.kind? "out".toList).run outputMachine = (some .directory, outputMachine) ∧
    (Source.pairOutputs Host.machine "out".toList "in/.dots.m".toList).run outputMachine =
      (("out/.dots.h".toList, "out/.dots.m".toList), outputMachine) := by
  have hinput : Path.HasStem "in/.dots.m".toList ".dots".toList :=
    ⟨by decide, "in/".toList, ['m'], Or.inr rfl, by decide⟩
  obtain ⟨paths, hrun, hpaths, -⟩ := pair_outputs_in_directory Host.machine "out".toList _ _ hinput
    outputMachine outputMachine run_kind?_outputMachine
  refine ⟨hinput, run_kind?_outputMachine, ?_⟩
  -- the only dot of the stem is its first character
  rw [hrun, hpaths.named_iff.mpr (by decide)]
  rfl

/-- Drawings with the stems `a.b` and `a.c` are written to the same two files, which are named by
neither stem. -/
theorem dotted_stem_shortened :
    Path.HasStem "a.b.h".toList "a.b".toList ∧ Path.HasStem "a.c.h".toList "a.c".toList ∧
    (Source.pairOutputs Host.machine "out".toList "a.b.h".toList).run outputMachine =
      (("out/a.h".toList, "out/a.m".toList), outputMachine) ∧
    (Source.pairOutputs Host.machine "out".toList "a.c.h".toList).run outputMachine =
      (("out/a.h".toList, "out/a.m".toList), outputMachine) ∧
    ("out/a.h".toList, "out/a.m".toList) ≠ Path.pairIn "out".toList "a.b".toList := by
  have hb : Path.HasStem "a.b.h".toList "a.b".toList := ⟨by decide, [], ['h'], by decide⟩
  have hc : Path.HasStem "a.c.h".toList "a.c".toList := ⟨by decide, [], ['h'], by decide⟩
  refine ⟨hb, hc, ?_, ?_, by decide⟩
  · rw [Source.run_pairOutputs_of_hasStem hb run_kind?_outputMachine]
    exact congrArg (·, outputMachine) (by decide)
  · rw [Source.run_pairOutputs_of_hasStem hc run_kind?_outputMachine]
    exact congrArg (·, outputMachine) (by decide)

end LayerView
