import LayerView.Files.Source
import LayerView.Proofs.PathNames

/-!
# The two files of a pair

A header and its implementation are at paths that differ in their extension, and either path leads
to the other.  There is one exception: a stem of a single dot leaves two dots once its extension is
dropped.  They are the directory above, and lead nowhere.

Whichever of two files of a pair is named, the same drawing is read from them, or the same error is
told.  This is so on every host that can look at its files without changing anything; it is enough
that the path of a file ends in a name.  The disk in memory is such a host.

Main statements:
- `Path.isPair_iff`: the path of the other file, and the way back
- `Disk.isDots_lastPart_of_kind?`, `Machine.shows`: paths of files on a disk
- `Source.run_load`, `Source.loadsAlike`: what is read from a pair
- `paired_files_agree`: all of it together
- `dotted_header_unpaired`: the exception
-/

namespace LayerView

open LayerView.Text

namespace Path

/-! ## Paths of a pair -/

/-- The two extensions of a pair, either of them first. -/
inductive Opposite : Text → Text → Prop where
  | header : Opposite ['h'] ['m']
  | implementation : Opposite ['m'] ['h']

namespace Opposite

variable {ext other : Text}

theorem symm (h : Opposite ext other) : Opposite other ext := by
  cases h with
  | header => exact .implementation
  | implementation => exact .header

private theorem ne (h : Opposite ext other) : ext ≠ other := by
  cases h <;> decide

/-- What an extension of a pair is made of. -/
theorem ne_nil_and_notMem (h : Opposite ext other) : ext ≠ [] ∧ '/' ∉ ext ∧ '.' ∉ ext := by
  cases h <;> decide

end Opposite

/-- The other path has the opposite extension, and all paths with one of the two have an opposite.
-/
theorem paired?_eq_some_iff {p q : Path} :
    paired? p = some q ↔
      ∃ ext other, Opposite ext other ∧ extension? p = some ext ∧ q = withExtension p other := by
  constructor
  · intro h
    unfold paired? at h
    split at h
    · simp at h
    case h_2 ext hext =>
      split at h
      case isTrue hheader => exact ⟨_, _, .header, hheader ▸ hext, (Option.some.inj h).symm⟩
      case isFalse =>
        obtain ⟨himplementation, hq⟩ := Option.ite_none_right_eq_some.mp h
        exact ⟨_, _, .implementation, himplementation ▸ hext, (Option.some.inj hq).symm⟩
  · rintro ⟨ext, other, hopposite, hext, rfl⟩
    unfold paired?
    rw [hext]
    cases hopposite with
    | header => rfl
    | implementation => rfl

section Pair

variable {p q dir stem ext other : Text}

theorem HasParts.append_other (h : HasParts p dir stem ext) (hopposite : Opposite ext other) :
    HasParts (dir ++ (stem ++ '.' :: other)) dir stem other := by
  obtain ⟨hne, hslash, hdot⟩ := hopposite.symm.ne_nil_and_notMem
  have hstem : '/' ∉ stem := fun hm => h.slash_notMem (List.mem_append_left _ hm)
  exact hasParts_append h.endsDirectory hstem h.stem_ne_nil hslash hne hdot

theorem HasParts.paired?_eq (h : HasParts p dir stem ext) (hopposite : Opposite ext other)
    (hstem : stem ≠ ['.']) : paired? p = some (dir ++ (stem ++ '.' :: other)) :=
  paired?_eq_some_iff.mpr
    ⟨ext, other, hopposite, h.extension?_eq,
      (h.withExtension_eq (fun hdot => absurd hdot hstem) other).symm⟩

theorem exists_hasParts_of_paired? (h : paired? p = some q) :
    ∃ dir stem ext other, Opposite ext other ∧ HasParts p dir stem ext ∧
      q = withExtension p other := by
  obtain ⟨ext, other, hopposite, hext, hq⟩ := paired?_eq_some_iff.mp h
  obtain ⟨dir, stem, hparts⟩ := (extension?_eq_some_iff hopposite.ne_nil_and_notMem.1).mp hext
  exact ⟨dir, stem, ext, other, hopposite, hparts, hq⟩

end Pair

/-- A path and that of the other file: the way back leads to the same path, and the two differ, in
one directory and with one stem. -/
structure IsPair (p q : Path) : Prop where
  back : ∃ p', paired? q = some p' ∧ components p' = components p
  components_ne : components q ≠ components p
  parent_eq : parent? q = parent? p
  stem_eq : stem? q = stem? p

theorem HasParts.isPair {p dir stem ext other : Text} (h : HasParts p dir stem ext)
    (hopposite : Opposite ext other) (hstem : stem ≠ ['.']) :
    IsPair p (dir ++ (stem ++ '.' :: other)) := by
  have hother := h.append_other hopposite
  refine ⟨⟨_, hother.paired?_eq hopposite.symm hstem, ?_⟩, ?_, h.parent?_eq hother, ?_⟩
  · -- the way back leads to the path without what is trimmed
    rw [← h.trimmed_eq]
    exact components_trimmed (by simp [h.trimmed_eq])
  · -- the last components differ in their extensions
    intro hsame
    have hlast := hother.getLast?_components
    rw [hsame, h.getLast?_components] at hlast
    have hname := List.append_cancel_left (Option.some.inj hlast)
    exact hopposite.ne (List.cons.inj hname).2
  · -- both have the stem by name
    rw [h.stem?_eq, hother.stem?_eq]

/-- From a stem of a single dot there is no way back. -/
theorem HasParts.not_isPair {p dir ext other : Text} (h : HasParts p dir ['.'] ext)
    (hopposite : Opposite ext other) : ¬ IsPair p (withExtension p other) := by
  rintro ⟨⟨p', hback, hsame⟩, -, -, -⟩
  by_cases htrimmed : trimmed p = p
  · -- the other path is a directory above, and has no extension
    rw [h.withExtension_of_dot htrimmed] at hback
    obtain ⟨dir', stem', ext', other', -, hparts, -⟩ := exists_hasParts_of_paired? hback
    exact hparts.components_ne h.endsDirectory rfl
  · -- the other path has an extension, but the way back drops it
    have hother := h.append_other hopposite
    have hkept : trimmed (dir ++ (['.'] ++ '.' :: other)) = dir ++ (['.'] ++ '.' :: other) :=
      hother.trimmed_eq
    rw [h.withExtension_eq (fun _ => htrimmed)] at hback
    obtain ⟨ext', other', -, -, rfl⟩ := paired?_eq_some_iff.mp hback
    rw [hother.withExtension_of_dot hkept] at hsame
    exact h.components_ne h.endsDirectory hsame.symm

/-- Only a stem of a single dot is an exception. -/
theorem isPair_iff {p q : Path} (h : paired? p = some q) :
    IsPair p q ↔ stem? p ≠ some ['.'] := by
  obtain ⟨dir, stem, ext, other, hopposite, hparts, rfl⟩ := exists_hasParts_of_paired? h
  rw [hparts.stem?_eq, Ne, Option.some.injEq]
  constructor
  · rintro hpair rfl
    exact hparts.not_isPair hopposite hpair
  · intro hstem
    -- any other stem is kept with its dot, so only the extension changes
    rw [hparts.withExtension_eq (fun hdot => absurd hdot hstem)]
    exact hparts.isPair hopposite hstem

theorem isSome_paired?_iff {p : Path} :
    (paired? p).isSome ↔ extension? p = some ['h'] ∨ extension? p = some ['m'] := by
  rw [Option.isSome_iff_exists]
  constructor
  · rintro ⟨q, hq⟩
    obtain ⟨ext, other, hopposite, hext, -⟩ := paired?_eq_some_iff.mp hq
    cases hopposite with
    | header => exact Or.inl hext
    | implementation => exact Or.inr hext
  · rintro (hext | hext)
    · exact ⟨_, paired?_eq_some_iff.mpr ⟨_, _, .header, hext, rfl⟩⟩
    · exact ⟨_, paired?_eq_some_iff.mpr ⟨_, _, .implementation, hext, rfl⟩⟩

end Path

/-! ## Files on a disk -/

namespace Disk

variable {d : Disk} {l k : Location}

/-- The places that a walk comes to: the root, the working directory and those above it, and what is
in a directory that it came to. -/
inductive Reached (d : Disk) : Location → Prop where
  | base {l : Location} (h : isBase l = true) : Reached d l
  | inside {l : Location} (name : Text) (h : Reached d l) (hdir : d.kindAt? l = some .directory) :
    Reached d (l ++ [name])

private theorem kindAt?_of_isBase (h : isBase l = true) : d.kindAt? l = some .directory := by
  rw [kindAt?, if_pos h]

theorem isBase_above (h : isBase l = true) : isBase (above l) = true := by
  by_cases hroot : (l == root) = true
  · rw [above, if_pos hroot]
    exact h
  · have hall : l.all (· == ['.', '.']) = true := by simpa [isBase, hroot] using h
    rw [above, if_neg hroot, if_pos h, isBase, List.all_append, hall]
    simp

/-- The place above one that a walk came to is a directory that it came to. -/
theorem Reached.above (hl : Reached d l) :
    Reached d (above l) ∧ d.kindAt? (Disk.above l) = some .directory := by
  by_cases hbase : isBase l = true
  · exact ⟨.base (isBase_above hbase), kindAt?_of_isBase (isBase_above hbase)⟩
  · -- what is in a directory has that directory above it
    cases hl with
    | base h => exact absurd h hbase
    | @inside m name h hdir =>
      have hroot : ¬ (m ++ [name] == root) = true := fun h => hbase (by rw [isBase, h]; rfl)
      have habove : Disk.above (m ++ [name]) = m := by
        rw [Disk.above, if_neg hroot, if_neg hbase, List.dropLast_concat]
      rw [habove]
      exact ⟨h, hdir⟩

/-- From a directory a walk comes to the place of the next part, whatever it is called. -/
theorem Reached.step (hl : Reached d l) (hdir : d.kindAt? l = some .directory) (part : Text) :
    Reached d (step l part) := by
  unfold Disk.step
  split
  · exact hl
  · split
    · exact hl.above.1
    · exact .inside part hl hdir

/-- From a directory, a part without a name leads to a directory. -/
private theorem Reached.kindAt?_step (hl : Reached d l) (hdir : d.kindAt? l = some .directory)
    {part : Text} (hpart : Path.isDots part = true) :
    d.kindAt? (Disk.step l part) = some .directory := by
  have hcases : (part = [] ∨ part = ['.']) ∨ part = ['.', '.'] := by
    simpa [Path.isDots] using hpart
  unfold Disk.step
  rcases hcases with hsame | rfl
  · rw [if_pos hsame]
    exact hdir
  · exact hl.above.2

/-- A walk that ends at a file ends with a name. -/
private theorem isDots_getLast_of_walk (hl : Reached d l) {part : Text} {parts : List Text}
    (hwalk : d.walk l (parts ++ [part]) = .ok k) (hk : d.kindAt? k = some .file) :
    Path.isDots part = false := by
  induction parts generalizing l with
  | nil =>
    rw [List.nil_append, walk] at hwalk
    split at hwalk
    · simp at hwalk
    · simp at hwalk
    case h_3 hdir =>
      -- without a name the walk would end at a directory
      obtain rfl : step l part = k := Except.ok.inj hwalk
      by_contra hdots
      rw [hl.kindAt?_step hdir (by simpa using hdots)] at hk
      simp at hk
  | cons first parts ih =>
    rw [List.cons_append, walk] at hwalk
    split at hwalk
    · simp at hwalk
    · simp at hwalk
    case h_3 hdir => exact ih (hl.step hdir first) hwalk

/-- Where a path leads ends with its last part. -/
private theorem exists_route (p : Path) :
    ∃ parts, (route p).2 = parts ++ [Path.lastPart p] ∧ isBase (route p).1 = true := by
  have hparts : ∀ t : Text, ∃ front, parts t = front ++ [Path.lastPart t] := by
    intro t
    have h := Path.exists_parts_append (Path.endsDirectory_beforeLast t)
      (Path.slash_notMem_lastPart t)
    rwa [Path.beforeLast_append_lastPart] at h
  unfold route
  split
  case h_1 t =>
    -- the root is before the first slash, and there are parts behind it
    obtain ⟨front, hfront⟩ := hparts ('/' :: t)
    rw [parts, if_pos rfl] at hfront
    cases front with
    | nil => exact absurd (List.cons.inj hfront).2 (Path.parts_ne_nil t)
    | cons part front => exact ⟨front, (List.cons.inj hfront).2, rfl⟩
  case h_2 =>
    obtain ⟨front, hfront⟩ := hparts p
    exact ⟨front, hfront, rfl⟩

/-- The path of a file ends in its name. -/
theorem isDots_lastPart_of_kind? {p : Path} (h : d.kind? p = some .file) :
    Path.isDots (Path.lastPart p) = false := by
  obtain ⟨parts, hparts, hbase⟩ := exists_route p
  unfold kind? at h
  split at h
  case h_1 l hlocate =>
    unfold locate at hlocate
    split at hlocate
    · simp at hlocate
    · -- the walk along the path ends with its last part
      rw [hparts] at hlocate
      exact isDots_getLast_of_walk (.base hbase) hlocate h
  case h_2 => simp at h

end Disk

/-! ## Looking at files -/

/-- What a host tells of its files in a state, without changing it.  The path of a file ends in its
name: a slash, a single dot or two dots at the end of a path mean a directory. -/
structure Host.Shows {σ : Type} (h : Host (StateM σ)) (s : σ) (kind? : Path → Option FileKind)
    (read : Path → Except OsError ByteArray) : Prop where
  run_kind? : ∀ p, (h.kind? p).run s = (kind? p, s)
  run_read : ∀ p, (h.read p).run s = (read p, s)
  named : ∀ p, kind? p = some .file → Path.isDots (Path.lastPart p) = false

/-- A machine shows the files on its disk. -/
theorem Machine.shows (s : Machine) : Host.machine.Shows s s.disk.kind? s.disk.read where
  run_kind? _ := rfl
  run_read _ := rfl
  named _ := Disk.isDots_lastPart_of_kind?

/-- If both files of a pair are there, their paths lead to each other. -/
theorem Host.Shows.exists_opposite {σ : Type} {h : Host (StateM σ)} {s : σ}
    {kind? : Path → Option FileKind} {read : Path → Except OsError ByteArray}
    (hshows : h.Shows s kind? read) {p q : Path} (hpair : Path.paired? p = some q)
    (hp : kind? p = some .file) (hq : kind? q = some .file) :
    Path.paired? q = some p ∧ ∃ ext other, Path.Opposite ext other ∧
      Path.extension? p = some ext ∧ Path.extension? q = some other := by
  obtain ⟨dir, stem, ext, other, hopposite, hparts, rfl⟩ := Path.exists_hasParts_of_paired? hpair
  obtain ⟨hnil, hdot, -⟩ := Path.ne_of_isDots_eq_false (hshows.named p hp)
  have htrimmed : Path.trimmed p = p := Path.trimmed_eq_self hnil hdot
  -- a stem of a single dot would lead to two dots, and these are no file
  have hstem : stem ≠ ['.'] := by
    rintro rfl
    have hname := hshows.named _ hq
    rw [hparts.withExtension_of_dot htrimmed, Path.lastPart_append hparts.endsDirectory (by decide)]
      at hname
    simp [Path.isDots] at hname
  rw [hparts.withExtension_eq fun hdot => absurd hdot hstem]
  have hother := hparts.append_other hopposite
  refine ⟨?_, ext, other, hopposite, hparts.extension?_eq, hother.extension?_eq⟩
  rw [hother.paired?_eq hopposite.symm hstem, ← hparts.trimmed_eq, htrimmed]

namespace Source

/-- The text of a file, or why it cannot be had. -/
def textOf (read : Path → Except OsError ByteArray) (p : Path) : Except SourceError Text :=
  match read p with
  | .error e => .error (.unreadable p e)
  | .ok bytes =>
    match decode? bytes with
    | some t => .ok t
    | none => .error (.notText p)

/-- The drawing in the two files of a pair, or the error of the first that cannot be had. -/
def pairOf (read : Path → Except OsError ByteArray) (headerPath implementationPath : Path) :
    Except SourceError Input := do
  let header ← textOf read headerPath
  let implementation ← textOf read implementationPath
  return .objc headerPath implementationPath { header, implementation }

/-- What follows a computation runs on its result. -/
theorem run_bind_of_run_eq {σ α β : Type} {x : StateM σ α} {s s' : σ} {a : α}
    (hx : x.run s = (a, s')) (f : α → StateM σ β) : (x >>= f).run s = (f a).run s' := by
  show (f (x.run s).1).run (x.run s).2 = _
  rw [hx]

section Load

variable {σ : Type} {h : Host (StateM σ)} {s : σ} {kind? : Path → Option FileKind}
  {read : Path → Except OsError ByteArray} (hshows : h.Shows s kind? read)
include hshows

/-- Reading a file that is there gives its text, or tells why not. -/
theorem run_readText {p : Path} (hp : kind? p = some .file) :
    (readText h p).run s = (textOf read p, s) := by
  unfold readText
  -- the file is there, so it is read
  rw [run_bind_of_run_eq (hshows.run_kind? p), hp]
  simp only [bne_self_eq_false, Bool.false_eq_true, if_false]
  rw [run_bind_of_run_eq (hshows.run_read p), textOf]
  cases read p with
  | error e => rfl
  | ok bytes =>
    simp only
    cases decode? bytes <;> rfl

/-- The header is read first, whichever of the two is named. -/
theorem run_loadPair {p q : Path} (hp : kind? p = some .file) (hq : kind? q = some .file) :
    (loadPair h p q).run s = (pairOf read (orderPair p q).1 (orderPair p q).2, s) := by
  have hfiles : kind? (orderPair p q).1 = some .file ∧ kind? (orderPair p q).2 = some .file := by
    unfold orderPair
    split
    · exact ⟨hp, hq⟩
    · exact ⟨hq, hp⟩
  unfold loadPair
  -- both files are there, so neither test turns the path down
  rw [run_bind_of_run_eq (hshows.run_kind? p), hp]
  simp only [bne_self_eq_false, Bool.false_eq_true, if_false]
  rw [run_bind_of_run_eq (hshows.run_kind? q), hq]
  simp only [bne_self_eq_false, Bool.false_eq_true, if_false]
  rw [run_bind_of_run_eq (run_readText hshows hfiles.1), pairOf]
  cases textOf read (orderPair p q).1 with
  | error e => rfl
  | ok header =>
    simp only
    rw [run_bind_of_run_eq (run_readText hshows hfiles.2)]
    cases textOf read (orderPair p q).2 <;> rfl

theorem run_load {p q : Path} (hpair : Path.paired? p = some q) (hp : kind? p = some .file)
    (hq : kind? q = some .file) :
    (load h p).run s = (pairOf read (orderPair p q).1 (orderPair p q).2, s) := by
  have hdialect : Path.dialect? p = some .objc := by
    obtain ⟨ext, other, hopposite, hext, -⟩ := Path.paired?_eq_some_iff.mp hpair
    unfold Path.dialect?
    rw [hext]
    cases hopposite <;> rfl
  unfold load
  simp only [hdialect, hpair]
  exact run_loadPair hshows hp hq

end Load

/-- Either of two paths gives the same drawing or the same error: that of a pair whose header is in
the one file and whose implementation is in the other, as their extensions say. -/
def LoadsAlike {σ : Type} (h : Host (StateM σ)) (s : σ) (read : Path → Except OsError ByteArray)
    (p q : Path) : Prop :=
  ∃ headerPath implementationPath,
    (headerPath = p ∧ implementationPath = q ∨ headerPath = q ∧ implementationPath = p) ∧
    Path.extension? headerPath = some ['h'] ∧ Path.extension? implementationPath = some ['m'] ∧
    (load h p).run s = (pairOf read headerPath implementationPath, s) ∧
    (load h q).run s = (pairOf read headerPath implementationPath, s)

/-- If both files are there, either path loads the header and the implementation in this order. -/
theorem loadsAlike {σ : Type} {h : Host (StateM σ)} {s : σ} {kind? : Path → Option FileKind}
    {read : Path → Except OsError ByteArray} (hshows : h.Shows s kind? read) {p q : Path}
    (hpair : Path.paired? p = some q) (hp : kind? p = some .file) (hq : kind? q = some .file) :
    LoadsAlike h s read p q := by
  obtain ⟨hback, ext, other, hopposite, hext, hother⟩ := hshows.exists_opposite hpair hp hq
  have hload := run_load hshows hpair hp hq
  have hload' := run_load hshows hback hq hp
  -- the two paths are put in the same order
  cases hopposite with
  | header =>
    refine ⟨p, q, Or.inl ⟨rfl, rfl⟩, hext, hother, ?_, ?_⟩
    · rw [hload, orderPair, if_pos hext]
    · rw [hload', orderPair, if_neg (by rw [hother]; decide)]
  | implementation =>
    refine ⟨q, p, Or.inr ⟨rfl, rfl⟩, hother, hext, ?_, ?_⟩
    · rw [hload, orderPair, if_neg (by rw [hext]; decide)]
    · rw [hload', orderPair, if_pos hother]

end Source

/-- Headers and implementations have a path for the other file, and only they.  It is in the same
directory, has the same stem and leads back, unless the stem is a single dot.  Where both files are
there, it does not matter which of them is named: not on a disk, nor on any other host. -/
theorem paired_files_agree (p : Path) :
    ((Path.paired? p).isSome ↔
      Path.extension? p = some ['h'] ∨ Path.extension? p = some ['m']) ∧
    ∀ q, Path.paired? p = some q →
      (Path.IsPair p q ↔ Path.stem? p ≠ some ['.']) ∧
      (∀ s : Machine, s.disk.kind? p = some .file → s.disk.kind? q = some .file →
        Source.LoadsAlike Host.machine s s.disk.read p q) ∧
      ∀ (σ : Type) (h : Host (StateM σ)) (s : σ) (kind? : Path → Option FileKind)
        (read : Path → Except OsError ByteArray), h.Shows s kind? read →
        kind? p = some .file → kind? q = some .file → Source.LoadsAlike h s read p q := by
  refine ⟨Path.isSome_paired?_iff, ?_⟩
  intro q hpair
  refine ⟨Path.isPair_iff hpair, ?_, ?_⟩
  · intro s
    exact Source.loadsAlike s.shows hpair
  · intro σ h s kind? read hshows
    exact Source.loadsAlike hshows hpair

/-- A machine with the two files of a pair. -/
def pairedMachine : Machine where
  disk :=
    { directories := [["a".toList]]
      files :=
        [(["a".toList, "b.m".toList], "- (\n".toUTF8), (["a".toList, "b.h".toList], "é".toUTF8)] }

/-- A path with a slash and a dot at its end pairs with one that has none, and the files on a disk
load alike by either name. -/
theorem paired_files_agree_slashed :
    Path.paired? "a//b.h/.".toList = some "a//b.m".toList ∧
    Path.IsPair "a//b.h/.".toList "a//b.m".toList ∧
    Path.paired? "a//b.m".toList = some "a//b.h".toList ∧
    pairedMachine.disk.kind? "a//b.m".toList = some .file ∧
    pairedMachine.disk.kind? "a//b.h".toList = some .file ∧
    Source.LoadsAlike Host.machine pairedMachine pairedMachine.disk.read "a//b.m".toList
      "a//b.h".toList ∧
    Source.pairOf pairedMachine.disk.read "a//b.h".toList "a//b.m".toList =
      .ok (.objc "a//b.h".toList "a//b.m".toList ⟨"é".toList, "- (\n".toList⟩) := by
  have hslashed : Path.paired? "a//b.h/.".toList = some "a//b.m".toList := by decide
  have hpair : Path.paired? "a//b.m".toList = some "a//b.h".toList := by decide
  have himplementation : pairedMachine.disk.kind? "a//b.m".toList = some .file := by decide
  have hheader : pairedMachine.disk.kind? "a//b.h".toList = some .file := by decide
  have hisPair := ((paired_files_agree _).2 _ hslashed).1.mpr (by decide)
  have hload := ((paired_files_agree _).2 _ hpair).2.1 pairedMachine himplementation hheader
  exact ⟨hslashed, hisPair, hpair, himplementation, hheader, hload, by decide +kernel⟩

/-- The header `..h` leads to the directory above, which leads to no file. -/
theorem dotted_header_unpaired :
    Path.paired? "..h".toList = some "..".toList ∧ Path.paired? "..".toList = none ∧
    ¬ Path.IsPair "..h".toList "..".toList := by
  have hnone : Path.paired? "..".toList = none := by decide
  refine ⟨by decide, hnone, ?_⟩
  rintro ⟨⟨p, hp, -⟩, -, -, -⟩
  rw [hnone] at hp
  simp at hp

end LayerView
