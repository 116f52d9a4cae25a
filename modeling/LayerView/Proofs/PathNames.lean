import LayerView.Files.Disk
import Mathlib.Data.List.Basic
import Mathlib.Data.List.TakeWhile

/-!
# Parts of a path

Most paths are a directory, a stem and an extension, possibly with slashes and single dots behind.
This is told here as a relation, and the operations on paths are told by what they do to such paths.
A stem of a single dot is an exception to most of it: once the extension is dropped, two dots are
left, and these name no file.

Two paths are the same path if they have the same components, so that repeated slashes and single
dots do not count.

Main statements:
- `extension?_eq_some_iff`: the paths with an extension
- `HasParts.withExtension_eq`, `HasParts.withExtension_of_dot`: another extension
- `components_trimmed`: what follows the file name does not count
- `HasParts.getLast?_components`: the last component is the file name
-/

namespace LayerView.Path

/-! ## The last part -/

/-- A path that is empty or ends in a slash. -/
def EndsDirectory (dir : Path) : Prop := ∀ c, dir.getLast? = some c → c = '/'

theorem beforeLast_append_lastPart (p : Path) : beforeLast p ++ lastPart p = p := by
  rw [beforeLast, lastPart, ← List.reverse_append, List.takeWhile_append_dropWhile,
    List.reverse_reverse]

theorem slash_notMem_lastPart (p : Path) : '/' ∉ lastPart p := by
  intro h
  have hne := List.mem_takeWhile_imp (List.mem_reverse.mp h)
  simp at hne

theorem endsDirectory_beforeLast (p : Path) : EndsDirectory (beforeLast p) := by
  intro c hc
  rw [beforeLast, List.getLast?_reverse] at hc
  -- in reverse, what is left starts where the run of other characters ends
  have hnot := List.head?_dropWhile_not (· != '/') p.reverse
  rw [hc] at hnot
  simpa using hnot

section Append

variable {dir name : Text} (hdir : EndsDirectory dir) (hname : '/' ∉ name)
include hdir hname

/-- A directory and a name are what a path is cut into. -/
theorem lastPart_append : lastPart (dir ++ name) = name := by
  have hall : ∀ c ∈ name.reverse, (c != '/') = true := by
    intro c hc
    rw [bne_iff_ne]
    rintro rfl
    exact hname (List.mem_reverse.mp hc)
  -- the directory ends in a slash, so the run ends where the name starts
  have hnone : dir.reverse.takeWhile (· != '/') = [] := by
    cases h : dir.reverse with
    | nil => rfl
    | cons c t =>
      have hlast : dir.getLast? = some c := by rw [← List.head?_reverse, h]; rfl
      simp [hdir c hlast]
  rw [lastPart, List.reverse_append, List.takeWhile_append_of_pos hall, hnone, List.append_nil,
    List.reverse_reverse]

theorem beforeLast_append : beforeLast (dir ++ name) = dir := by
  have h := beforeLast_append_lastPart (dir ++ name)
  rw [lastPart_append hdir hname] at h
  exact List.append_cancel_right h

end Append

/-- Only an empty last part and one of a single dot are trimmed. -/
theorem trimmed_eq_self {p : Path} (hnil : lastPart p ≠ []) (hdot : lastPart p ≠ ['.']) :
    trimmed p = p := by
  have hkeep : dropTrailing p.reverse = p.reverse := by
    unfold dropTrailing
    split
    case h_1 t ht => simp [lastPart, ht] at hnil
    case h_2 t ht => simp [lastPart, ht] at hdot
    case h_3 => rfl
  rw [trimmed, hkeep, List.reverse_reverse]

/-- Trimming leaves the start of a path. -/
theorem trimmed_prefix (p : Path) : trimmed p <+: p := by
  have hsuffix : ∀ r, dropTrailing r <:+ r := by
    intro r
    -- a slash is dropped, or a slash and a dot, or nothing
    fun_induction dropTrailing r with
    | case1 t ih => exact ih.trans (List.suffix_cons '/' t)
    | case2 t ih => exact ih.trans (List.suffix_append ['.', '/'] t)
    | case3 t => exact List.suffix_refl t
  rw [← List.reverse_suffix, trimmed, List.reverse_reverse]
  exact hsuffix p.reverse

theorem ne_of_isDots_eq_false {part : Text} (h : isDots part = false) :
    part ≠ [] ∧ part ≠ ['.'] ∧ part ≠ ['.', '.'] := by
  simpa [isDots, and_assoc] using h

/-! ## Stem and extension -/

/-- The last dot of a name parts its stem from its extension, unless it starts the name. -/
theorem splitDot?_eq_some_iff {name stem ext : Text} :
    splitDot? name = some (stem, ext) ↔ name = stem ++ '.' :: ext ∧ stem ≠ [] ∧ '.' ∉ ext := by
  constructor
  · intro h
    unfold splitDot? at h
    split at h
    case h_1 front hfront =>
      obtain ⟨hempty, hparts⟩ := Option.ite_none_left_eq_some.mp h
      obtain ⟨rfl, rfl⟩ : front.reverse = stem ∧
          (name.reverse.takeWhile (· != '.')).reverse = ext := by simpa using hparts
      refine ⟨?_, by simpa using hempty, ?_⟩
      · -- the name in reverse is the extension, the dot and the stem
        have hcut := List.takeWhile_append_dropWhile (p := (· != '.')) (l := name.reverse)
        rw [hfront] at hcut
        have hname := congrArg List.reverse hcut
        simpa using hname.symm
      · intro hm
        have hne := List.mem_takeWhile_imp (List.mem_reverse.mp hm)
        simp at hne
    case h_2 => simp at h
  · rintro ⟨rfl, hstem, hext⟩
    have hall : ∀ c ∈ ext.reverse, (c != '.') = true := by
      intro c hc
      rw [bne_iff_ne]
      rintro rfl
      exact hext (List.mem_reverse.mp hc)
    have hreverse : (stem ++ '.' :: ext).reverse = ext.reverse ++ '.' :: stem.reverse := by simp
    have htake : (stem ++ '.' :: ext).reverse.takeWhile (· != '.') = ext.reverse := by
      rw [hreverse, List.takeWhile_append_of_pos hall]
      simp
    have hdrop : (stem ++ '.' :: ext).reverse.dropWhile (· != '.') = '.' :: stem.reverse := by
      rw [hreverse, List.dropWhile_append_of_pos hall]
      simp
    unfold splitDot?
    rw [htake, hdrop]
    simp [hstem]

/-- A stem, a dot and an extension are three characters at least. -/
theorem isDots_name {stem ext : Text} (hstem : stem ≠ []) (hext : ext ≠ []) :
    isDots (stem ++ '.' :: ext) = false := by
  obtain ⟨c, stem, rfl⟩ := List.exists_cons_of_ne_nil hstem
  obtain ⟨d, ext, rfl⟩ := List.exists_cons_of_ne_nil hext
  cases stem <;> simp [isDots]

/-- The parts of a path that ends in a file name with an extension, but for what is trimmed. -/
structure HasParts (p dir stem ext : Text) : Prop where
  trimmed_eq : trimmed p = dir ++ (stem ++ '.' :: ext)
  endsDirectory : EndsDirectory dir
  slash_notMem : '/' ∉ stem ++ '.' :: ext
  stem_ne_nil : stem ≠ []
  ext_ne_nil : ext ≠ []
  dot_notMem : '.' ∉ ext

namespace HasParts

variable {p dir stem ext : Text}

theorem splitName?_eq (h : HasParts p dir stem ext) :
    splitName? p = some (dir, stem ++ '.' :: ext) := by
  simp only [splitName?, h.trimmed_eq, lastPart_append h.endsDirectory h.slash_notMem,
    beforeLast_append h.endsDirectory h.slash_notMem, isDots_name h.stem_ne_nil h.ext_ne_nil]
  rfl

theorem splitDot?_eq (h : HasParts p dir stem ext) :
    splitDot? (stem ++ '.' :: ext) = some (stem, ext) :=
  splitDot?_eq_some_iff.mpr ⟨rfl, h.stem_ne_nil, h.dot_notMem⟩

theorem extension?_eq (h : HasParts p dir stem ext) : extension? p = some ext := by
  simp [extension?, h.splitName?_eq, h.splitDot?_eq]

theorem stem?_eq (h : HasParts p dir stem ext) : stem? p = some stem := by
  simp [stem?, h.splitName?_eq, stemOf, h.splitDot?_eq]

end HasParts

/-- A path put together from its parts. -/
theorem hasParts_append {dir stem ext : Text} (hdir : EndsDirectory dir) (hstem : '/' ∉ stem)
    (hstem_ne : stem ≠ []) (hext : '/' ∉ ext) (hext_ne : ext ≠ []) (hdot : '.' ∉ ext) :
    HasParts (dir ++ (stem ++ '.' :: ext)) dir stem ext := by
  have hslash : '/' ∉ stem ++ '.' :: ext := by
    simp only [List.mem_append, List.mem_cons, not_or]
    exact ⟨hstem, by decide, hext⟩
  have hdots : isDots (stem ++ '.' :: ext) = false := isDots_name hstem_ne hext_ne
  have hlast := lastPart_append hdir hslash
  obtain ⟨hnil, hsingle, -⟩ := ne_of_isDots_eq_false hdots
  exact ⟨trimmed_eq_self (by rwa [hlast]) (by rwa [hlast]), hdir, hslash, hstem_ne, hext_ne, hdot⟩

/-- The paths with an extension are those that have parts. -/
theorem extension?_eq_some_iff {p ext : Text} (hne : ext ≠ []) :
    extension? p = some ext ↔ ∃ dir stem, HasParts p dir stem ext := by
  constructor
  · intro h
    simp only [extension?, splitName?, Option.bind_eq_bind, Option.bind_eq_some_iff,
      Option.ite_none_left_eq_some, Option.some.injEq] at h
    obtain ⟨⟨dir, name⟩, ⟨-, hparts⟩, ⟨stem, ext'⟩, hdot, hext⟩ := h
    -- the name is the last part of the trimmed path
    obtain ⟨rfl, rfl⟩ := Prod.mk.inj hparts
    obtain rfl : ext' = ext := Option.some.inj hext
    obtain ⟨hname, hstem, hext⟩ := splitDot?_eq_some_iff.mp hdot
    refine ⟨beforeLast (trimmed p), stem, ?_, endsDirectory_beforeLast _, ?_, hstem, hne, hext⟩
    · rw [← hname, beforeLast_append_lastPart]
    · rw [← hname]
      exact slash_notMem_lastPart _
  · rintro ⟨dir, stem, h⟩
    exact h.extension?_eq

/-! ## Another extension -/

namespace HasParts

variable {p dir stem ext : Text}

/-- A path that has nothing to trim, without its extension. -/
theorem dropExtension_eq (h : HasParts p dir stem ext) (htrimmed : trimmed p = p) :
    dropExtension p = dir ++ (stem ++ ['.']) := by
  have hp : p = dir ++ (stem ++ ['.']) ++ ext := by
    rw [← htrimmed, h.trimmed_eq]
    simp
  have hlength : p.length - ext.length = (dir ++ (stem ++ ['.'])).length := by
    rw [hp, List.length_append]
    omega
  rw [dropExtension, h.extension?_eq]
  simp only [htrimmed, if_true]
  rw [hlength, hp, List.take_left]

/-- The stem and its dot are cut off after the directory. -/
theorem splitName?_stem (h : HasParts p dir stem ext) :
    splitName? (dir ++ (stem ++ ['.'])) =
      if isDots (stem ++ ['.']) then none else some (dir, stem ++ ['.']) := by
  have hslash : '/' ∉ stem ++ ['.'] := by
    have hslash := h.slash_notMem
    simp only [List.mem_append, List.mem_cons, not_or] at hslash ⊢
    exact ⟨hslash.1, by decide, List.not_mem_nil⟩
  have hlast := lastPart_append h.endsDirectory hslash
  have hkeep : trimmed (dir ++ (stem ++ ['.'])) = dir ++ (stem ++ ['.']) := by
    apply trimmed_eq_self
    · simp [hlast]
    · simp [hlast, h.stem_ne_nil]
  simp only [splitName?, hkeep, hlast, beforeLast_append h.endsDirectory hslash]

/-- The extension is replaced, also behind a single dot if there is something to trim. -/
theorem withExtension_eq (h : HasParts p dir stem ext) (hstem : stem = ['.'] → trimmed p ≠ p)
    (new : Text) : withExtension p new = dir ++ (stem ++ '.' :: new) := by
  by_cases htrimmed : trimmed p = p
  · -- without the extension, the stem and its dot are still a file name
    have hdots : isDots (stem ++ ['.']) = false := by
      obtain ⟨c, t, rfl⟩ := List.exists_cons_of_ne_nil h.stem_ne_nil
      cases t with
      | nil =>
        have hc : c ≠ '.' := fun hc => hstem (by rw [hc]) htrimmed
        simp [isDots, hc]
      | cons d t => simp [isDots]
    have hsplit : splitDot? (stem ++ ['.']) = some (stem, []) :=
      splitDot?_eq_some_iff.mpr ⟨rfl, h.stem_ne_nil, List.not_mem_nil⟩
    have hstemOf : stemOf (stem ++ ['.']) = stem := by rw [stemOf, hsplit]
    rw [withExtension, h.dropExtension_eq htrimmed, setExtension, h.splitName?_stem, hdots]
    simp [hstemOf]
  · -- with something to trim, the extension is not dropped but replaced with the name
    have hkeep : dropExtension p = p := by simp [dropExtension, h.extension?_eq, htrimmed]
    have hstemOf : stemOf (stem ++ '.' :: ext) = stem := by rw [stemOf, h.splitDot?_eq]
    rw [withExtension, hkeep, setExtension, h.splitName?_eq]
    simp [hstemOf]

/-- A stem of a single dot and its dot are two dots, which name no file. -/
theorem withExtension_of_dot (h : HasParts p dir ['.'] ext) (htrimmed : trimmed p = p)
    (new : Text) : withExtension p new = dir ++ ['.', '.'] := by
  have hdots : isDots (['.'] ++ ['.']) = true := by decide
  rw [withExtension, h.dropExtension_eq htrimmed, setExtension, h.splitName?_stem, hdots]
  rfl

/-- Whether a path starts at the root is told by its directory and stem. -/
private theorem isAbsolute_eq (h : HasParts p dir stem ext) :
    isAbsolute p = isAbsolute (dir ++ stem) := by
  obtain ⟨tail, htail⟩ := trimmed_prefix p
  have hp : p = dir ++ stem ++ ('.' :: ext ++ tail) := by
    rw [← htail, h.trimmed_eq]
    simp
  have hne : dir ++ stem ≠ [] := by simp [h.stem_ne_nil]
  rw [isAbsolute, hp, List.head?_append_of_ne_nil _ hne, isAbsolute]

/-- Two paths with one directory and stem have one parent. -/
theorem parent?_eq {q ext' : Text} (h : HasParts p dir stem ext) (h' : HasParts q dir stem ext') :
    parent? q = parent? p := by
  -- the extension does not matter to the parent
  have hparent : ∀ {r e : Text}, HasParts r dir stem e → parent? r =
      if (trimmed dir).isEmpty && isAbsolute (dir ++ stem) then some ['/']
      else some (trimmed dir) := by
    intro r e hr
    have hne : (dir ++ (stem ++ '.' :: e)).isEmpty = false := by simp
    simp only [parent?, hr.trimmed_eq, hne, beforeLast_append hr.endsDirectory hr.slash_notMem,
      hr.isAbsolute_eq]
    rfl
  rw [hparent h, hparent h']

end HasParts

/-! ## Components -/

theorem parts_ne_nil (t : Text) : Disk.parts t ≠ [] := by
  cases t with
  | nil => simp [Disk.parts]
  | cons c t =>
    rw [Disk.parts]
    split
    · simp
    · split <;> simp

/-- A slash parts what is before it from what is behind. -/
theorem parts_append_slash (s t : Text) :
    Disk.parts (s ++ '/' :: t) = Disk.parts s ++ Disk.parts t := by
  induction s with
  | nil => simp [Disk.parts]
  | cons c s ih =>
    rw [List.cons_append, Disk.parts, Disk.parts, ih]
    split
    · rfl
    · -- `c` goes to the first part, which is there
      obtain ⟨part, ps, hps⟩ := List.exists_cons_of_ne_nil (parts_ne_nil s)
      simp [hps]

theorem parts_of_notMem {t : Text} (h : '/' ∉ t) : Disk.parts t = [t] := by
  induction t with
  | nil => rfl
  | cons c t ih =>
    rw [List.mem_cons, not_or] at h
    rw [Disk.parts, if_neg (Ne.symm h.1), ih h.2]

/-- The parts of a path that count: not the empty ones, and a single dot only where the path starts
with it.  The root is a part of its own. -/
def components (p : Path) : List Text :=
  (if isAbsolute p then [['/']]
    else if (Disk.parts p).head? = some ['.'] then [['.']] else []) ++
  (Disk.parts p).filter fun part => !(part.isEmpty || part == ['.'])

/-- A slash behind a path, with nothing or a single dot after it, does not count. -/
theorem components_append {p tail : Text} (hp : p ≠ []) (htail : tail = [] ∨ tail = ['.']) :
    components (p ++ '/' :: tail) = components p := by
  have hparts : Disk.parts (p ++ '/' :: tail) = Disk.parts p ++ [tail] := by
    have hslash : '/' ∉ tail := by rcases htail with rfl | rfl <;> decide
    rw [parts_append_slash, parts_of_notMem hslash]
  -- the start of the path stays, and with it the root or a single dot
  have hhead : (Disk.parts (p ++ '/' :: tail)).head? = (Disk.parts p).head? := by
    rw [hparts, List.head?_append_of_ne_nil _ (parts_ne_nil p)]
  have habsolute : isAbsolute (p ++ '/' :: tail) = isAbsolute p := by
    rw [isAbsolute, isAbsolute, List.head?_append_of_ne_nil _ hp]
  have hdropped : [tail].filter (fun part => !(part.isEmpty || part == ['.'])) = [] := by
    rcases htail with rfl | rfl <;> rfl
  rw [components, components, habsolute, hhead, hparts, List.filter_append, hdropped,
    List.append_nil]

/-- What is trimmed does not count. -/
theorem components_trimmed {p : Path} (h : trimmed p ≠ []) :
    components (trimmed p) = components p := by
  have hdropped : ∀ r, dropTrailing r ≠ [] → components (dropTrailing r).reverse =
      components r.reverse := by
    intro r hr
    -- what is dropped in a step does not count, as long as something is left
    fun_induction dropTrailing r with
    | case1 t ih =>
      have ht : t.reverse ≠ [] := by
        rintro hnil
        obtain rfl := List.reverse_eq_nil_iff.mp hnil
        exact hr rfl
      rw [ih hr, List.reverse_cons, components_append ht (Or.inl rfl)]
    | case2 t ih =>
      have ht : t.reverse ≠ [] := by
        rintro hnil
        obtain rfl := List.reverse_eq_nil_iff.mp hnil
        exact hr rfl
      rw [ih hr, List.reverse_cons, List.reverse_cons, List.append_assoc]
      exact (components_append ht (Or.inr rfl)).symm
    | case3 t => rfl
  have hne : dropTrailing p.reverse ≠ [] := fun hnil => h (by rw [trimmed, hnil]; rfl)
  rw [trimmed, hdropped _ hne, List.reverse_reverse]

/-- The last part of a path in a directory is the name. -/
theorem exists_parts_append {dir name : Text} (hdir : EndsDirectory dir) (hname : '/' ∉ name) :
    ∃ front, Disk.parts (dir ++ name) = front ++ [name] := by
  rcases List.eq_nil_or_concat dir with rfl | ⟨front, c, rfl⟩
  · exact ⟨[], parts_of_notMem hname⟩
  · obtain rfl : c = '/' := hdir c (by simp)
    refine ⟨Disk.parts front, ?_⟩
    rw [List.concat_append, parts_append_slash, parts_of_notMem hname]

/-- The last component is the last part, if that counts. -/
theorem getLast?_components_append {dir name : Text} (hdir : EndsDirectory dir)
    (hname : '/' ∉ name) (hnil : name ≠ []) (hdot : name ≠ ['.']) :
    (components (dir ++ name)).getLast? = some name := by
  obtain ⟨front, hfront⟩ := exists_parts_append hdir hname
  have hkept : [name].filter (fun part => !(part.isEmpty || part == ['.'])) = [name] := by
    simp [hnil, hdot]
  rw [components, hfront, List.filter_append, hkept, ← List.append_assoc, List.getLast?_concat]

/-- The last component is the file name. -/
theorem HasParts.getLast?_components {p dir stem ext : Text} (h : HasParts p dir stem ext) :
    (components p).getLast? = some (stem ++ '.' :: ext) := by
  have hne : trimmed p ≠ [] := by simp [h.trimmed_eq]
  obtain ⟨hnil, hdot, -⟩ := ne_of_isDots_eq_false (isDots_name h.stem_ne_nil h.ext_ne_nil)
  rw [← components_trimmed hne, h.trimmed_eq]
  exact getLast?_components_append h.endsDirectory h.slash_notMem hnil hdot

/-- A path with an extension is no path to a directory above. -/
theorem HasParts.components_ne {p dir stem ext up : Text} (h : HasParts p dir stem ext)
    (hup : EndsDirectory up) : components p ≠ components (up ++ ['.', '.']) := by
  intro hsame
  have hlast := h.getLast?_components
  rw [hsame, getLast?_components_append hup (by decide) (by decide) (by decide)] at hlast
  obtain ⟨-, -, hdots⟩ := ne_of_isDots_eq_false (isDots_name h.stem_ne_nil h.ext_ne_nil)
  exact hdots (Option.some.inj hlast).symm

end LayerView.Path
