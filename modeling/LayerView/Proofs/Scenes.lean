import LayerView.Proofs.Effects

/-!
# What is to be seen of a machine

A run is judged by what it leaves behind: files, what the clipboard was given, and what was written
to the two streams.  A `Scene` holds just this, with the files as a function from places to contents.
What an operation does then is an equation between two scenes, and a few changes of scenes are enough
to write all these equations down.

Operations that write can fail halfway.  Each of them is told by one statement for all its results:
what it leaves if it succeeds, and what it leaves if it fails.  A file whose writing fails is as it
was, or has a proper leading part of its new content.  A stream fails only where it has a limit.

Main statements:
- `Scene.Apart.trans`, `Scene.Apart.tell`, `Scene.Apart.store`: steps next to a log file
- `run_host_write`, `run_host_report`, `run_host_print`, `run_host_copy`: the operations that write
- `Source.run_write`: writing a text to a file, with the directories above it
-/

namespace LayerView

open LayerView.Text

/-! ## Scenes -/

/-- The files of a machine. -/
def Machine.files (s : Machine) : Location → Option ByteArray := s.disk.fileAt?

/-- What is to be seen of a machine, and what fails on it. -/
structure Scene where
  files : Location → Option ByteArray
  handed? : Option Text
  copied? : Option Text
  output : Text
  errors : Text
  faults : Faults

/-- The scene of a machine. -/
def Machine.scene (s : Machine) : Scene :=
  ⟨s.files, s.handed?, s.copied?, s.output, s.errors, s.faults⟩

/-- Files after contents were stored at paths, one after the other. -/
def filesAfter : List (Path × ByteArray) → (Location → Option ByteArray) →
    Location → Option ByteArray
  | [], files => files
  | (p, content) :: rest, files =>
    filesAfter rest (Function.update files (Disk.place p) (some content))

/-- Contents that are stored in two parts are stored one after the other. -/
private theorem filesAfter_append (xs ys : List (Path × ByteArray))
    (files : Location → Option ByteArray) :
    filesAfter (xs ++ ys) files = filesAfter ys (filesAfter xs files) := by
  induction xs generalizing files with
  | nil => rfl
  | cons x xs ih => exact ih _

/-- What is stored at a place, or is left there, does not depend on the files at other places. -/
theorem filesAfter_congr {f g : Location → Option ByteArray} {l : Location} (h : f l = g l)
    (xs : List (Path × ByteArray)) : filesAfter xs f l = filesAfter xs g l := by
  induction xs generalizing f g with
  | nil => exact h
  | cons x xs ih =>
    apply ih
    -- the content at this place is the new one on both sides, or the old one on both
    by_cases hl : l = Disk.place x.1
    · rw [hl, Function.update_self, Function.update_self]
    · rw [Function.update_of_ne hl, Function.update_of_ne hl, h]

namespace Scene

/-- A scene with a text more on the error stream. -/
def tell (a : Scene) (t : Text) : Scene := { a with errors := a.errors ++ t }

/-- A scene with a text more on the standard output. -/
def say (a : Scene) (t : Text) : Scene := { a with output := a.output ++ t }

/-- A scene with contents stored at paths. -/
def store (a : Scene) (xs : List (Path × ByteArray)) : Scene :=
  { a with files := filesAfter xs a.files }

/-- A scene with a text given to the clipboard's program, and a text on the clipboard. -/
def hand (a : Scene) (handed? copied? : Option Text) : Scene := { a with handed?, copied? }

@[simp] theorem tell_nil (a : Scene) : a.tell [] = a := by
  rw [tell, List.append_nil]

@[simp] theorem tell_tell (a : Scene) (t u : Text) : (a.tell t).tell u = a.tell (t ++ u) := by
  rw [tell, tell, tell, List.append_assoc]

@[simp] theorem store_store (a : Scene) (xs ys : List (Path × ByteArray)) :
    (a.store xs).store ys = a.store (xs ++ ys) := by
  rw [store, store, store, filesAfter_append]

@[simp] theorem store_nil (a : Scene) : a.store [] = a := rfl

/-! ## Scenes that differ in one file -/

/-- Two scenes that are the same but for the file at one place. -/
structure Apart (place? : Option Location) (a b : Scene) : Prop where
  files_eq : ∀ l, place? ≠ some l → a.files l = b.files l
  handed_eq : a.handed? = b.handed?
  copied_eq : a.copied? = b.copied?
  output_eq : a.output = b.output
  errors_eq : a.errors = b.errors
  faults_eq : a.faults = b.faults

variable {place? : Option Location} {a b c : Scene}

/-- Equal scenes are the same apart from any place. -/
theorem Apart.of_eq (place? : Option Location) (h : a = b) : a.Apart place? b :=
  ⟨fun _ _ => by rw [h], by rw [h], by rw [h], by rw [h], by rw [h], by rw [h]⟩

/-- Steps that change one and the same file add up to such a step. -/
theorem Apart.trans (h : a.Apart place? b) (h' : b.Apart place? c) : a.Apart place? c where
  files_eq l hl := (h.files_eq l hl).trans (h'.files_eq l hl)
  handed_eq := h.handed_eq.trans h'.handed_eq
  copied_eq := h.copied_eq.trans h'.copied_eq
  output_eq := h.output_eq.trans h'.output_eq
  errors_eq := h.errors_eq.trans h'.errors_eq
  faults_eq := h.faults_eq.trans h'.faults_eq

/-- A text can be told on both sides. -/
theorem Apart.tell (h : a.Apart place? b) (t : Text) : (a.tell t).Apart place? (b.tell t) :=
  { h with errors_eq := congrArg (· ++ t) h.errors_eq }

/-- Contents can be stored on both sides, also at the place that is left out. -/
theorem Apart.store (h : a.Apart place? b) (xs : List (Path × ByteArray)) :
    (a.store xs).Apart place? (b.store xs) :=
  { h with files_eq := fun l hl => filesAfter_congr (h.files_eq l hl) xs }

theorem Apart.hand (h : a.Apart place? b) (handed? copied? : Option Text) :
    (a.hand handed? copied?).Apart place? (b.hand handed? copied?) :=
  { h with handed_eq := rfl, copied_eq := rfl }

/-- What is the same everywhere is the same apart from any place. -/
theorem Apart.mono (h : a.Apart none b) : a.Apart place? b :=
  { h with files_eq := fun l _ => h.files_eq l (Option.some_ne_none l).symm }

/-- Storing at one place changes nothing apart from that place. -/
theorem apart_store_singleton (a : Scene) (p : Path) (content : ByteArray) :
    (a.store [(p, content)]).Apart (some (Disk.place p)) a where
  files_eq l hl := by
    -- another place is not the one that is written to
    have hne : l ≠ Disk.place p := fun e => hl (congrArg some e.symm)
    exact Function.update_of_ne hne _ _
  handed_eq := rfl
  copied_eq := rfl
  output_eq := rfl
  errors_eq := rfl
  faults_eq := rfl

/-- From one scene to another some contents were stored.  Nothing is said of the file at one place,
of the clipboard and of the streams. -/
structure Keeps (place? : Option Location) (xs : List (Path × ByteArray)) (a b : Scene) : Prop where
  files_eq : ∀ l, place? ≠ some l → b.files l = filesAfter xs a.files l
  faults_eq : b.faults = a.faults

/-- A scene keeps what it has. -/
theorem Keeps.refl (place? : Option Location) (a : Scene) : a.Keeps place? [] a :=
  ⟨fun _ _ => rfl, rfl⟩

/-- What is stored in two steps is stored one after the other. -/
theorem Keeps.trans {xs ys : List (Path × ByteArray)} (h : a.Keeps place? xs b)
    (h' : b.Keeps place? ys c) : a.Keeps place? (xs ++ ys) c where
  files_eq l hl := by
    -- the first step decides what the second one finds at the place
    rw [h'.files_eq l hl, filesAfter_append]
    exact filesAfter_congr (h.files_eq l hl) ys
  faults_eq := h'.faults_eq.trans h.faults_eq

/-- A scene that is the same but for the file at the place keeps as much. -/
theorem Apart.keeps {xs : List (Path × ByteArray)} (h : c.Apart place? b)
    (h' : a.Keeps place? xs b) : a.Keeps place? xs c where
  files_eq l hl := (h.files_eq l hl).trans (h'.files_eq l hl)
  faults_eq := h.faults_eq.trans h'.faults_eq

/-- Leaving a place out asks for less. -/
theorem Keeps.mono {xs : List (Path × ByteArray)} (h : a.Keeps none xs b) : a.Keeps place? xs b :=
  ⟨fun l _ => h.files_eq l (Option.some_ne_none l).symm, h.faults_eq⟩

/-- Storing contents stores just these. -/
theorem Keeps.of_store {xs : List (Path × ByteArray)} (h : b = a.store xs) :
    a.Keeps place? xs b := by
  rw [h]
  exact ⟨fun _ _ => rfl, rfl⟩

/-- A text on the error stream leaves the files alone. -/
theorem Keeps.tell {xs : List (Path × ByteArray)} (h : a.Keeps place? xs b) (t : Text) :
    a.Keeps place? xs (b.tell t) := ⟨h.files_eq, h.faults_eq⟩

/-- After a text was told, the files are as they were. -/
theorem Apart.keeps_of_tell {t : Text} (h : b.Apart place? (a.tell t)) : a.Keeps place? [] b :=
  h.keeps ((Keeps.refl place? a).tell t)

end Scene

/-! ## Operations that write -/

open Machine

variable {s s' : Machine}

/-- The error with which a limit ends. -/
def Limit.Ends (limit : Limit) (cause : OsError) : Prop := ∃ most, limit = some (most, cause)

/-- A limit lets everything through, or ends with its error before all has come. -/
theorem Limit.cut?_cases (limit : Limit) (used coming : Nat) :
    limit.cut? used coming = none ∨
      ∃ taken cause, limit.cut? used coming = some (taken, cause) ∧ limit.Ends cause ∧
        taken < used + coming := by
  unfold cut?
  split
  -- what is still to come fits below the limit, or it does not
  case h_1 most cause =>
    split
    · exact Or.inl rfl
    · exact Or.inr ⟨most - used, cause, rfl, ⟨most, rfl⟩, by omega⟩
  case h_2 => exact Or.inl rfl

/-- A change of the disk is made, or it fails and the machine is as it was. -/
private theorem run_changeDisk {change : Disk → Except OsError Disk} {r : Except OsError Unit}
    (h : (changeDisk change).run s = (r, s')) :
    (∃ d, change s.disk = .ok d ∧ r = .ok () ∧ s' = { s with disk := d }) ∨
      ∃ e, change s.disk = .error e ∧ r = .error e ∧ s' = s := by
  obtain ⟨s₀, s₁, hget, h⟩ := run_bind_eq_iff.mp h
  obtain ⟨rfl, rfl⟩ : s = s₀ ∧ s = s₁ := Prod.mk.inj hget
  -- a change that fails is not stored
  cases hchange : change s.disk with
  | ok d =>
    simp only [hchange] at h
    obtain ⟨rfl, rfl⟩ := Prod.mk.inj h
    exact Or.inl ⟨d, rfl, rfl, rfl⟩
  | error e =>
    simp only [hchange] at h
    obtain ⟨rfl, rfl⟩ := run_pure_eq_iff.mp h
    exact Or.inr ⟨e, rfl, rfl, rfl⟩

/-- A disk on which a file was written shows the file and is as it was otherwise. -/
theorem run_changeDisk_write {p : Path} {content : ByteArray} {r : Except OsError Unit}
    (h : (changeDisk (·.write p content)).run s = (r, s')) :
    (r = .ok () ∧ s'.scene = s.scene.store [(p, content)]) ∨
      ∃ cause, r = .error cause ∧ s'.scene = s.scene := by
  rcases run_changeDisk h with ⟨d, hd, rfl, rfl⟩ | ⟨e, -, rfl, rfl⟩
  · left
    refine ⟨rfl, ?_⟩
    -- the disk that was written to is the old one with an update
    have hfiles := Disk.fileAt?_write hd
    unfold scene Scene.store files
    rw [hfiles]
    rfl
  · exact Or.inr ⟨e, rfl, rfl⟩

/-- What is stored of a content whose writing failed: nothing if the file could not be opened, else a
proper leading part. -/
def Cut (p : Path) (content : ByteArray) (kept : List (Path × ByteArray)) : Prop :=
  kept = [] ∨ ∃ n < content.size, kept = [(p, content.extract 0 n)]

/-- Wherever the writing of a file stops, the other files are as they were. -/
theorem Cut.apart {p : Path} {content : ByteArray} {kept : List (Path × ByteArray)}
    (h : Cut p content kept) (a : Scene) : (a.store kept).Apart (some (Disk.place p)) a := by
  rcases h with rfl | ⟨n, -, rfl⟩
  · exact Scene.Apart.of_eq _ rfl
  · exact Scene.apart_store_singleton _ p _

/-- How writing a content to a file can go. -/
theorem run_host_write {p : Path} {content : ByteArray} {r : Except OsError Unit}
    (h : (Host.machine.write p content).run s = (r, s')) :
    (r = .ok () ∧ s'.scene = s.scene.store [(p, content)]) ∨
      ∃ cause kept, r = .error cause ∧ Cut p content kept ∧ s'.scene = s.scene.store kept := by
  change (writeFile p content).run s = _ at h
  obtain ⟨s₀, s₁, hget, h⟩ := run_bind_eq_iff.mp h
  obtain ⟨rfl, rfl⟩ : s = s₀ ∧ s = s₁ := Prod.mk.inj hget
  split at h
  case h_1 cause _ =>
    -- the file is not opened
    obtain ⟨rfl, rfl⟩ := run_pure_eq_iff.mp h
    exact Or.inr ⟨cause, [], rfl, Or.inl rfl, rfl⟩
  case h_2 =>
    rcases (s.faults.writing? p).cut?_cases 0 content.size with
      hall | ⟨taken, cause, hcut, -, htaken⟩
    · rw [hall] at h
      rcases run_changeDisk_write h with hok | ⟨cause, hr, hs⟩
      · exact Or.inl hok
      · exact Or.inr ⟨cause, [], hr, Or.inl rfl, hs⟩
    · -- the file is opened and takes a part
      rw [hcut] at h
      obtain ⟨r₁, s₂, hpart, h⟩ := run_bind_eq_iff.mp h
      rcases run_changeDisk_write hpart with ⟨rfl, hs⟩ | ⟨e, rfl, hs⟩
      · obtain ⟨rfl, rfl⟩ := run_pure_eq_iff.mp h
        refine Or.inr ⟨cause, [(p, content.extract 0 taken)], rfl, Or.inr ?_, hs⟩
        exact ⟨taken, by omega, rfl⟩
      · obtain ⟨rfl, rfl⟩ := run_pure_eq_iff.mp h
        exact Or.inr ⟨e, [], rfl, Or.inl rfl, hs⟩

/-- Writing to a file changes nothing apart from that file, however it goes. -/
theorem apart_of_run_host_write {p : Path} {content : ByteArray} {r : Except OsError Unit}
    (h : (Host.machine.write p content).run s = (r, s')) :
    s'.scene.Apart (some (Disk.place p)) s.scene := by
  rcases run_host_write h with ⟨-, hs⟩ | ⟨cause, kept, -, hkept, hs⟩
  · rw [hs]
    exact Scene.apart_store_singleton _ p _
  · rw [hs]
    exact hkept.apart s.scene

/-- Making directories changes nothing that is to be seen. -/
private theorem run_host_makeDirectories {p : Path} {r : Except OsError Unit}
    (h : (Host.machine.makeDirectories p).run s = (r, s')) : s'.scene = s.scene := by
  change (makeDirectories p).run s = _ at h
  obtain ⟨s₀, s₁, hget, h⟩ := run_bind_eq_iff.mp h
  obtain ⟨rfl, rfl⟩ : s = s₀ ∧ s = s₁ := Prod.mk.inj hget
  split at h
  · obtain ⟨-, rfl⟩ := run_pure_eq_iff.mp h
    rfl
  · -- directories are no files
    rcases run_changeDisk h with ⟨d, hd, -, rfl⟩ | ⟨e, -, -, rfl⟩
    · have hfiles := Disk.fileAt?_makeDirectories hd
      unfold scene files
      rw [hfiles]
    · rfl

/-- Adding to a file changes nothing apart from that file, whether or not the file takes it. -/
theorem run_host_append {p : Path} {t : Text}
    (h : (Host.machine.append p t).run s = ((), s')) :
    s'.scene.Apart (some (Disk.place p)) s.scene := by
  obtain ⟨s₀, s₁, hget, h⟩ := run_bind_eq_iff.mp h
  obtain ⟨rfl, rfl⟩ : s = s₀ ∧ s = s₁ := Prod.mk.inj hget
  obtain ⟨r, s₂, hwrite, h⟩ := run_bind_eq_iff.mp h
  obtain ⟨-, rfl⟩ := run_pure_eq_iff.mp h
  exact apart_of_run_host_write hwrite

/-- A stream takes a text, or a part of it if the stream has a limit. -/
private theorem streamed_cases (limit : Limit) (held t : Text) :
    streamed limit held t = (held ++ t, .ok ()) ∨
      ∃ cause part, limit.Ends cause ∧ streamed limit held t = (held ++ part, .error cause) := by
  -- the limit counts what the stream has taken before
  rcases limit.cut?_cases held.length t.length with hall | ⟨taken, cause, hcut, hends, -⟩
  · exact Or.inl (by rw [streamed, hall])
  · exact Or.inr ⟨cause, t.take taken, hends, by rw [streamed, hcut]⟩

/-- How writing a text to the error stream can go, next to a log file at some place. -/
def Told (place? : Option Location) (t : Text) (a : Scene) (r : Except OsError Unit) (b : Scene) :
    Prop :=
  (r = .ok () ∧ b.Apart place? (a.tell t)) ∨
    ∃ cause part, r = .error cause ∧ a.faults.errors?.Ends cause ∧ b.Apart place? (a.tell part)

/-- What is told away from any log file is told next to one. -/
theorem Told.mono {place? : Option Location} {t : Text} {a b : Scene} {r : Except OsError Unit}
    (h : Told none t a r b) : Told place? t a r b := by
  rcases h with ⟨hr, hb⟩ | ⟨cause, part, hr, hends, hb⟩
  · exact Or.inl ⟨hr, hb.mono⟩
  · exact Or.inr ⟨cause, part, hr, hends, hb.mono⟩

/-- Whether or not the stream takes a text, nothing is stored. -/
theorem Told.keeps {place? : Option Location} {t : Text} {a b : Scene} {r : Except OsError Unit}
    (h : Told place? t a r b) : a.Keeps place? [] b := by
  rcases h with ⟨-, hb⟩ | ⟨cause, part, -, -, hb⟩
  · exact hb.keeps_of_tell
  · exact hb.keeps_of_tell

/-- A text that is written after another. -/
theorem Told.after {place? : Option Location} {t u : Text} {a b c : Scene} {r : Except OsError Unit}
    (h : b.Apart place? (a.tell t)) (h' : Told place? u b r c) : Told place? (t ++ u) a r c := by
  rcases h' with ⟨hr, hc⟩ | ⟨cause, part, hr, hends, hc⟩
  · left
    rw [← Scene.tell_tell]
    exact ⟨hr, hc.trans (h.tell u)⟩
  · right
    refine ⟨cause, t ++ part, hr, ?_, ?_⟩
    · -- the stream has the same limit before and after a text
      rwa [h.faults_eq] at hends
    · rw [← Scene.tell_tell]
      exact hc.trans (h.tell part)

/-- Writing to the error stream changes nothing else. -/
theorem run_host_report {t : Text} {r : Except OsError Unit}
    (h : (Host.machine.report t).run s = (r, s')) : Told none t s.scene r s'.scene := by
  -- the whole operation as one equation, so that nothing is left to invert
  have hrun : (Host.machine.report t).run s = ((streamed s.faults.errors? s.errors t).2,
    { s with errors := (streamed s.faults.errors? s.errors t).1 }) := rfl
  obtain ⟨rfl, rfl⟩ := Prod.mk.inj (hrun.symm.trans h)
  rcases streamed_cases s.faults.errors? s.errors t with hall | ⟨cause, part, hends, hpart⟩
  · rw [hall]
    exact Or.inl ⟨rfl, Scene.Apart.of_eq _ rfl⟩
  · rw [hpart]
    exact Or.inr ⟨cause, part, rfl, hends, Scene.Apart.of_eq _ rfl⟩

/-- How writing a text to the standard output can go. -/
theorem run_host_print {t : Text} {r : Except OsError Unit}
    (h : (Host.machine.print t).run s = (r, s')) :
    (r = .ok () ∧ s'.scene = s.scene.say t) ∨
      ∃ cause part, r = .error cause ∧ s.faults.output?.Ends cause ∧
        s'.scene = s.scene.say part := by
  have hrun : (Host.machine.print t).run s = ((streamed s.faults.output? s.output t).2,
    { s with output := (streamed s.faults.output? s.output t).1 }) := rfl
  obtain ⟨rfl, rfl⟩ := Prod.mk.inj (hrun.symm.trans h)
  rcases streamed_cases s.faults.output? s.output t with hall | ⟨cause, part, hends, hpart⟩
  · rw [hall]
    exact Or.inl ⟨rfl, rfl⟩
  · rw [hpart]
    exact Or.inr ⟨cause, part, rfl, hends, rfl⟩

/-- Handing a text to the clipboard changes the clipboard at most; if it succeeds, the text is on
it. -/
theorem run_host_copy {t : Text} {r : Except CopyError Unit}
    (h : (Host.machine.copy t).run s = (r, s')) :
    ∃ handed? copied?, s'.scene = s.scene.hand handed? copied? ∧
      (r = .ok () → handed? = some t ∧ copied? = some t) := by
  change (copyText t).run s = _ at h
  obtain ⟨s₀, s₁, hget, h⟩ := run_bind_eq_iff.mp h
  obtain ⟨rfl, rfl⟩ : s = s₀ ∧ s = s₁ := Prod.mk.inj hget
  cases hclipboard : s.clipboard with
  | working =>
    rw [hclipboard] at h
    obtain ⟨rfl, rfl⟩ := Prod.mk.inj h
    exact ⟨some t, some t, rfl, fun _ => ⟨rfl, rfl⟩⟩
  -- in the next cases the program was given something before it failed
  | failing status =>
    rw [hclipboard] at h
    obtain ⟨rfl, rfl⟩ := Prod.mk.inj h
    exact ⟨some t, s.copied?, rfl, nofun⟩
  | stopping taken cause =>
    rw [hclipboard] at h
    obtain ⟨rfl, rfl⟩ := Prod.mk.inj h
    exact ⟨some (t.take taken), s.copied?, rfl, nofun⟩
  | unawaited cause =>
    rw [hclipboard] at h
    obtain ⟨rfl, rfl⟩ := Prod.mk.inj h
    exact ⟨some t, some t, rfl, nofun⟩
  | closed | broken cause | missing =>
    -- the program is not given anything
    rw [hclipboard] at h
    obtain ⟨rfl, rfl⟩ := run_pure_eq_iff.mp h
    exact ⟨s.handed?, s.copied?, rfl, nofun⟩

/-! ## Writing a text -/

namespace Source

/-- Making the directory of a file changes nothing that is to be seen. -/
private theorem run_makeParent {p : Path} {r : Except OsError Unit}
    (h : (makeParent Host.machine p).run s = (r, s')) : s'.scene = s.scene := by
  unfold makeParent at h
  split at h
  · obtain ⟨-, rfl⟩ := run_pure_eq_iff.mp h
    rfl
  · obtain ⟨-, rfl⟩ := run_pure_eq_iff.mp h
    rfl
  · exact run_host_makeDirectories h

/-- How writing a text to a file can go. -/
theorem run_write {p : Path} {t : Text} {r : Except SourceError Unit}
    (h : (write Host.machine p t).run s = (r, s')) :
    (r = .ok () ∧ s'.scene = s.scene.store [(p, encode t)]) ∨
      ∃ cause kept, r = .error (.unwritable p cause) ∧ Cut p (encode t) kept ∧
        s'.scene = s.scene.store kept := by
  obtain ⟨r₁, s₁, hparent, h⟩ := run_bind_eq_iff.mp h
  have hdirectories := run_makeParent hparent
  split at h
  case h_1 cause =>
    obtain ⟨rfl, rfl⟩ := run_pure_eq_iff.mp h
    exact Or.inr ⟨cause, [], rfl, Or.inl rfl, hdirectories⟩
  case h_2 =>
    -- directories may have been made, but they are no files
    obtain ⟨r₂, s₂, hwrite, h⟩ := run_bind_eq_iff.mp h
    rcases run_host_write hwrite with ⟨rfl, hs⟩ | ⟨cause, kept, rfl, hkept, hs⟩
    · obtain ⟨rfl, rfl⟩ := run_pure_eq_iff.mp h
      exact Or.inl ⟨rfl, by rw [hs, hdirectories]⟩
    · obtain ⟨rfl, rfl⟩ := run_pure_eq_iff.mp h
      exact Or.inr ⟨cause, kept, rfl, hkept, by rw [hs, hdirectories]⟩

end Source

end LayerView
