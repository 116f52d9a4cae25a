import LayerView.Command.Run
import Mathlib.Logic.Function.Basic

/-!
# What operations change on a machine

The files of a disk are looked at as a function from places to contents.  The place that a path
means does not depend on the disk, so it stays the same while directories are made and files are
written.  Writing a file then is an update of that function at one place, and making directories
leaves it alone.

On top of this, the operations that read settings and drawings change nothing at all.  This is shown
for the operations of the host and then, part by part, for what is made of them.

Main statements:
- `Disk.fileAt?_write`, `Disk.fileAt?_makeDirectories`: writing and making directories
- `run_bind_eq_iff`: how a computation in two parts runs
- `readOnly_settings`, `readOnly_load`: reading changes nothing
-/

namespace LayerView

open LayerView.Text

/-! ## Disks -/

namespace Disk

/-- The content of the file at a place. -/
def fileAt? (d : Disk) (l : Location) : Option ByteArray := (d.files.find? (·.1 == l)).map (·.2)

/-- The place that a path means, whatever is on the disk. -/
def place (p : Path) : Location := (route p).2.foldl step (route p).1

/-- A walk that gets to its end takes one step for each part, whatever is on the way. -/
private theorem eq_foldl_of_walk {d : Disk} {l k : Location} {parts : List Text}
    (h : d.walk l parts = .ok k) : k = parts.foldl step l := by
  -- each step is taken in a directory, or the walk fails
  induction parts generalizing l with
  | nil => exact (Except.ok.inj h).symm
  | cons part parts ih =>
    rw [walk] at h
    split at h
    · contradiction
    · contradiction
    · exact ih h

/-- A path that leads somewhere leads to its place. -/
theorem eq_place_of_locate {d : Disk} {p : Path} {l : Location} (h : d.locate p = .ok l) :
    l = place p := by
  unfold locate at h
  split at h
  · contradiction
  · exact eq_foldl_of_walk h

/-- Putting a file is an update at its place. -/
private theorem fileAt?_put (d : Disk) (l : Location) (content : ByteArray) :
    (d.put l content).fileAt? = Function.update d.fileAt? l (some content) := by
  funext k
  unfold put fileAt?
  by_cases hk : k = l
  · -- the old file is gone, so the new one is found
    subst hk
    have hnone : (d.files.filter (·.1 != k)).find? (·.1 == k) = none := by simp
    rw [Function.update_self, List.find?_append, hnone]
    simp
  · -- no file at another place is taken out or put in
    have hother : (d.files.filter (·.1 != l)).find? (·.1 == k) = d.files.find? (·.1 == k) := by
      rw [List.find?_filter]
      congr 1
      funext f
      by_cases hf : f.1 = k
      · simp [hf, hk]
      · simp [hf]
    have hnew : [(l, content)].find? (·.1 == k) = none := by simpa using Ne.symm hk
    rw [Function.update_of_ne hk, List.find?_append, hother, hnew, Option.or_none]

/-- Writing a file is an update at the place of its path. -/
theorem fileAt?_write {d d' : Disk} {p : Path} {content : ByteArray}
    (h : d.write p content = .ok d') :
    d'.fileAt? = Function.update d.fileAt? (place p) (some content) := by
  unfold write at h
  split at h
  · -- a path that names a directory is never written to
    cases hl : d.locate (withoutSlashes p) <;> simp [hl, bind, Except.bind] at h
  · cases hl : d.locate p with
    | error e => simp [hl, bind, Except.bind] at h
    | ok l =>
      simp only [hl, bind, Except.bind] at h
      split at h
      · contradiction
      · -- a directory is not overwritten, so the path leads to a file or to nothing yet
        obtain rfl := Except.ok.inj h
        rw [fileAt?_put, eq_place_of_locate hl]

/-- Making one directory leaves the files alone. -/
private theorem files_makeDirectory {d d' : Disk} {p : Path} (h : d.makeDirectory p = .ok d') :
    d'.files = d.files := by
  unfold makeDirectory at h
  cases hl : d.locate p with
  | error e => simp [hl, bind, Except.bind] at h
  | ok l =>
    simp only [hl, bind, Except.bind] at h
    split at h
    · contradiction
    · rw [← Except.ok.inj h]

private theorem eq_of_orPresent {d d' : Disk} {p : Path} {e : OsError}
    (h : d.orPresent p e = .ok d') : d' = d := by
  unfold orPresent at h
  split at h
  · exact (Except.ok.inj h).symm
  · contradiction

/-- So does making it with those above it, in any number of steps. -/
private theorem files_makeDirectoriesIn {d d' : Disk} {steps : Nat} {p : Path}
    (h : d.makeDirectoriesIn steps p = .ok d') : d'.files = d.files := by
  induction steps generalizing p d' with
  -- with no steps left nothing is made
  | zero => contradiction
  | succ steps ih =>
    rw [makeDirectoriesIn] at h
    split at h
    · rw [← Except.ok.inj h]
    · split at h
      case h_1 d₁ hmake =>
        rw [← Except.ok.inj h]
        exact files_makeDirectory hmake
      case h_2 =>
        -- the directory above is missing, so it is made first
        split at h
        · contradiction
        case h_2 dir _ =>
          cases hdir : d.makeDirectoriesIn steps dir with
          | error e => simp [hdir, bind, Except.bind] at h
          | ok d₁ =>
            simp only [hdir, bind, Except.bind] at h
            split at h
            case h_1 d₂ hmake =>
              rw [← Except.ok.inj h, files_makeDirectory hmake]
              exact ih hdir
            case h_2 =>
              rw [eq_of_orPresent h]
              exact ih hdir
      -- the directory is there already
      case h_3 => rw [eq_of_orPresent h]

/-- Making directories leaves the files alone. -/
theorem fileAt?_makeDirectories {d d' : Disk} {p : Path} (h : d.makeDirectories p = .ok d') :
    d'.fileAt? = d.fileAt? := by
  unfold fileAt?
  rw [files_makeDirectoriesIn h]

end Disk

/-! ## Runs in two parts -/

section Runs

variable {α β : Type} {s s' s'' : Machine}

/-- A computation in two parts runs one after the other. -/
theorem run_bind_eq_iff {x : StateM Machine α} {f : α → StateM Machine β} {b : β} :
    (x >>= f).run s = (b, s'') ↔ ∃ a s', x.run s = (a, s') ∧ (f a).run s' = (b, s'') := by
  constructor
  · intro h
    exact ⟨(x.run s).1, (x.run s).2, rfl, h⟩
  · rintro ⟨a, s', hx, hf⟩
    -- a bind passes the result and the machine on
    show (f (x.run s).1).run (x.run s).2 = (b, s'')
    rw [hx]
    exact hf

theorem run_pure_eq_iff {a b : α} :
    (pure a : StateM Machine α).run s = (b, s') ↔ a = b ∧ s = s' := by
  show (a, s) = (b, s') ↔ _
  rw [Prod.mk.injEq]

/-- A computation that fails at once does not succeed. -/
theorem run_pure_error_ne_ok {ε : Type} {a : α} {e : ε} :
    (pure (.error e) : StateM Machine (Except ε α)).run s ≠ (.ok a, s') := by
  intro h
  cases (run_pure_eq_iff.mp h).1

/-- A computation that changes nothing. -/
def ReadOnly (x : StateM Machine α) : Prop := ∀ s, (x.run s).2 = s

/-- The machine after such a computation is the machine before it. -/
theorem ReadOnly.eq {x : StateM Machine α} (hx : ReadOnly x) {a : α} (h : x.run s = (a, s')) :
    s' = s := by
  have hs := hx s
  rwa [h] at hs

theorem ReadOnly.pure (a : α) : ReadOnly (Pure.pure a) := fun _ => rfl

/-- Two computations that change nothing, one after the other, change nothing. -/
theorem ReadOnly.bind {x : StateM Machine α} {f : α → StateM Machine β} (hx : ReadOnly x)
    (hf : ∀ a, ReadOnly (f a)) : ReadOnly (x >>= f) := by
  intro s
  show ((f (x.run s).1).run (x.run s).2).2 = s
  rw [hf, hx]

theorem ReadOnly.mapM {f : α → StateM Machine β} (hf : ∀ a, ReadOnly (f a)) (xs : List α) :
    ReadOnly (xs.mapM f) := by
  -- each element is looked at on the machine that the ones before have left as it was
  induction xs with
  | nil =>
    rw [List.mapM_nil]
    exact ReadOnly.pure []
  | cons x xs ih =>
    rw [List.mapM_cons]
    exact (hf x).bind fun _ => ih.bind fun _ => ReadOnly.pure _

end Runs

/-! ## Reading -/

/-- The operations of the host that only look change nothing. -/
theorem readOnly_kind? (p : Path) : ReadOnly (Host.machine.kind? p) := fun _ => rfl

theorem readOnly_read (p : Path) : ReadOnly (Host.machine.read p) := fun _ => rfl

theorem readOnly_envValue? (name : Text) : ReadOnly (Host.machine.envValue? name) := fun _ => rfl

private theorem readOnly_accountHome? : ReadOnly Host.machine.accountHome? := fun _ => rfl

namespace Settings

theorem readOnly_home? : ReadOnly (home? Host.machine) := by
  apply (readOnly_envValue? _).bind
  intro value?
  split
  · exact ReadOnly.pure _
  · exact readOnly_accountHome?

private theorem readOnly_defaultPath : ReadOnly (defaultPath Host.machine) := by
  apply (readOnly_envValue? _).bind
  intro value?
  split
  · exact ReadOnly.pure _
  · exact readOnly_home?.bind fun _ => ReadOnly.pure _

/-- Filling in a template changes nothing. -/
private theorem readOnly_expand (t : Text) : ReadOnly (expand Host.machine t) := by
  -- the references are looked up one after the other, and the home directory last
  have hsegment : ∀ s, ReadOnly (segmentValue Host.machine s) := by
    intro s
    cases s with
    | literal t => exact ReadOnly.pure _
    | reference name fallback? => exact (readOnly_envValue? name).bind fun _ => ReadOnly.pure _
  exact (ReadOnly.mapM hsegment _).bind fun _ => readOnly_home?.bind fun _ => ReadOnly.pure _

/-- Reading settings from a text changes nothing. -/
private theorem readOnly_ofText (p : Path) (t : Text) : ReadOnly (ofText Host.machine p t) := by
  have hlogging : ∀ l, ReadOnly (resolveLogging Host.machine l) := by
    intro l
    unfold resolveLogging
    split
    · exact ReadOnly.pure _
    · exact (readOnly_expand _).bind fun _ => ReadOnly.pure _
  unfold ofText
  split
  · exact ReadOnly.pure _
  · split
    · exact ReadOnly.pure _
    · apply (hlogging _).bind
      intro logging?
      split <;> exact ReadOnly.pure _

theorem readOnly_loadFrom (p : Path) : ReadOnly (loadFrom Host.machine p) := by
  apply (readOnly_kind? p).bind
  intro kind?
  split
  · exact ReadOnly.pure _
  · apply (readOnly_read p).bind
    intro bytes
    split
    · exact ReadOnly.pure _
    · split
      · exact ReadOnly.pure _
      · exact readOnly_ofText p _

/-- Loading settings changes nothing. -/
theorem readOnly_settings (p? : Option Path) : ReadOnly (load Host.machine p?) := by
  unfold load
  split
  · exact readOnly_loadFrom _
  · -- without a path the default one is tried, and nothing is read if no file is there
    apply readOnly_defaultPath.bind
    intro p
    apply (readOnly_kind? p).bind
    intro kind?
    split
    · exact ReadOnly.pure _
    · exact readOnly_loadFrom p

end Settings

namespace Source

theorem readOnly_readText (p : Path) : ReadOnly (readText Host.machine p) := by
  apply (readOnly_kind? p).bind
  intro kind?
  split
  · exact ReadOnly.pure _
  · apply (readOnly_read p).bind
    intro bytes
    split
    · exact ReadOnly.pure _
    · split <;> exact ReadOnly.pure _

/-- Reading the two files of a pair changes nothing. -/
private theorem readOnly_loadPair (p pair : Path) : ReadOnly (loadPair Host.machine p pair) := by
  apply (readOnly_kind? p).bind
  intro kind?
  split
  · exact ReadOnly.pure _
  · apply (readOnly_kind? pair).bind
    intro pairKind?
    split
    · exact ReadOnly.pure _
    · -- both files are there, and the header is read first
      apply (readOnly_readText _).bind
      intro header
      split
      · exact ReadOnly.pure _
      · apply (readOnly_readText _).bind
        intro implementation
        split <;> exact ReadOnly.pure _

/-- Reading a drawing changes nothing. -/
theorem readOnly_load (p : Path) : ReadOnly (load Host.machine p) := by
  unfold load
  split
  · exact ReadOnly.pure _
  · apply (readOnly_readText p).bind
    intro source
    split <;> exact ReadOnly.pure _
  · split
    · exact ReadOnly.pure _
    · exact readOnly_loadPair p _

theorem readOnly_pairOutputs (output input : Path) :
    ReadOnly (pairOutputs Host.machine output input) :=
  (readOnly_kind? output).bind fun _ => ReadOnly.pure _

end Source

end LayerView
