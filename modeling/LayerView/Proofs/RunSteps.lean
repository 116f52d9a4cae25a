import LayerView.Proofs.Scenes

/-!
# The steps of a run

A run opens its log, reads a drawing, converts it, and delivers the view.  Each function that takes
part in this is told by one statement about all its results.  If it succeeds, the scene after it is
the scene before it with what the function has stored, handed over and told.  If it fails, some
contents may have been stored before it failed, and which ones is known from the failure.

All these statements leave the file at the place of the log out, where events are written all along.
A view has one file or two, and they are written in order.  A run that fails can have stored some of
them, but only if the failure is that one could not be written or that a stream has failed after all
of them were.

Main statements:
- `run_emitAll`, `run_start`: the log
- `run_writeAll`: writing several files stops at the first that fails
- `run_runInput`: converting a drawing that was read
- `run_perform`: a run up to its report
- `run_runInvocation`: a run up to its exit status
-/

namespace LayerView.Command

open LayerView.Text LayerView.Machine

variable {s s' : Machine}

/-! ## The log -/

/-- The place of the log file, if there is one. -/
def Log.place? (log : Log) : Option Location := log.file?.map fun (path, _) => Disk.place path

/-- The place of the log file that settings ask for. -/
def loggingPlace? (l : Logging) : Option Location := l.file?.map Disk.place

/-- The lines of the events that a threshold lets through. -/
def streamLines (t : Threshold) (es : List Event) : Text :=
  (es.filter fun e => allows t e.level).flatMap Log.lineOf

/-- The line of an event comes before those of the others. -/
theorem streamLines_cons (t : Threshold) (e : Event) (es : List Event) :
    streamLines t (e :: es) = streamLines t [e] ++ streamLines t es := by
  unfold streamLines
  rw [← List.flatMap_append, ← List.filter_append, List.singleton_append]

/-- The line of one event, if it is let through. -/
theorem streamLines_singleton (t : Threshold) (e : Event) :
    streamLines t [e] = if allows t e.level then Log.lineOf e else [] := by
  cases h : allows t e.level <;> simp [streamLines, h]

/-- The stream gets the line of an event that is let through. -/
private theorem run_emitToStream {log : Log} {e : Event} {r : Except OsError Unit}
    (h : (log.emitToStream Host.machine e).run s = (r, s')) :
    Told none (streamLines log.stream [e]) s.scene r s'.scene := by
  rw [streamLines_singleton]
  unfold Log.emitToStream at h
  split at h
  case isTrue hallows =>
    rw [if_pos hallows]
    exact run_host_report h
  case isFalse hallows =>
    obtain ⟨rfl, rfl⟩ := run_pure_eq_iff.mp h
    rw [if_neg hallows]
    exact Or.inl ⟨rfl, Scene.Apart.of_eq _ (Scene.tell_nil _).symm⟩

/-- Writing an event to the log file changes that file at most. -/
private theorem run_emitToFile {log : Log} {e : Event}
    (h : (log.emitToFile Host.machine e).run s = ((), s')) : s'.scene.Apart log.place? s.scene := by
  unfold Log.emitToFile at h
  split at h
  case h_1 path threshold hfile =>
    -- the file that is added to is the one at the place of the log
    have hplace : log.place? = some (Disk.place path) := by
      rw [Log.place?, hfile]
      rfl
    split at h
    · rw [hplace]
      exact run_host_append h
    · obtain ⟨-, rfl⟩ := run_pure_eq_iff.mp h
      exact Scene.Apart.of_eq _ rfl
  case h_2 =>
    obtain ⟨-, rfl⟩ := run_pure_eq_iff.mp h
    exact Scene.Apart.of_eq _ rfl

/-- Writing an event tells its line, if the stream lets the event through. -/
theorem run_emit {log : Log} {e : Event} {r : Except OsError Unit}
    (h : (log.emit Host.machine e).run s = (r, s')) :
    Told log.place? (streamLines log.stream [e]) s.scene r s'.scene := by
  obtain ⟨r₁, s₁, hstream, h⟩ := run_bind_eq_iff.mp h
  rcases run_emitToStream hstream with ⟨rfl, hs⟩ | ⟨cause, part, rfl, hends, hs⟩
  · obtain ⟨u, s₂, hfile, h⟩ := run_bind_eq_iff.mp h
    obtain ⟨rfl, rfl⟩ := run_pure_eq_iff.mp h
    exact Or.inl ⟨rfl, (run_emitToFile hfile).trans hs.mono⟩
  · -- the stream comes first, so the file gets nothing
    obtain ⟨rfl, rfl⟩ := run_pure_eq_iff.mp h
    exact Or.inr ⟨cause, part, rfl, hends, hs.mono⟩

/-- Writing events tells the lines of those that the stream lets through. -/
theorem run_emitAll {log : Log} {es : List Event} {r : Except OsError Unit}
    (h : (log.emitAll Host.machine es).run s = (r, s')) :
    Told log.place? (streamLines log.stream es) s.scene r s'.scene := by
  -- what one event tells comes before what the others tell
  induction es generalizing s with
  | nil =>
    obtain ⟨rfl, rfl⟩ := run_pure_eq_iff.mp h
    exact Or.inl ⟨rfl, Scene.Apart.of_eq _ (Scene.tell_nil _).symm⟩
  | cons e es ih =>
    obtain ⟨r₁, s₁, hemit, h⟩ := run_bind_eq_iff.mp h
    rw [streamLines_cons]
    rcases run_emit hemit with ⟨rfl, hs⟩ | ⟨cause, part, rfl, hends, hs⟩
    · exact Told.after hs (ih h)
    · obtain ⟨rfl, rfl⟩ := run_pure_eq_iff.mp h
      exact Or.inr ⟨cause, part, rfl, hends, hs⟩

/-- The machine once the log file that settings ask for has been made empty. -/
def opened (l : Logging) (s : Machine) : Machine :=
  match l.file? with
  | none => s
  | some path => ((Host.machine.write path (encode [])).run s).2

/-- Opening a log changes its file at most.  The log that was opened is the one that the settings
name, and its stream has their threshold unless the environment has another. -/
theorem run_start {l : Logging} {verbose : Bool} {r : Except LogError Log}
    (h : (Log.start Host.machine l verbose).run s = (r, s')) :
    s' = opened l s ∧ s'.scene.Apart (loggingPlace? l) s.scene ∧
      ∀ log, r = .ok log → log.place? = loggingPlace? l ∧
        log.stream = overridden (lookUp s.environment levelVariable)
          (streamThreshold l verbose) := by
  obtain ⟨word?, s₁, hword, h⟩ := run_bind_eq_iff.mp h
  obtain ⟨rfl, rfl⟩ : lookUp s.environment levelVariable = word? ∧ s = s₁ := Prod.mk.inj hword
  unfold loggingPlace? opened
  split at h
  case h_1 hfile =>
    obtain ⟨rfl, rfl⟩ := run_pure_eq_iff.mp h
    rw [hfile]
    refine ⟨rfl, Scene.Apart.of_eq _ rfl, ?_⟩
    intro log hlog
    obtain rfl := Except.ok.inj hlog
    exact ⟨rfl, rfl⟩
  case h_2 path hfile =>
    obtain ⟨r₁, s₂, hwrite, h⟩ := run_bind_eq_iff.mp h
    rw [hfile]
    -- whether or not the file could be opened, it is the only one that can have changed
    have hscene := apart_of_run_host_write hwrite
    split at h
    · obtain ⟨rfl, rfl⟩ := run_pure_eq_iff.mp h
      exact ⟨(congrArg Prod.snd hwrite).symm, hscene, nofun⟩
    · obtain ⟨rfl, rfl⟩ := run_pure_eq_iff.mp h
      refine ⟨(congrArg Prod.snd hwrite).symm, hscene, ?_⟩
      intro log hlog
      obtain rfl := Except.ok.inj hlog
      exact ⟨rfl, rfl⟩

/-! ## Writing a view -/

/-- An output with all of its text. -/
def whole (output : Path × Text) : Path × ByteArray := (output.1, encode output.2)

/-- Outputs were written in order up to one that could not be written: its path, and what was
stored. -/
inductive StopsAt : List (Path × Text) → Path → List (Path × ByteArray) → Prop where
  /-- The first output could not be written. -/
  | here {p : Path} {t : Text} {rest : List (Path × Text)} {kept : List (Path × ByteArray)}
      (cut : Cut p (encode t) kept) : StopsAt ((p, t) :: rest) p kept
  /-- The first output was written, and one of the others could not be. -/
  | later {output : Path × Text} {rest : List (Path × Text)} {p : Path}
      {kept : List (Path × ByteArray)} (stops : StopsAt rest p kept) :
      StopsAt (output :: rest) p (whole output :: kept)

/-- Outputs are written in order, up to the first that cannot be. -/
theorem run_writeAll {outputs : List (Path × Text)} {r : Except Failure Unit}
    (h : (writeAll Host.machine outputs).run s = (r, s')) :
    (r = .ok () ∧ s'.scene = s.scene.store (outputs.map whole)) ∨
      ∃ p cause kept, r = .error (.source (.unwritable p cause)) ∧ StopsAt outputs p kept ∧
        s'.scene = s.scene.store kept := by
  induction outputs generalizing s with
  | nil =>
    obtain ⟨rfl, rfl⟩ := run_pure_eq_iff.mp h
    exact Or.inl ⟨rfl, rfl⟩
  | cons output outputs ih =>
    obtain ⟨p, t⟩ := output
    obtain ⟨r₁, s₁, hwrite, h⟩ := run_bind_eq_iff.mp h
    rcases Source.run_write hwrite with ⟨rfl, hs⟩ | ⟨cause, kept, rfl, hcut, hs⟩
    · -- this output was written, so it comes before all that the others have stored
      rcases ih h with ⟨rfl, hs'⟩ | ⟨p', cause, kept, rfl, hstops, hs'⟩
      · left
        rw [hs', hs, Scene.store_store]
        exact ⟨rfl, rfl⟩
      · right
        rw [hs', hs, Scene.store_store]
        exact ⟨p', cause, _, rfl, hstops.later, rfl⟩
    · obtain ⟨rfl, rfl⟩ := run_pure_eq_iff.mp h
      exact Or.inr ⟨p, cause, kept, rfl, .here hcut, hs⟩

/-- What a run says of a view that it has delivered: a word on the clipboard if it went there. -/
def copyNote : Option Path → Text
  | some _ => []
  | none => "Copied result to clipboard.\n".toList

/-- A scene in which a text was delivered, to a file or to the clipboard. -/
def delivered (a : Scene) (output? : Option Path) (t : Text) : Scene :=
  match output? with
  | some path => a.store [(path, encode t)]
  | none => (a.hand (some t) (some t)).tell (copyNote none)

/-- A view can be delivered on both sides. -/
theorem delivered_apart {place? : Option Location} {a b : Scene} (h : a.Apart place? b)
    (output? : Option Path) (t : Text) :
    (delivered a output? t).Apart place? (delivered b output? t) := by
  cases output? with
  | some path => exact h.store _
  | none => exact (h.hand _ _).tell _

/-- How handing a view to the clipboard can go. -/
theorem run_copyView {t : Text} {r : Except Failure Unit}
    (h : (copyView Host.machine t).run s = (r, s')) :
    (r = .ok () ∧ s'.scene.Apart none (delivered s.scene none t)) ∨
      ∃ e, r = .error e ∧ s.scene.Keeps none [] s'.scene := by
  obtain ⟨has, s₁, hhas, h⟩ := run_bind_eq_iff.mp h
  obtain ⟨-, rfl⟩ : _ ∧ s = s₁ := Prod.mk.inj hhas
  split at h
  · obtain ⟨rfl, rfl⟩ := run_pure_eq_iff.mp h
    exact Or.inr ⟨_, rfl, Scene.Keeps.refl none _⟩
  · obtain ⟨r₁, s₂, hcopy, h⟩ := run_bind_eq_iff.mp h
    obtain ⟨handed?, copied?, hs, hcopied⟩ := run_host_copy hcopy
    -- whatever the clipboard does, the files stay
    have hkeeps : s.scene.Keeps none [] s₂.scene := by
      rw [hs]
      exact ⟨fun _ _ => rfl, rfl⟩
    split at h
    · obtain ⟨rfl, rfl⟩ := run_pure_eq_iff.mp h
      exact Or.inr ⟨_, rfl, hkeeps⟩
    · -- the text is on the clipboard, and that is told
      obtain ⟨rfl, rfl⟩ := hcopied rfl
      obtain ⟨r₂, s₃, hreport, h⟩ := run_bind_eq_iff.mp h
      rcases run_host_report hreport with ⟨rfl, hs'⟩ | ⟨cause, part, rfl, -, hs'⟩
      · obtain ⟨rfl, rfl⟩ := run_pure_eq_iff.mp h
        rw [hs] at hs'
        exact Or.inl ⟨rfl, hs'⟩
      · obtain ⟨rfl, rfl⟩ := run_pure_eq_iff.mp h
        exact Or.inr ⟨_, rfl, hs'.keeps (hkeeps.tell part)⟩

/-! ## How a step fails -/

/-- What was stored of the outputs of a step that failed, for outputs of which a property is known
and with faults that are given. -/
inductive Halts (Views : List (Path × Text) → Prop) (faults : Faults) (e : Failure) :
    List (Path × ByteArray) → Prop where
  /-- Nothing was stored. -/
  | before : Halts Views faults e []
  /-- One of the outputs could not be written. -/
  | writing {outputs : List (Path × Text)} {p : Path} {cause : OsError}
      {kept : List (Path × ByteArray)} (views : Views outputs)
      (failure : e = .source (.unwritable p cause)) (stops : StopsAt outputs p kept) :
      Halts Views faults e kept
  /-- All outputs were written, and then the error stream has failed. -/
  | telling {outputs : List (Path × Text)} {cause : OsError} (views : Views outputs)
      (failure : e = .ofErrors cause) (ends : faults.errors?.Ends cause) :
      Halts Views faults e (outputs.map whole)

/-- A step that fails: what it leaves behind. -/
def Fails (place? : Option Location) (Views : List (Path × Text) → Prop) (a : Scene) (e : Failure)
    (b : Scene) : Prop :=
  ∃ kept, a.Keeps place? kept b ∧ Halts Views a.faults e kept

/-- A step that does all that it has to: it stores nothing, or all outputs. -/
def Completes (place? : Option Location) (Views : List (Path × Text) → Prop) (a b : Scene) : Prop :=
  a.Keeps place? [] b ∨ ∃ outputs, Views outputs ∧ a.Keeps place? (outputs.map whole) b

section Failing

variable {place? : Option Location} {Views Views' : List (Path × Text) → Prop} {a b c : Scene}
  {e : Failure}

/-- A step that has stored nothing can fail in any way. -/
theorem Fails.of_keeps (h : a.Keeps place? [] b) : Fails place? Views a e b := ⟨[], h, .before⟩

theorem Fails.mono (hviews : ∀ outputs, Views outputs → Views' outputs)
    (h : Fails place? Views a e b) : Fails place? Views' a e b := by
  obtain ⟨kept, hkeeps, hhalts⟩ := h
  refine ⟨kept, hkeeps, ?_⟩
  -- only what is known of the outputs changes
  cases hhalts with
  | before => exact .before
  | writing views failure stops => exact .writing (hviews _ views) failure stops
  | telling views failure ends => exact .telling (hviews _ views) failure ends

/-- What fails away from any log file fails next to one. -/
private theorem Fails.besides (h : Fails none Views a e b) : Fails place? Views a e b := by
  obtain ⟨kept, hkeeps, hhalts⟩ := h
  exact ⟨kept, hkeeps.mono, hhalts⟩

/-- A failure after steps that stored nothing. -/
theorem Fails.after (h : a.Keeps place? [] b) (h' : Fails place? Views b e c) :
    Fails place? Views a e c := by
  obtain ⟨kept, hkeeps, hhalts⟩ := h'
  -- the faults are those of the first scene as well
  rw [h.faults_eq] at hhalts
  exact ⟨kept, h.trans hkeeps, hhalts⟩

theorem Completes.mono (hviews : ∀ outputs, Views outputs → Views' outputs)
    (h : Completes place? Views a b) : Completes place? Views' a b :=
  h.imp_right fun ⟨outputs, h, hkeeps⟩ => ⟨outputs, hviews outputs h, hkeeps⟩

/-- A step that completes after steps that stored nothing. -/
theorem Completes.after (h : a.Keeps place? [] b) (h' : Completes place? Views b c) :
    Completes place? Views a c := by
  rcases h' with hkeeps | ⟨outputs, hviews, hkeeps⟩
  · exact Or.inl (h.trans hkeeps)
  · exact Or.inr ⟨outputs, hviews, h.trans hkeeps⟩

/-- What is told and what goes to the log afterwards does not count. -/
theorem Completes.tell {t : Text} (h : Completes place? Views a b)
    (h' : c.Apart place? (b.tell t)) : Completes place? Views a c := by
  rcases h with hkeeps | ⟨outputs, hviews, hkeeps⟩
  · exact Or.inl (h'.keeps (hkeeps.tell t))
  · exact Or.inr ⟨outputs, hviews, h'.keeps (hkeeps.tell t)⟩

/-- The error stream fails after a step that did all it had to. -/
theorem Completes.fails {cause : OsError} {part : Text} (h : Completes place? Views a b)
    (hends : b.faults.errors?.Ends cause) (h' : c.Apart place? (b.tell part)) :
    Fails place? Views a (.ofErrors cause) c := by
  rcases h with hkeeps | ⟨outputs, hviews, hkeeps⟩
  · exact Fails.of_keeps (h'.keeps (hkeeps.tell part))
  · rw [hkeeps.faults_eq] at hends
    exact ⟨_, h'.keeps (hkeeps.tell part), .telling hviews rfl hends⟩

end Failing

/-! ## Converting -/

/-- Where the files of a pair go: to the given path, or into the directory that it names. -/
def IsBase (output input base : Path) : Prop :=
  base = output ∨ base = Path.join output ((Path.stem? input).getD "output".toList)

/-- The files of a view: a Swift view has one, and none if it goes to the clipboard; a pair has
two. -/
inductive FilesOf (o : Options) (input : Path) (output? : Option Path) :
    Input → List (Path × Text) → Prop where
  | swift {path output : Path} {source : Text} {view : Conversion}
      (converted : (convert o source).value = some view) (to_output : output? = some output) :
      FilesOf o input output? (.swift path source) [(output, view.source)]
  | pair {headerPath implementationPath output base : Path} {pair : SourcePair}
      {view : PairConversion} (converted : (convertPair o pair).value = some view)
      (to_output : output? = some output) (isBase : IsBase output input base) :
      FilesOf o input output? (.objc headerPath implementationPath pair)
        [(Path.withExtension base ['h'], view.pair.header),
          (Path.withExtension base ['m'], view.pair.implementation)]

/-- What a run reports of a view. -/
def swiftReport (input : Path) (output? : Option Path) (view : Conversion) : Report where
  input := input
  dialect := .swift
  outputs := output?.toList
  declarations := view.declarations
  duplicates := view.duplicates

/-- What a run on a drawing does if it succeeds.  The events of a pair do not concern us. -/
inductive Succeeds (log : Log) (o : Options) (input : Path) (output? : Option Path) :
    Input → Report → Scene → Scene → Prop where
  | swift {path : Path} {source : Text} {view : Conversion} {a b : Scene}
      (converted : (convert o source).value = some view)
      (apart : b.Apart log.place? ((delivered
        (a.tell (streamLines log.stream (convert o source).events)) output? view.source).tell
          (streamLines log.stream [.swiftConverted view.declarations.length]))) :
      Succeeds log o input output? (.swift path source) (swiftReport input output? view) a b
  | pair {headerPath implementationPath : Path} {pair : SourcePair} {report : Report}
      {outputs : List (Path × Text)} {a b : Scene}
      (files : FilesOf o input output? (.objc headerPath implementationPath pair) outputs)
      (keeps : a.Keeps log.place? (outputs.map whole) b) :
      Succeeds log o input output? (.objc headerPath implementationPath pair) report a b

/-- A view that was delivered is all in its file, or in none. -/
private theorem completes_delivered {o : Options} (input path : Path) {source : Text}
    {view : Conversion} {place? : Option Location} {output? : Option Path} {a b : Scene}
    (hview : (convert o source).value = some view)
    (h : b.Apart place? (delivered a output? view.source)) :
    Completes place? (FilesOf o input output? (.swift path source)) a b := by
  cases output? with
  | none => exact Or.inl (h.keeps ⟨fun _ _ => rfl, rfl⟩)
  | some output => exact Or.inr ⟨_, .swift hview rfl, h.keeps (.of_store rfl)⟩

/-- How delivering a view can go. -/
theorem run_deliver {o : Options} (input path : Path) {source : Text} {view : Conversion}
    {output? : Option Path} {r : Except Failure Unit}
    (hview : (convert o source).value = some view)
    (h : (deliver Host.machine output? view.source).run s = (r, s')) :
    (r = .ok () ∧ s'.scene.Apart none (delivered s.scene output? view.source)) ∨
      ∃ e, r = .error e ∧
        Fails none (FilesOf o input output? (.swift path source)) s.scene e s'.scene := by
  cases output? with
  | none =>
    rcases run_copyView h with hok | ⟨e, rfl, hkeeps⟩
    · exact Or.inl hok
    · exact Or.inr ⟨e, rfl, Fails.of_keeps hkeeps⟩
  | some output =>
    rcases run_writeAll h with ⟨rfl, hs⟩ | ⟨p, cause, kept, rfl, hstops, hs⟩
    · exact Or.inl ⟨rfl, Scene.Apart.of_eq _ hs⟩
    · exact Or.inr ⟨_, rfl, kept, .of_store hs, .writing (.swift hview rfl) rfl hstops⟩

/-- How a conversion of a Swift drawing can go. -/
theorem run_runSwift {log : Log} {o : Options} {input path : Path} {output? : Option Path}
    {source : Text} {r : Except Failure Report}
    (h : (runSwift Host.machine log o input output? source).run s = (r, s')) :
    (∃ report, r = .ok report ∧
      Succeeds log o input output? (.swift path source) report s.scene s'.scene) ∨
    ∃ e, r = .error e ∧
      Fails log.place? (FilesOf o input output? (.swift path source)) s.scene e s'.scene := by
  obtain ⟨r₁, s₁, hevents, h⟩ := run_bind_eq_iff.mp h
  rcases run_emitAll hevents with ⟨rfl, hs₁⟩ | ⟨cause, part, rfl, -, hs₁⟩
  case inr =>
    obtain ⟨rfl, rfl⟩ := run_pure_eq_iff.mp h
    exact Or.inr ⟨_, rfl, Fails.of_keeps hs₁.keeps_of_tell⟩
  case inl =>
    cases hview : (convert o source).value with
    -- a drawing that is not converted has told its events and nothing else
    | none =>
      rw [hview] at h
      obtain ⟨rfl, rfl⟩ := run_pure_eq_iff.mp h
      exact Or.inr ⟨_, rfl, Fails.of_keeps hs₁.keeps_of_tell⟩
    | some view =>
      rw [hview] at h
      obtain ⟨r₂, s₂, hdeliver, h⟩ := run_bind_eq_iff.mp h
      rcases run_deliver input path hview hdeliver with ⟨rfl, hs₂⟩ | ⟨e, rfl, hfails⟩
      case inr =>
        obtain ⟨rfl, rfl⟩ := run_pure_eq_iff.mp h
        exact Or.inr ⟨e, rfl, hfails.besides.after hs₁.keeps_of_tell⟩
      case inl =>
        -- the view is delivered, and one more event follows
        have hdelivered := hs₂.mono.trans (delivered_apart hs₁ output? view.source)
        obtain ⟨r₃, s₃, hlast, h⟩ := run_bind_eq_iff.mp h
        rcases run_emit hlast with ⟨rfl, hs₃⟩ | ⟨cause, part, rfl, hends, hs₃⟩
        · obtain ⟨rfl, rfl⟩ := run_pure_eq_iff.mp h
          exact Or.inl ⟨_, rfl, .swift hview (hs₃.trans (hdelivered.tell _))⟩
        · obtain ⟨rfl, rfl⟩ := run_pure_eq_iff.mp h
          have hall := completes_delivered input path hview hdelivered
          have hafter := hall.after ((Scene.Keeps.refl _ s.scene).tell _)
          exact Or.inr ⟨_, rfl, hafter.fails hends hs₃⟩

/-- Where the files of a pair go is looked up and changes nothing. -/
theorem run_pairOutputs {output input : Path} {paths : Path × Path}
    (h : (Source.pairOutputs Host.machine output input).run s = (paths, s')) :
    s' = s ∧ ∃ base, IsBase output input base ∧
      paths = (Path.withExtension base ['h'], Path.withExtension base ['m']) := by
  refine ⟨(Source.readOnly_pairOutputs output input).eq h, ?_⟩
  obtain ⟨kind?, s₁, -, h⟩ := run_bind_eq_iff.mp h
  obtain ⟨hpaths, -⟩ := run_pure_eq_iff.mp h
  refine ⟨_, ?_, hpaths.symm⟩
  split
  · exact Or.inr rfl
  · exact Or.inl rfl

/-- How a conversion of a pair can go. -/
theorem run_runPair {log : Log} {o : Options} {input output headerPath implementationPath : Path}
    {pair : SourcePair} {r : Except Failure Report}
    (h : (runPair Host.machine log o input output pair).run s = (r, s')) :
    (∃ report, r = .ok report ∧ Succeeds log o input (some output)
      (.objc headerPath implementationPath pair) report s.scene s'.scene) ∨
    ∃ e, r = .error e ∧ Fails log.place? (FilesOf o input (some output)
      (.objc headerPath implementationPath pair)) s.scene e s'.scene := by
  obtain ⟨r₁, s₁, hevents, h⟩ := run_bind_eq_iff.mp h
  rcases run_emitAll hevents with ⟨rfl, hs₁⟩ | ⟨cause, part, rfl, -, hs₁⟩
  case inr =>
    obtain ⟨rfl, rfl⟩ := run_pure_eq_iff.mp h
    exact Or.inr ⟨_, rfl, Fails.of_keeps hs₁.keeps_of_tell⟩
  case inl =>
    cases hview : (convertPair o pair).value with
    | none =>
      rw [hview] at h
      obtain ⟨rfl, rfl⟩ := run_pure_eq_iff.mp h
      exact Or.inr ⟨_, rfl, Fails.of_keeps hs₁.keeps_of_tell⟩
    | some view =>
      rw [hview] at h
      obtain ⟨paths, s₂, hpaths, h⟩ := run_bind_eq_iff.mp h
      -- the paths are looked up on the machine as it is, and then both files are written
      obtain ⟨rfl, base, hbase, rfl⟩ := run_pairOutputs hpaths
      have hfiles : FilesOf o input (some output) (.objc headerPath implementationPath pair) _ :=
        .pair hview rfl hbase
      obtain ⟨r₂, s₃, hwrite, h⟩ := run_bind_eq_iff.mp h
      rcases run_writeAll hwrite with ⟨rfl, hs₃⟩ | ⟨p, cause, kept, rfl, hstops, hs₃⟩
      case inr =>
        obtain ⟨rfl, rfl⟩ := run_pure_eq_iff.mp h
        refine Or.inr ⟨_, rfl, Fails.after hs₁.keeps_of_tell ?_⟩
        exact ⟨kept, .of_store hs₃, .writing hfiles rfl hstops⟩
      case inl =>
        -- both files are written, and one more event follows
        have hkeeps := hs₁.keeps_of_tell.trans (Scene.Keeps.of_store hs₃)
        obtain ⟨r₃, s₄, hlast, h⟩ := run_bind_eq_iff.mp h
        rcases run_emit hlast with ⟨rfl, hs₄⟩ | ⟨cause, part, rfl, hends, hs₄⟩
        · obtain ⟨rfl, rfl⟩ := run_pure_eq_iff.mp h
          exact Or.inl ⟨_, rfl, .pair hfiles (hs₄.keeps (hkeeps.tell _))⟩
        · obtain ⟨rfl, rfl⟩ := run_pure_eq_iff.mp h
          exact Or.inr ⟨_, rfl, Completes.fails (Or.inr ⟨_, hfiles, hkeeps⟩) hends hs₄⟩

/-- How a conversion of a drawing that was read can go. -/
theorem run_runInput {log : Log} {o : Options} {input : Path} {output? : Option Path}
    {drawing : Input} {r : Except Failure Report}
    (h : (runInput Host.machine log o input output? drawing).run s = (r, s')) :
    (∃ report, r = .ok report ∧ Succeeds log o input output? drawing report s.scene s'.scene) ∨
    ∃ e, r = .error e ∧ Fails log.place? (FilesOf o input output? drawing) s.scene e s'.scene := by
  cases drawing with
  | swift path source => exact run_runSwift h
  | objc headerPath implementationPath pair =>
    cases output? with
    | none =>
      -- a pair cannot go to the clipboard
      obtain ⟨rfl, rfl⟩ : _ ∧ s = s' := run_pure_eq_iff.mp h
      exact Or.inr ⟨_, rfl, Fails.of_keeps (Scene.Keeps.refl _ _)⟩
    | some output => exact run_runPair h

/-- A run that succeeds has stored all files of its view, or none if the view is on the
clipboard. -/
theorem Succeeds.completes {log : Log} {o : Options} {input : Path} {output? : Option Path}
    {drawing : Input} {report : Report} {a b : Scene}
    (h : Succeeds log o input output? drawing report a b) :
    Completes log.place? (FilesOf o input output? drawing) a b := by
  cases h with
  | swift converted apart =>
    apply Completes.tell _ apart
    apply Completes.after ((Scene.Keeps.refl _ a).tell _)
    exact completes_delivered input _ converted (Scene.Apart.of_eq _ rfl)
  | pair files keeps => exact Or.inr ⟨_, files, keeps⟩

/-! ## A run up to its report -/

/-- What a run reads: its settings, and the drawing once its log is open. -/
structure Reading (i : Invocation) (s : Machine) (settings : Settings) (log : Log) (s₁ : Machine)
    (input : Path) (drawing : Input) : Prop where
  loaded : (Settings.load Host.machine i.config?).run s = (.ok settings, s)
  started : (Log.start Host.machine settings.logging
    (i.verbose || settings.defaults.verbose)).run s = (.ok log, s₁)
  from_input : i.inputPath? = some input
  read : (Source.load Host.machine input).run s₁ = (.ok drawing, s₁)

/-- The files of the view that a run makes of the drawing it reads. -/
def ViewFiles (i : Invocation) (s : Machine) (outputs : List (Path × Text)) : Prop :=
  ∃ settings log s₁ input drawing, Reading i s settings log s₁ input drawing ∧
    FilesOf (optionsFor i settings drawing.dialect) input i.outputPath? drawing outputs

/-- The place of the log file that an invocation is told to use by its settings. -/
def Invocation.logPlace? (i : Invocation) (s : Machine) : Option Location :=
  match ((Settings.load Host.machine i.config?).run s).1 with
  | .ok settings => loggingPlace? settings.logging
  | .error _ => none

/-- The log that was opened is the one that the settings name. -/
theorem Reading.place?_eq {i : Invocation} {settings : Settings} {log : Log} {s₁ : Machine}
    {input : Path} {drawing : Input} (h : Reading i s settings log s₁ input drawing) :
    log.place? = i.logPlace? s := by
  -- both are told by the settings
  obtain ⟨-, -, hlog⟩ := run_start h.started
  rw [(hlog log rfl).1, Invocation.logPlace?, h.loaded]

/-- The event with which a conversion starts. -/
def firstEvent (i : Invocation) (settings : Settings) (input : Path) (dialect : Dialect) : Event :=
  .converting input (optionsFor i settings dialect).dialect (optionsFor i settings dialect).baseType

/-- How a run can go once its log is open.  A run that succeeds tells that it starts, and then does
what its drawing asks for. -/
theorem run_runLogged {i : Invocation} {settings : Settings} {log : Log}
    {r : Except Failure Report}
    (h : (runLogged Host.machine i settings log).run s = (r, s')) :
    (∃ report input drawing a, r = .ok report ∧ i.inputPath? = some input ∧
      (Source.load Host.machine input).run s = (.ok drawing, s) ∧
      a.Apart log.place? (s.scene.tell
        (streamLines log.stream [firstEvent i settings input drawing.dialect])) ∧
      Succeeds log (optionsFor i settings drawing.dialect) input i.outputPath? drawing report a
        s'.scene) ∨
    ∃ e, r = .error e ∧ Fails log.place? (fun outputs => ∃ input drawing,
      i.inputPath? = some input ∧ (Source.load Host.machine input).run s = (.ok drawing, s) ∧
      FilesOf (optionsFor i settings drawing.dialect) input i.outputPath? drawing outputs)
      s.scene e s'.scene := by
  unfold runLogged at h
  split at h
  case h_1 =>
    obtain ⟨rfl, rfl⟩ := run_pure_eq_iff.mp h
    exact Or.inr ⟨_, rfl, Fails.of_keeps (Scene.Keeps.refl _ _)⟩
  case h_2 input hinput =>
    obtain ⟨r₁, s₁, hread, h⟩ := run_bind_eq_iff.mp h
    -- up to here nothing was changed, and from here on at first only the log
    obtain rfl : s₁ = s := (Source.readOnly_load input).eq hread
    cases r₁ with
    | error e =>
      obtain ⟨rfl, rfl⟩ := run_pure_eq_iff.mp h
      exact Or.inr ⟨_, rfl, Fails.of_keeps (Scene.Keeps.refl _ _)⟩
    | ok drawing =>
      obtain ⟨r₂, s₂, hfirst, h⟩ := run_bind_eq_iff.mp h
      rcases run_emit hfirst with ⟨rfl, hs₂⟩ | ⟨cause, part, rfl, -, hs₂⟩
      · rcases run_runInput h with ⟨report, rfl, hsucceeds⟩ | ⟨e, rfl, hfails⟩
        · exact Or.inl ⟨report, input, drawing, _, rfl, hinput, hread, hs₂, hsucceeds⟩
        · right
          refine ⟨e, rfl, (hfails.after hs₂.keeps_of_tell).mono ?_⟩
          exact fun outputs hfiles => ⟨input, drawing, hinput, hread, hfiles⟩
      · obtain ⟨rfl, rfl⟩ := run_pure_eq_iff.mp h
        exact Or.inr ⟨_, rfl, Fails.of_keeps hs₂.keeps_of_tell⟩

/-- How a run can go up to its report. -/
theorem run_perform {i : Invocation} {r : Except Failure Report}
    (h : (perform Host.machine i).run s = (r, s')) :
    (∃ report settings log s₁ input drawing a, r = .ok report ∧
      Reading i s settings log s₁ input drawing ∧
      a.Apart log.place? (s₁.scene.tell
        (streamLines log.stream [firstEvent i settings input drawing.dialect])) ∧
      Succeeds log (optionsFor i settings drawing.dialect) input i.outputPath? drawing report a
        s'.scene) ∨
    ∃ e, r = .error e ∧ Fails (i.logPlace? s) (ViewFiles i s) s.scene e s'.scene := by
  obtain ⟨r₁, s₁, hload, h⟩ := run_bind_eq_iff.mp h
  obtain rfl : s₁ = s := (Settings.readOnly_settings i.config?).eq hload
  cases r₁ with
  | error e =>
    obtain ⟨rfl, rfl⟩ := run_pure_eq_iff.mp h
    exact Or.inr ⟨_, rfl, Fails.of_keeps (Scene.Keeps.refl _ _)⟩
  | ok settings =>
    -- from here on the log is known, by its place
    have hplace : i.logPlace? s₁ = loggingPlace? settings.logging := by
      rw [Invocation.logPlace?, hload]
    obtain ⟨r₂, s₂, hstart, h⟩ := run_bind_eq_iff.mp h
    obtain ⟨-, hs₂, hlog⟩ := run_start hstart
    have hkeeps := hs₂.keeps (Scene.Keeps.refl _ s₁.scene)
    rw [hplace]
    cases r₂ with
    | error e =>
      obtain ⟨rfl, rfl⟩ := run_pure_eq_iff.mp h
      exact Or.inr ⟨_, rfl, Fails.of_keeps hkeeps⟩
    | ok log =>
      obtain ⟨hlogPlace, -⟩ := hlog log rfl
      rcases run_runLogged h with
        ⟨report, input, drawing, a, rfl, hinput, hread, hfirst, hsucceeds⟩ | ⟨e, rfl, hfails⟩
      · left
        exact ⟨report, settings, log, s₂, input, drawing, a, rfl, ⟨hload, hstart, hinput, hread⟩,
          hfirst, hsucceeds⟩
      · rw [hlogPlace] at hfails
        refine Or.inr ⟨e, rfl, (hfails.after hkeeps).mono ?_⟩
        intro outputs ⟨input, drawing, hinput, hread, hfiles⟩
        exact ⟨settings, log, s₂, input, drawing, ⟨hload, hstart, hinput, hread⟩, hfiles⟩

/-! ## The exit status -/

/-- A run that breaks off has its own status and stores nothing more. -/
private theorem run_breakOff {e : StreamError} {status : Nat}
    (h : (breakOff Host.machine e).run s = (status, s')) :
    status = brokenOff ∧ s.scene.Keeps none [] s'.scene := by
  obtain ⟨r, s₁, hreport, h⟩ := run_bind_eq_iff.mp h
  obtain ⟨rfl, rfl⟩ := run_pure_eq_iff.mp h
  exact ⟨rfl, (run_host_report hreport).keeps⟩

/-- How the exit status of a failure comes about: its message is the last that is told, or a stream
has failed before or while telling it. -/
def EndsWith (e : Failure) (a : Scene) (status : Nat) (b : Scene) : Prop :=
  (status = 1 ∧ (∀ e', e ≠ .stream e') ∧ b.Apart none (a.tell (e.message ++ ['\n']))) ∨
    status = brokenOff ∧ a.Keeps none [] b ∧
      ((∃ e', e = .stream e') ∨ ∃ cause, a.faults.errors?.Ends cause)

/-- How saying why a run ended early can go. -/
private theorem run_endEarly {e : Failure} {status : Nat}
    (h : (endEarly Host.machine e).run s = (status, s')) :
    EndsWith e s.scene status s'.scene := by
  unfold endEarly at h
  split at h
  case h_1 e' =>
    obtain ⟨rfl, hkeeps⟩ := run_breakOff h
    exact Or.inr ⟨rfl, hkeeps, Or.inl ⟨e', rfl⟩⟩
  -- any other failure is told
  case h_2 hne =>
    obtain ⟨r, s₁, hreport, h⟩ := run_bind_eq_iff.mp h
    rcases run_host_report hreport with ⟨rfl, hs⟩ | ⟨cause, part, rfl, hends, hs⟩
    · obtain ⟨rfl, rfl⟩ := run_pure_eq_iff.mp h
      exact Or.inl ⟨rfl, hne, hs⟩
    · obtain ⟨rfl, hkeeps⟩ := run_breakOff h
      exact Or.inr ⟨rfl, hs.keeps_of_tell.trans hkeeps, Or.inr ⟨cause, hends⟩⟩

/-- How a run can go: it is carried out and its report is printed, it fails, or its report cannot be
printed. -/
theorem run_runInvocation {i : Invocation} {status : Nat}
    (h : (runInvocation Host.machine i).run s = (status, s')) :
    (∃ report s₁, (perform Host.machine i).run s = (.ok report, s₁) ∧ status = 0 ∧
      s'.scene = s₁.scene.say (report.text i.json)) ∨
    (∃ e s₁, (perform Host.machine i).run s = (.error e, s₁) ∧
      EndsWith e s₁.scene status s'.scene) ∨
    ∃ report s₁ cause, (perform Host.machine i).run s = (.ok report, s₁) ∧ status = brokenOff ∧
      s₁.faults.output?.Ends cause ∧ s₁.scene.Keeps none [] s'.scene := by
  obtain ⟨r, s₁, hperform, h⟩ := run_bind_eq_iff.mp h
  cases r with
  | error e => exact Or.inr (Or.inl ⟨e, s₁, hperform, run_endEarly h⟩)
  -- what is left is to print the report
  | ok report =>
    obtain ⟨r, s₂, hprint, h⟩ := run_bind_eq_iff.mp h
    rcases run_host_print hprint with ⟨rfl, hs⟩ | ⟨cause, part, rfl, hends, hs⟩
    · obtain ⟨rfl, rfl⟩ := run_pure_eq_iff.mp h
      exact Or.inl ⟨report, s₁, hperform, rfl, hs⟩
    · obtain ⟨rfl, hkeeps⟩ := run_breakOff h
      have hsaid : s₁.scene.Keeps none [] s₂.scene := by
        rw [hs]
        exact ⟨fun _ _ => rfl, rfl⟩
      exact Or.inr (Or.inr ⟨report, s₁, cause, hperform, rfl, hends, hsaid.trans hkeeps⟩)

end LayerView.Command
