import LayerView.Command.Arguments
import LayerView.Command.Log
import LayerView.Command.Report
import LayerView.Files.Source
import LayerView.Settings.Load

/-!
# A run of the command

A run loads its settings, opens its log, reads the drawing, converts it, and writes the view.  A
Swift view without a place to go is handed to the clipboard.  Whatever goes wrong ends the run with a
message and the exit status one.  The exception is a stream that fails: the run breaks off where it
stands, with a status of its own.
-/

namespace LayerView.Command

open LayerView.Text

/-- The version of the command. -/
def version : Text := "0.3.0".toList

/-- The streams of a run. -/
inductive Stream where
  | output
  | errors
deriving DecidableEq, Repr

/-- The name of a stream. -/
def Stream.name : Stream → Text
  | .output => "stdout".toList
  | .errors => "stderr".toList

/-- A stream that could not be written to. -/
structure StreamError where
  stream : Stream
  cause : OsError
deriving DecidableEq, Repr

/-- The wording of the error. -/
def StreamError.message (e : StreamError) : Text :=
  "failed printing to ".toList ++ e.stream.name ++ ": ".toList ++ e.cause.message

/-- Why a run ended early. -/
inductive Failure where
  | settings (e : SettingsError)
  | log (e : LogError)
  | noInput
  | source (e : SourceError)
  | unsupported
  | noOutput
  | copy (e : CopyError)
  | notConverted (input : Path)
  | stream (e : StreamError)
deriving DecidableEq, Repr

/-- What a run says when it ends early. -/
def Failure.message : Failure → Text
  | .settings e => "Error loading config: ".toList ++ e.message
  | .log e => e.message
  | .noInput => "ERROR: No input specified.".toList
  | .source e => "ERROR: ".toList ++ e.message
  | .unsupported => "ERROR: Unsupported source type.".toList
  | .noOutput => "ERROR: No output specified.".toList
  | .copy e => "ERROR: ".toList ++ e.message
  | .notConverted input => "ERROR: Could not transpile ".toList ++ input ++ ".".toList
  | .stream e => e.message

/-- The failure of a run that could not write to its error stream. -/
def Failure.ofErrors (cause : OsError) : Failure := .stream ⟨.errors, cause⟩

/-- The options of a conversion: those of the settings, with those of the command line on top. -/
def optionsFor (i : Invocation) (s : Settings) (dialect : Dialect) : Options :=
  let o := s.options dialect
  { o with
    baseType := i.baseType?.getD o.baseType
    -- A choice on the command line wins; being verbose can be asked for on either side.
    background? := i.background? <|> o.background?
    verbose := o.verbose || i.verbose }

variable {m : Type → Type} [Monad m]

/-- Write texts to files in order, up to the first that fails. -/
def writeAll (h : Host m) : List (Path × Text) → m (Except Failure Unit)
  | [] => return .ok ()
  | (path, t) :: rest => do
    match ← Source.write h path t with
    -- Files that were written before this one stay.
    | .error e => return .error (.source e)
    | .ok () => writeAll h rest

/-- Hand a Swift view to the clipboard. -/
def copyView (h : Host m) (t : Text) : m (Except Failure Unit) := do
  if !(← h.hasClipboard) then return .error .noOutput
  match ← h.copy t with
  | .error e => return .error (.copy e)
  | .ok () =>
    match ← h.report "Copied result to clipboard.\n".toList with
    | .error cause => return .error (.ofErrors cause)
    | .ok () => return .ok ()

/-- Write a Swift view to a file or hand it to the clipboard. -/
def deliver (h : Host m) (output? : Option Path) (t : Text) : m (Except Failure Unit) :=
  match output? with
  | some path => writeAll h [(path, t)]
  | none => copyView h t

/-- Convert a Swift drawing and deliver the view. -/
def runSwift (h : Host m) (log : Log) (o : Options) (input : Path) (output? : Option Path)
    (source : Text) : m (Except Failure Report) := do
  let r := convert o source
  -- What the conversion reports is logged before anything is written.
  match ← log.emitAll h r.events with
  | .error cause => return .error (.ofErrors cause)
  | .ok () =>
    match r.value with
    | none => return .error .unsupported
    | some c =>
      match ← deliver h output? c.source with
      | .error e => return .error e
      | .ok () =>
        -- The view is delivered by now; only the log can still fail.
        match ← log.emit h (.swiftConverted c.declarations.length) with
        | .error cause => return .error (.ofErrors cause)
        | .ok () =>
          return .ok
            { input, dialect := .swift, outputs := output?.toList, declarations := c.declarations,
              duplicates := c.duplicates }

/-- Convert a pair and write the view. -/
def runPair (h : Host m) (log : Log) (o : Options) (input output : Path) (pair : SourcePair) :
    m (Except Failure Report) := do
  let r := convertPair o pair
  match ← log.emitAll h r.events with
  | .error cause => return .error (.ofErrors cause)
  | .ok () =>
    match r.value with
    | none => return .error (.notConverted input)
    | some c =>
      -- Whether the output is a directory is asked only once there is something to write.
      let (headerPath, implementationPath) ← Source.pairOutputs h output input
      match ← writeAll h
          [(headerPath, c.pair.header), (implementationPath, c.pair.implementation)] with
      | .error e => return .error e
      | .ok () =>
        match ← log.emit h (.pairConverted c.declarations.length) with
        | .error cause => return .error (.ofErrors cause)
        | .ok () =>
          return .ok
            { input, dialect := .objc, outputs := [headerPath, implementationPath],
              -- Colors of one name share a property, so none is left over as a duplicate.
              declarations := c.declarations, duplicates := [] }

/-- Convert a drawing that was read and write the view. -/
def runInput (h : Host m) (log : Log) (o : Options) (input : Path) (output? : Option Path) :
    Input → m (Except Failure Report)
  | .swift _ source => runSwift h log o input output? source
  | .objc _ _ pair =>
    match output? with
    | none => return .error .noOutput
    | some output => runPair h log o input output pair

/-- Read the drawing of an invocation, convert it and write the view. -/
def runLogged (h : Host m) (i : Invocation) (s : Settings) (log : Log) :
    m (Except Failure Report) := do
  match i.inputPath? with
  | none => return .error .noInput
  | some input =>
    match ← Source.load h input with
    | .error e => return .error (.source e)
    | .ok drawing =>
      let o := optionsFor i s drawing.dialect
      match ← log.emit h (.converting input o.dialect o.baseType) with
      | .error cause => return .error (.ofErrors cause)
      | .ok () => runInput h log o input i.outputPath? drawing

/-- Carry an invocation out, up to its report. -/
def perform (h : Host m) (i : Invocation) : m (Except Failure Report) := do
  match ← Settings.load h i.config? with
  | .error e => return .error (.settings e)
  | .ok s =>
    -- Both the command line and the settings can make a run verbose.
    match ← Log.start h s.logging (i.verbose || s.defaults.verbose) with
    | .error e => return .error (.log e)
    | .ok log => runLogged h i s log

/-- The exit status of a run that breaks off. -/
def brokenOff : Nat := 101

/-- Break a run off because a stream fails: the exit status.  The error stream gets a word on it, if
it can take one. -/
def breakOff (h : Host m) (e : StreamError) : m Nat := do
  -- This may be the stream that fails, so whether it takes the message is not looked at.
  let _ ← h.report (e.message ++ ['\n'])
  return brokenOff

/-- Say why a run ended early: the exit status. -/
def endEarly (h : Host m) (e : Failure) : m Nat :=
  match e with
  | .stream e => breakOff h e
  | e => do
    match ← h.report (e.message ++ ['\n']) with
    | .error cause => breakOff h ⟨.errors, cause⟩
    | .ok () => return 1

/-- Carry an invocation out and tell how it went: the exit status. -/
def runInvocation (h : Host m) (i : Invocation) : m Nat := do
  match ← perform h i with
  | .error e => endEarly h e
  | .ok report =>
    -- The view is written by now; a report that cannot be printed does not take it back.
    match ← h.print (report.text i.json) with
    | .error cause => breakOff h ⟨.output, cause⟩
    | .ok () => return 0

/-- How the command is called. -/
def usage : Text :=
  ("Fumes transpiles PaintCode's static objects into configurable views.\n\n" ++
   "Usage: fumes [OPTIONS] [PATH]...\n\n" ++
   "Arguments:\n" ++
   "  [PATH]...  Input and output given positionally\n\n" ++
   "Options:\n" ++
   "  -i, --input <INPUT>    Source file (.swift, or either file of a .h/.m pair)\n" ++
   "  -o, --output <OUTPUT>  Destination file; the result is copied to the clipboard when omitted\n" ++
   "  -c, --super <NAME>     Base type the generated view inherits from (default: UIView)\n" ++
   "      --bg <EXPR>        Initializer for the view's background color\n" ++
   "  -v, --verbose          Report dropped duplicate declarations\n" ++
   "      --config <CONFIG>  Path to the configuration file\n" ++
   "      --json             Print a JSON report of the emitted declarations\n" ++
   "  -h, --help             Print help\n" ++
   "  -V, --version          Print version\n").toList

/-- Do what a command line asks for: the exit status.  Whether the version or the usage could be
shown is not looked at. -/
def runRequest (h : Host m) : Request → m Nat
  | .version => do
    let _ ← h.print ("fumes ".toList ++ version ++ ['\n'])
    return 0
  | .help => do
    let _ ← h.print usage
    return 0
  | .convert i => runInvocation h i

/-- Do what the arguments of the command ask for: the exit status.  It is two if they cannot be
understood. -/
def runCommand (h : Host m) (arguments : List Text) : m Nat :=
  match Request.ofArguments arguments with
  | .error e => do
    let _ ← h.report ("error: ".toList ++ e.message ++ ['\n'])
    return 2
  | .ok request => runRequest h request

end LayerView.Command
