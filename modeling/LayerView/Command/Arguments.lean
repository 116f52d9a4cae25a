import LayerView.Files.Path
import LayerView.Text.Pattern

/-!
# Command line arguments

Options may be given once.  Those with a value take it from the same argument, after an equals sign
or, in the short form, directly; or else from the next argument, which must not look like an option
unless it is an expression for the background.  What is no option is a path, of which at most two may
stand in a row.  After a double dash all arguments are paths.
-/

namespace LayerView.Command

open LayerView.Text

/-- Options that take a value. -/
inductive ValueOption where
  | input
  | output
  | baseType
  | background
  | config
deriving DecidableEq, Repr

/-- Options that take none. -/
inductive Flag where
  | verbose
  | json
  | version
  | help
deriving DecidableEq, Repr

/-- An option of either sort. -/
inductive CommandOption where
  | value (o : ValueOption)
  | flag (f : Flag)
deriving DecidableEq, Repr

/-- The option of a long name. -/
def longOption? (name : Text) : Option CommandOption :=
  if name = "input".toList then some (.value .input)
  else if name = "output".toList then some (.value .output)
  else if name = "super".toList then some (.value .baseType)
  else if name = "bg".toList then some (.value .background)
  else if name = "config".toList then some (.value .config)
  else if name = "verbose".toList then some (.flag .verbose)
  else if name = "json".toList then some (.flag .json)
  else if name = "version".toList then some (.flag .version)
  else if name = "help".toList then some (.flag .help)
  else none

/-- The option of a letter. -/
def shortOption? : Char → Option CommandOption
  | 'i' => some (.value .input)
  | 'o' => some (.value .output)
  | 'c' => some (.value .baseType)
  | 'v' => some (.flag .verbose)
  | 'V' => some (.flag .version)
  | 'h' => some (.flag .help)
  | _ => none

/-- What a command line asks for, as far as it was read. -/
structure Invocation where
  input? : Option Path := none
  output? : Option Path := none
  paths : List Path := []
  baseType? : Option Text := none
  background? : Option Text := none
  config? : Option Path := none
  verbose : Bool := false
  json : Bool := false
deriving DecidableEq, Repr

/-- Why a command line cannot be understood. -/
inductive UsageError where
  | unknownOption (argument : Text)
  | repeatedOption (argument : Text)
  | missingValue (argument : Text)
  | unexpectedValue (argument : Text)
  | emptyPath
  | tooManyPaths
deriving DecidableEq, Repr

/-- The wording of an error. -/
def UsageError.message : UsageError → Text
  | .unknownOption argument => "unexpected argument: ".toList ++ argument
  | .repeatedOption argument => "the argument is given more than once: ".toList ++ argument
  | .missingValue argument => "a value is required for: ".toList ++ argument
  | .unexpectedValue argument => "no value is expected for: ".toList ++ argument
  | .emptyPath => "a path must not be empty".toList
  | .tooManyPaths => "more than two paths are given".toList

/-- What a command line asks for. -/
inductive Request where
  | version
  | help
  | convert (i : Invocation)
deriving DecidableEq, Repr

/-! ## Options -/

/-- Store a value that has to be the first. -/
def storeOnce (argument : Text) (old? : Option Text) (value : Text) :
    Except UsageError (Option Text) :=
  match old? with
  | some _ => .error (.repeatedOption argument)
  | none => .ok (some value)

/-- Store a path, which has to be the first and not empty. -/
def storePath (argument : Text) (old? : Option Path) (value : Path) :
    Except UsageError (Option Path) :=
  if value.isEmpty then .error .emptyPath else storeOnce argument old? value

/-- Give an option its value. -/
def Invocation.store (i : Invocation) (argument : Text) (o : ValueOption) (value : Text) :
    Except UsageError Invocation :=
  match o with
  | .input => (storePath argument i.input? value).map fun v => { i with input? := v }
  | .output => (storePath argument i.output? value).map fun v => { i with output? := v }
  | .config => (storePath argument i.config? value).map fun v => { i with config? := v }
  | .baseType => (storeOnce argument i.baseType? value).map fun v => { i with baseType? := v }
  | .background => (storeOnce argument i.background? value).map fun v => { i with background? := v }

/-- Add a path; `row` paths stand before it without an option between. -/
def Invocation.addPath (i : Invocation) (row : Nat) (p : Path) : Except UsageError Invocation :=
  if p.isEmpty then .error .emptyPath
  else if 2 ≤ row then .error .tooManyPaths
  else .ok { i with paths := i.paths ++ [p] }

/-- The outcome of reading an argument: the reading goes on, perhaps with an option that waits for its
value, or the command line asks for something that needs no more of it. -/
inductive Progress where
  | go (i : Invocation) (waiting? : Option (Text × ValueOption))
  | stop (r : Request)
deriving DecidableEq, Repr

/-- Set a flag. -/
def Invocation.raise (i : Invocation) (argument : Text) : Flag → Except UsageError Progress
  -- These two end the reading, so what follows them is never checked.
  | .version => .ok (.stop .version)
  | .help => .ok (.stop .help)
  | .verbose =>
    if i.verbose then .error (.repeatedOption argument)
    else .ok (.go { i with verbose := true } none)
  | .json =>
    if i.json then .error (.repeatedOption argument) else .ok (.go { i with json := true } none)

/-- Read a long option, given after its two dashes. -/
def readLong (i : Invocation) (argument body : Text) : Except UsageError Progress :=
  let (name, value?) :=
    match breakOn? ['='] body with
    | some (name, value) => (name, some value)
    | none => (body, none)
  match longOption? name, value? with
  | none, _ => .error (.unknownOption argument)
  | some (.value o), some value => do return .go (← i.store argument o value) none
  | some (.value o), none => .ok (.go i (some (argument, o)))
  | some (.flag _), some _ => .error (.unexpectedValue argument)
  | some (.flag f), none => i.raise argument f

/-- Read letters of short options, given after their dash. -/
def readShort (argument : Text) (i : Invocation) : Text → Except UsageError Progress
  | [] => .ok (.go i none)
  | c :: rest =>
    match shortOption? c with
    | none => .error (.unknownOption argument)
    | some (.value o) =>
      match rest with
      | [] => .ok (.go i (some (argument, o)))
      -- The equals sign may be left out, and then the letters that follow are the value.
      | '=' :: value => do return .go (← i.store argument o value) none
      | value => do return .go (← i.store argument o value) none
    | some (.flag f) =>
      match i.raise argument f with
      | .error e => .error e
      | .ok (.stop r) => .ok (.stop r)
      | .ok (.go i _) => readShort argument i rest

/-! ## Arguments in order -/

/-- Whether an argument looks like an option; a single dash does not. -/
def looksLikeOption : Text → Bool
  | '-' :: _ :: _ => true
  | _ => false

/-- Read an argument that looks like an option. -/
def readOption (i : Invocation) (argument : Text) : Except UsageError Progress :=
  match argument with
  | '-' :: '-' :: body => readLong i argument body
  | '-' :: body => readShort argument i body
  | _ => .error (.unknownOption argument)

/-- Read arguments that are all paths. -/
def readPaths (i : Invocation) (row : Nat) : List Text → Except UsageError Request
  | [] => .ok (.convert i)
  | p :: ps => do readPaths (← i.addPath row p) (row + 1) ps

/-- Read the arguments that follow; an option may wait for its value, or `row` paths may stand
directly before. -/
def readFrom (i : Invocation) (waiting? : Option (Text × ValueOption)) (row : Nat) :
    List Text → Except UsageError Request
  | [] =>
    match waiting? with
    | some (argument, _) => .error (.missingValue argument)
    | none => .ok (.convert i)
  | a :: rest =>
    match waiting? with
    | some (argument, o) =>
      -- An expression for the background may well start with a minus sign.
      if looksLikeOption a && o != .background then .error (.missingValue argument)
      else do readFrom (← i.store argument o a) none 0 rest
    | none =>
      if a = ['-', '-'] then readPaths i row rest
      else if looksLikeOption a then do
        match ← readOption i a with
        | .stop r => return r
        | .go i waiting? => readFrom i waiting? 0 rest
      else do readFrom (← i.addPath row a) none (row + 1) rest

/-- Read a command line. -/
def Request.ofArguments (arguments : List Text) : Except UsageError Request :=
  readFrom {} none 0 arguments

/-! ## Where to read and write -/

/-- The path of the drawing: the option for it, or else the first path. -/
def Invocation.inputPath? (i : Invocation) : Option Path := i.input? <|> i.paths[0]?

/-- The path of the view: the option for it, or else the path that follows that of the drawing. -/
def Invocation.outputPath? (i : Invocation) : Option Path :=
  -- With the option for the drawing, no path is spent on it.
  i.output? <|> (if i.input?.isSome then i.paths[0]? else i.paths[1]?)

end LayerView.Command
