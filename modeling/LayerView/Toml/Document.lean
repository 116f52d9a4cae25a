import LayerView.Toml.Scalar

/-!
# TOML documents

A document is a sequence of lines, each of which gives a value to a key, opens a table, or is blank.
Reading it keeps the entries so far and the path of the table that is open.
-/

namespace LayerView.Toml

open LayerView.Text

/-! ## Blanks and comments -/

/-- A text without blanks at its start. -/
def skipBlanks (t : Text) : Text := t.dropWhile isLineBlank

/-- Skip blanks, line breaks and comments; `comment` tells whether a comment has begun. -/
def skipFillerFrom (comment : Bool) : Text → Option Text
  | [] => some []
  | '\r' :: '\n' :: t => skipFillerFrom false t
  | c :: t =>
    if c = '\n' then skipFillerFrom false t
    -- A control character may not stand in a comment either.
    else if comment then if isPlain c then skipFillerFrom true t else none
    else if isLineBlank c then skipFillerFrom false t
    else if c = '#' then skipFillerFrom true t
    else some (c :: t)

/-- Skip blanks, line breaks and comments. -/
def skipFiller (t : Text) : Option Text := skipFillerFrom false t

/-- What follows the end of a line, before which there may be blanks and a comment. -/
def endLine? (t : Text) : Option Text :=
  match skipBlanks t with
  | '#' :: t =>
    let t := t.dropWhile isPlain
    if t.isEmpty then some [] else (lineEnd? t).map t.drop
  | [] => some []
  | t => (lineEnd? t).map t.drop

/-! ## Keys -/

/-- Whether a character may stand in a key without quotes. -/
def isKeyChar (c : Char) : Bool := c.isAlphanum || c == '_' || c == '-'

/-- One part of a key. -/
def simpleKey? (t : Text) : Option (Text × Text) :=
  match lineString? t with
  | some found => some found
  | none => run? isKeyChar t

/-- A key of at most a number of parts, as its parts before the last and the last. -/
def keyIn : Nat → Text → Option (List Text × Text × Text)
  | 0, _ => none
  | count + 1, t => do
    let (part, rest) ← simpleKey? t
    match skipBlanks rest with
    | '.' :: t => do
      let (path, key, t) ← keyIn count (skipBlanks t)
      return (part :: path, key, t)
    | _ => return ([], part, rest)

/-- How many parts a key may have, and how deep brackets may be nested. -/
def maxDepth : Nat := 80

/-- A key, its parts joined by dots, and what follows it. -/
def key? (t : Text) : Option (List Text × Text × Text) := keyIn maxDepth t

/-! ## Values -/

/-- Whether a character ends a value that has no quotes or brackets. -/
def endsScalar (c : Char) : Bool :=
  c ∈ [' ', '\t', '\n', '\r', '#', ',', '=', '[', ']', '{', '}', '"', '\'']

/-- A value without quotes or brackets.  A single blank may stand between a date and a time. -/
def scalarValue? (t : Text) : Option (Value × Text) :=
  let word := t.takeWhile fun c => !endsScalar c
  let rest := t.drop word.length
  match afterDate? word, rest with
  | some [], ' ' :: more =>
    let time := more.takeWhile fun c => !endsScalar c
    if isMoment (word ++ ' ' :: time) then some (.moment, more.drop time.length)
    else (scalar? word).map fun v => (v, rest)
  | _, _ => (scalar? word).map fun v => (v, rest)

mutual

/-- A value and what follows it, with brackets nested at most `depth` deep. -/
def valueIn : Nat → Nat → Text → Option (Value × Text)
  | 0, _, _ => none
  | steps + 1, depth, t =>
    match string? t with
    | some (s, rest) => some (.string s, rest)
    | none =>
      match t, depth with
      | '[' :: t, depth + 1 => do
        let (items, t) ← itemsIn steps depth (← skipFiller t)
        return (.array false items, t)
      | '{' :: t, depth + 1 => do
        let (entries, t) ← fieldsIn steps depth [] (← skipFiller t)
        return (.table .inline entries, t)
      -- Past the allowed depth a bracket comes here, too, and it is no scalar.
      | _, _ => scalarValue? t

/-- The items of an array up to its closing bracket. -/
def itemsIn : Nat → Nat → Text → Option (List Value × Text)
  | 0, _, _ => none
  | steps + 1, depth, t =>
    match t with
    -- This ends an array without items, and one with a comma after its last item.
    | ']' :: t => some ([], t)
    | t => do
      let (v, t) ← valueIn steps depth t
      match ← skipFiller t with
      | ',' :: t => do
        let (items, t) ← itemsIn steps depth (← skipFiller t)
        return (v :: items, t)
      | ']' :: t => return ([v], t)
      | _ => none

/-- The entries of an inline table up to its closing brace, after those read before.  Line breaks
and comments may stand anywhere in it but inside a key. -/
def fieldsIn : Nat → Nat → Entries → Text → Option (Entries × Text)
  | 0, _, _, _ => none
  | steps + 1, depth, entries, t =>
    match t with
    | '}' :: t => some (entries, t)
    | t => do
      let (path, key, t) ← key? t
      let t ← skip? ['='] (← skipFiller t)
      let (v, t) ← valueIn steps depth (← skipFiller t)
      let entries ← Entries.addDotted v key path entries
      match ← skipFiller t with
      | ',' :: t => fieldsIn steps depth entries (← skipFiller t)
      | '}' :: t => return (entries, t)
      | _ => none

end

/-- A value and what follows it. -/
def value? (t : Text) : Option (Value × Text) := valueIn (2 * t.length + 2) maxDepth t

/-! ## Lines -/

/-- What was read so far: the entries, and the path of the open table. -/
structure Reading where
  entries : Entries := []
  table : List Text := []

/-- A header of a table: `[path]`. -/
def header? (r : Reading) (t : Text) : Option (Reading × Text) := do
  let (path, key, t) ← key? (skipBlanks t)
  let t ← skip? [']'] (skipBlanks t)
  let entries ← Entries.openTable path key r.entries
  return ({ entries, table := path ++ [key] }, t)

/-- A header of an array of tables: `[[path]]`. -/
def itemHeader? (r : Reading) (t : Text) : Option (Reading × Text) := do
  let (path, key, t) ← key? (skipBlanks t)
  let t ← skip? [']', ']'] (skipBlanks t)
  let entries ← Entries.openItem path key r.entries
  return ({ entries, table := path ++ [key] }, t)

/-- A key and its value. -/
def assignment? (r : Reading) (t : Text) : Option (Reading × Text) := do
  let (path, key, t) ← key? t
  let t ← skip? ['='] (skipBlanks t)
  let (v, t) ← value? (skipBlanks t)
  -- The key counts from the table that is open.
  let entries ← Entries.alterUnder (Entries.addDotted v key path) r.table r.entries
  return ({ r with entries }, t)

/-- What a line says, if it is not blank, and what follows on it. -/
def line? (r : Reading) (t : Text) : Option (Reading × Text) :=
  match t with
  | '[' :: '[' :: t => itemHeader? r t
  | '[' :: t => header? r t
  | t => assignment? r t

/-- Read lines, at most a number of them. -/
def linesIn (r : Reading) : Nat → Text → Option Reading
  | 0, _ => none
  | count + 1, t => do
    match ← skipFiller t with
    | [] => return r
    | t => do
      let (r, t) ← line? r t
      linesIn r count (← endLine? t)

/-- A text without a byte order mark at its start. -/
def withoutByteOrderMark : Text → Text
  | c :: t => if c.toNat = 0xFEFF then t else c :: t
  | [] => []

/-- The entries of a document. -/
def read? (t : Text) : Option Entries :=
  (linesIn {} (t.length + 1) (withoutByteOrderMark t)).map Reading.entries

end LayerView.Toml
