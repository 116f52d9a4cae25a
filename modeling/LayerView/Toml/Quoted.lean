import LayerView.Text.Pattern

/-!
# Strings of a TOML document

Strings stand in double quotes, with escapes, or in single quotes, without.  Three quotes open a
string that may hold line breaks; a break right after them does not belong to it, and in double
quotes a backslash at the end of a line joins it to the next text.
-/

namespace LayerView.Toml

open LayerView.Text

/-- Whether a character may stand in a comment or, as itself, in a string of one line. -/
def isPlain (c : Char) : Bool := c == '\t' || (decide (0x20 ≤ c.toNat) && c.toNat != 0x7F)

/-- The value of a hexadecimal digit. -/
def hexDigit? (c : Char) : Option Nat :=
  if '0' ≤ c ∧ c ≤ '9' then some (c.toNat - '0'.toNat)
  else if 'a' ≤ c ∧ c ≤ 'f' then some (c.toNat - 'a'.toNat + 10)
  else if 'A' ≤ c ∧ c ≤ 'F' then some (c.toNat - 'A'.toNat + 10)
  else none

/-- The value of hexadecimal digits. -/
def hexValue? (ds : Text) : Option Nat :=
  ds.foldlM (fun n c => (hexDigit? c).map (16 * n + ·)) 0

/-- The character with a code in hexadecimal digits, of which there have to be `count`. -/
def hexChar? (count : Nat) (t : Text) : Option (Char × Text) := do
  let ds := t.take count
  if ds.length < count then none
  else
    let code ← hexValue? ds
    -- Surrogates are no characters.
    if code < 0xD800 ∨ (0xE000 ≤ code ∧ code < 0x110000) then
      some (Char.ofNat code, t.drop count)
    else none

/-- The character of an escape, after its backslash, and what follows. -/
def escape? : Text → Option (Char × Text)
  | 'b' :: t => some ('\x08', t)
  | 't' :: t => some ('\t', t)
  | 'n' :: t => some ('\n', t)
  | 'f' :: t => some ('\x0c', t)
  | 'r' :: t => some ('\r', t)
  | 'e' :: t => some ('\x1b', t)
  | '"' :: t => some ('"', t)
  | '\\' :: t => some ('\\', t)
  | 'x' :: t => hexChar? 2 t
  | 'u' :: t => hexChar? 4 t
  | 'U' :: t => hexChar? 8 t
  | _ => none

/-- A character put before the text of a string. -/
def push (c : Char) (r : Text × Text) : Text × Text := (c :: r.1, r.2)

/-- The rest of a string in double quotes, in at most a number of steps. -/
def basicFrom : Nat → Text → Option (Text × Text)
  | 0, _ => none
  | _ + 1, [] => none
  | steps + 1, c :: t =>
    if c = '"' then some ([], t)
    else if c = '\\' then do
      let (e, t) ← escape? t
      return push e (← basicFrom steps t)
    else if isPlain c then (basicFrom steps t).map (push c)
    else none

/-- The rest of a string in single quotes. -/
def literalFrom : Text → Option (Text × Text)
  | [] => none
  | c :: t =>
    if c = '\'' then some ([], t)
    else if isPlain c then (literalFrom t).map (push c)
    else none

/-- Whether a character may be skipped after a backslash at the end of a line. -/
def isLineBlank (c : Char) : Bool := c == ' ' || c == '\t'

/-- Skip blanks and line breaks, in at most a number of steps. -/
def skipBreaks : Nat → Text → Text
  | 0, t => t
  | steps + 1, t =>
    match t with
    | '\n' :: t => skipBreaks steps t
    | '\r' :: '\n' :: t => skipBreaks steps t
    | c :: t' => if isLineBlank c then skipBreaks steps t' else t
    | [] => []

/-- What follows a backslash that ends its line, after the breaks and blanks there. -/
def joinedLine? (t : Text) : Option Text :=
  let t := t.dropWhile isLineBlank
  (lineEnd? t).map fun n => skipBreaks t.length (t.drop n)

/-- The end of a string in three quotes: up to two more quotes before it belong to the string. -/
def closing? (quote : Char) (t : Text) : Option (Text × Text) :=
  let count := (t.takeWhile (· == quote)).length
  if count < 3 then none
  else
    let extra := min (count - 3) 2
    some (List.replicate extra quote, t.drop (extra + 3))

/-- The rest of a string in three quotes, in at most a number of steps. -/
def multilineFrom (quote : Char) : Nat → Text → Option (Text × Text)
  | 0, _ => none
  | steps + 1, t =>
    match closing? quote t with
    | some ending => some ending
    | none =>
      match t with
      | [] => none
      -- A carriage return is allowed as part of a line break only.
      | '\r' :: '\n' :: t =>
        (multilineFrom quote steps t).map fun r => push '\r' (push '\n' r)
      | c :: t =>
        if c = '\\' ∧ quote = '"' then
          match joinedLine? t with
          | some t => multilineFrom quote steps t
          | none => do
            let (e, t) ← escape? t
            return push e (← multilineFrom quote steps t)
        else if c = '\n' ∨ isPlain c then (multilineFrom quote steps t).map (push c)
        else none

/-- A text without a line break at its start. -/
def dropBreak (t : Text) : Text := t.drop ((lineEnd? t).getD 0)

/-- A string of one line and what follows it. -/
def lineString? : Text → Option (Text × Text)
  | '"' :: t => basicFrom (t.length + 1) t
  | '\'' :: t => literalFrom t
  | _ => none

/-- A string of any form and what follows it. -/
def string? : Text → Option (Text × Text)
  | '"' :: '"' :: '"' :: t => multilineFrom '"' (t.length + 1) (dropBreak t)
  | '\'' :: '\'' :: '\'' :: t => multilineFrom '\'' (t.length + 1) (dropBreak t)
  | t => lineString? t

end LayerView.Toml
