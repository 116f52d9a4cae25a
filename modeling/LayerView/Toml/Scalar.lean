import LayerView.Toml.Value
import LayerView.Toml.Quoted

/-!
# Numbers, truth values and moments of a TOML document

A number has a form and, usually, a value.  The form is what the grammar asks for: underscores stand
between digits, a whole number has no needless zero before it, and one in base 16, 8 or 2 has only
digits of its base.  A form may be too large for any value, or have no digits after the mark of its
base, or go on with other characters after an underscore; such a number is `valueless`.  Dates and
times have fixed places for their digits.
-/

namespace LayerView.Toml

open LayerView.Text

/-! ## Forms of numbers -/

/-- Whether a part that an underscore follows ends as it has to.  A part of one character is not
looked at, so an underscore may follow a sign. -/
def endsGroup (p : Char → Bool) (part : Text) : Bool :=
  decide (part.length ≤ 1) || part.getLast?.any p

/-- Whether the underscores of a text stand between digits of a class.  What follows the last of
them only has to start with one. -/
def isGrouped (p : Char → Bool) (t : Text) : Bool :=
  match t.splitOn '_' with
  | [] | [_] => true
  | first :: rest =>
    !first.isEmpty && rest.all (fun part => part.head?.any p) &&
      (first :: rest).dropLast.all (endsGroup p)

/-- A text without its underscores. -/
def ungrouped (t : Text) : Text := t.filter (· != '_')

/-- Whether a character is a digit in base 16, as those of the smaller bases are too. -/
def isHexDigit (c : Char) : Bool := (hexDigit? c).isSome

/-- A run of digits and underscores with at least one digit, as its digits, and what follows it. -/
def figures? (t : Text) : Option (Text × Text) :=
  let ds := ungrouped (t.takeWhile fun c => Decimal.isDigit c || c == '_')
  if ds.isEmpty then none
  else some (ds, t.dropWhile fun c => Decimal.isDigit c || c == '_')

/-! ## Whole numbers -/

/-- The value of a whole number, within the range of 128 bits. -/
def wholeValue (n : Int) : Value :=
  if -Int.pow 2 127 ≤ n ∧ n < Int.pow 2 128 then .integer n else .valueless

/-- The base that a letter stands for. -/
def baseOf? : Char → Option Nat
  | 'x' => some 16
  | 'o' => some 8
  | 'b' => some 2
  | _ => none

/-- The value of a digit, if it is one in a base. -/
def digitIn? (base : Nat) (c : Char) : Option Nat := (hexDigit? c).filter (· < base)

/-- A whole number in a base that its mark tells. -/
def based? : Text → Option Value
  | '0' :: mark :: t => do
    let base ← baseOf? mark
    let ds := ungrouped t
    let n ← ds.foldlM (fun n c => (digitIn? base c).map (base * n + ·)) 0
    if !isGrouped isHexDigit t then none
    else if ds.isEmpty then some .valueless
    else some (wholeValue n)
  | _ => none

/-- A whole number in decimal; `t` is all of it and `body` what follows its sign. -/
def decimal? (t : Text) (negative : Bool) (body : Text) : Option Value :=
  let rest := body.dropWhile Decimal.isDigit
  -- No zero may come first, unless it is the whole number.
  if body.head? == some '0' && body != ['0'] then none
  else if body.isEmpty || !(rest.isEmpty || rest.head? == some '_') then none
  else if !isGrouped isHexDigit t then none
  else
    let ds := ungrouped body
    if ds.all Decimal.isDigit then
      some (wholeValue (if negative then -(Decimal.natOfDigits ds : Int) else Decimal.natOfDigits ds))
    else some .valueless

/-! ## Numbers with a point or an exponent -/

/-- Whether a text has a point or the mark of an exponent. -/
def isFractional (t : Text) : Bool := t.any fun c => c == '.' || c == 'e' || c == 'E'

/-- The digits after a point, and what follows them; no digits if there is no point. -/
def fraction? : Text → Option (Text × Text)
  | '.' :: t => figures? t
  | t => some ([], t)

/-- An exponent that is the whole text; no text is the exponent zero. -/
def exponent? : Text → Option Int
  | [] => some 0
  | mark :: t => do
    let (negative, body) := Decimal.readSign t
    let (ds, rest) ← figures? body
    if (mark = 'e' ∨ mark = 'E') ∧ rest = [] then
      some (if negative then -(Decimal.natOfDigits ds : Int) else Decimal.natOfDigits ds)
    else none

/-- The value of a number that is rounded to a binary one; those too large for that have none. -/
def floatValue (x : Decimal.Literal) : Value :=
  match x.round with
  | .infinite _ => .valueless
  | _ => .float x

/-- A number with a point or an exponent; `t` is all of it and `body` what follows its sign. -/
def fractional? (t : Text) (negative : Bool) (body : Text) : Option Value := do
  let (whole, rest) ← figures? body
  let (part, rest) ← fraction? rest
  let e ← exponent? rest
  if body.head? == some '0' && decide (1 < whole.length) then none
  else if !isGrouped Decimal.isDigit t then none
  else
    some (floatValue
      (.finite negative (Decimal.natOfDigits (whole ++ part)) (e - part.length)))

/-- A number of any form. -/
def number? (t : Text) : Option Value :=
  match based? t with
  | some v => some v
  | none =>
    -- A number with the mark of a base has no sign.
    let (negative, body) := Decimal.readSign t
    if body = "inf".toList then some (.float (.infinite negative))
    else if body = "nan".toList then some (.float .undefined)
    else if isFractional body then fractional? t negative body
    else decimal? t negative body

/-! ## Moments -/

/-- A number of `count` digits and what follows it. -/
def fixed? (count : Nat) (t : Text) : Option (Nat × Text) :=
  let ds := t.take count
  if ds.length = count ∧ ds.all Decimal.isDigit then some (Decimal.natOfDigits ds, t.drop count)
  else none

/-- The number of days of a month. -/
def daysOf (year month : Nat) : Nat :=
  if month = 2 then
    if year % 4 = 0 ∧ (year % 100 ≠ 0 ∨ year % 400 = 0) then 29 else 28
  else if month = 4 ∨ month = 6 ∨ month = 9 ∨ month = 11 then 30
  else 31

/-- What follows a date at the start of a text. -/
def afterDate? (t : Text) : Option Text := do
  let (year, t) ← fixed? 4 t
  let (month, t) ← fixed? 2 (← skip? ['-'] t)
  let (day, t) ← fixed? 2 (← skip? ['-'] t)
  if 1 ≤ month ∧ month ≤ 12 ∧ 1 ≤ day ∧ day ≤ daysOf year month then some t else none

/-- What follows the part of a second, if there is one, at the start of a text. -/
def afterFraction? : Text → Option Text
  | '.' :: t => (run? Decimal.isDigit t).map (·.2)
  | t => some t

/-- What follows the seconds of a time, if it has them, at the start of a text. -/
def afterSeconds? : Text → Option Text
  | ':' :: t => do
    let (second, t) ← fixed? 2 t
    -- A leap second counts.
    if second ≤ 60 then afterFraction? t else none
  | t => some t

/-- What follows a time at the start of a text. -/
def afterTime? (t : Text) : Option Text := do
  let (hour, t) ← fixed? 2 t
  let (minute, t) ← fixed? 2 (← skip? [':'] t)
  if hour ≤ 23 ∧ minute ≤ 59 then afterSeconds? t else none

/-- Whether a text is nothing or the distance of a time from universal time. -/
def isOffset (t : Text) : Bool :=
  match t with
  | [] | ['Z'] | ['z'] => true
  | c :: t =>
    (c == '+' || c == '-') &&
      (match (do
          let (hour, t) ← fixed? 2 t
          let (minute, t) ← fixed? 2 (← skip? [':'] t)
          return (hour, minute, t) : Option (Nat × Nat × Text)) with
        | some (hour, minute, []) => decide (hour ≤ 23) && decide (minute ≤ 59)
        | _ => false)

/-- Whether a text is a date, a time, or both. -/
def isMoment (t : Text) : Bool :=
  match afterDate? t with
  | some [] => true
  | some (c :: rest) =>
    (c == 'T' || c == 't' || c == ' ') &&
      (match afterTime? rest with
        | some offset => isOffset offset
        | none => false)
  | none => afterTime? t == some []

/-! ## Any of them -/

/-- The value that a run of characters denotes. -/
def scalar? (t : Text) : Option Value :=
  if t = "true".toList then some (.boolean true)
  else if t = "false".toList then some (.boolean false)
  else if isMoment t then some .moment
  else number? t

end LayerView.Toml
