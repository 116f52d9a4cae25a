import LayerView.Text.Basic

/-!
# JSON with indentation

Values are written over several lines, each level two blanks further in.  An empty list stays on its
line.  In strings only quotes, backslashes and control characters are escaped.
-/

namespace LayerView

/-- A JSON value of the kinds that reports are made of. -/
inductive Json where
  | string (t : Text)
  | array (items : List Json)
  | object (entries : List (String × Json))
deriving Repr

namespace Json

/-- A hexadecimal digit. -/
def hexDigit (n : Nat) : Char := Nat.digitChar n

/-- A character in a string. -/
def escaped (c : Char) : Text :=
  if c = '"' then "\\\"".toList
  else if c = '\\' then "\\\\".toList
  else if c = '\n' then "\\n".toList
  else if c = '\r' then "\\r".toList
  else if c = '\t' then "\\t".toList
  else if c = '\x08' then "\\b".toList
  else if c = '\x0c' then "\\f".toList
  -- The controls that have no letter of their own.
  else if c.toNat < 0x20 then "\\u00".toList ++ [hexDigit (c.toNat / 16), hexDigit (c.toNat % 16)]
  else [c]

/-- A string in quotes. -/
def quoted (t : Text) : Text := ['"'] ++ t.flatMap escaped ++ ['"']

/-- A line break and the indentation of a level. -/
def newLine (level : Nat) : Text := '\n' :: List.replicate (2 * level) ' '

mutual

/-- The text of a value that stands at a level. -/
def render (level : Nat) : Json → Text
  | .string t => quoted t
  | .array [] => "[]".toList
  | .array (v :: vs) =>
    ['['] ++ newLine (level + 1) ++ render (level + 1) v ++ renderItems (level + 1) vs ++
      newLine level ++ [']']
  | .object [] => "\x7b\x7d".toList
  | .object (e :: es) =>
    ['{'] ++ newLine (level + 1) ++ renderEntry (level + 1) e ++ renderEntries (level + 1) es ++
      newLine level ++ ['}']

/-- The items of an array after the first. -/
def renderItems (level : Nat) : List Json → Text
  | [] => []
  | v :: vs => [','] ++ newLine level ++ render level v ++ renderItems level vs

/-- An entry of an object. -/
def renderEntry (level : Nat) : String × Json → Text
  | (key, v) => quoted key.toList ++ ": ".toList ++ render level v

/-- The entries of an object after the first. -/
def renderEntries (level : Nat) : List (String × Json) → Text
  | [] => []
  | e :: es => [','] ++ newLine level ++ renderEntry level e ++ renderEntries level es

end

/-- The text of a value. -/
def pretty (v : Json) : Text := render 0 v

end Json

end LayerView
