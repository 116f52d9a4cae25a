import LayerView.Text.Basic
import LayerView.Text.Letter

/-!
# Texts with variables

The path of a log file may refer to environment variables.  `$NAME` and `${NAME}` stand for the value
of a variable, `${NAME:-other}` for its value or, if it is not set, for `other`.  A double dollar is
a dollar; a dollar that starts no reference stays.  Values are not looked at again.
-/

namespace LayerView

open LayerView.Text

/-- A piece of a template. -/
inductive Segment where
  | literal (t : Text)
  | reference (name : Text) (fallback? : Option Text)
deriving DecidableEq, Repr

namespace Template

/-- Whether a character may be part of a name that stands without braces. -/
def isNameChar (c : Char) : Bool := isAlphanumeric c || c == '_'

/-- The reference inside a pair of braces.  The mark of a fallback has to follow a name. -/
def braced (inside : Text) : Segment :=
  match breakOn? ":-".toList inside with
  | some (c :: name, fallback) => .reference (c :: name) (some fallback)
  | _ => .reference inside none

/-- The piece that starts with a dollar, whose following text is given, and what comes after it. -/
def afterDollar : Text → Segment × Text
  | '{' :: t =>
    match breakOn? ['}'] t with
    | some (inside, rest) => (braced inside, rest)
    -- A brace that is not closed is text.
    | none => (.literal ['$', '{'], t)
  | '$' :: t => (.literal ['$'], t)
  | t =>
    let name := t.takeWhile isNameChar
    if name.isEmpty then (.literal ['$'], t) else (.reference name none, t.dropWhile isNameChar)

/-- The pieces of a text, at most a number of them. -/
def segmentsIn : Nat → Text → List Segment
  | 0, _ => []
  | count + 1, t =>
    match breakOn? ['$'] t with
    | none => [.literal t]
    | some (before, after) =>
      let (segment, rest) := afterDollar after
      .literal before :: segment :: segmentsIn count rest

/-- The pieces of a text. -/
def segments (t : Text) : List Segment := segmentsIn (t.length + 1) t

/-- A text starting with the mark of the home directory, alone or before a slash, with that directory
in its place. -/
def expandHome (home? : Option Text) (t : Text) : Text :=
  match t, home? with
  | '~' :: rest, some home =>
    if rest.isEmpty || rest.head? == some '/' then home ++ rest else t
  | _, _ => t

/-- Put the values of its pieces together, none of which may be missing. -/
def assemble (values : List (Option Text)) : Option Text :=
  (values.mapM id).map List.flatten

/-- Fill a template in.  Its home mark counts only where the template itself starts with it. -/
def fill (template : Text) (values : List (Option Text)) (home? : Option Text) : Option Text := do
  let filled ← assemble values
  return if template.head? == some '~' then expandHome home? filled else filled

end Template

end LayerView
