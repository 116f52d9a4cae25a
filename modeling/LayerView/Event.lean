import LayerView.Dialect

/-!
# Events

What a conversion has to say about its progress, as values.  Each event has a level, a message and
named details; the text of an event is a single line.
-/

namespace LayerView

/-- How important an event is, most important first. -/
inductive Level where
  | error
  | warn
  | info
  | debug
  | trace
deriving DecidableEq, Repr

namespace Level

/-- The place of a level, counted from the most important one. -/
def rank : Level → Nat
  | .error => 1
  | .warn => 2
  | .info => 3
  | .debug => 4
  | .trace => 5

/-- The word that starts the line of an event. -/
def word : Level → Text
  | .error => "ERROR".toList
  | .warn => "WARN".toList
  | .info => "INFO".toList
  | .debug => "DEBUG".toList
  | .trace => "TRACE".toList

end Level

/-- Things that happen during a run. -/
inductive Event where
  | converting (input : Text) (dialect : Dialect) (baseType : Text)
  | colorFound (name color : Text)
  | frameAssigned (name : Text)
  | textFound (name text : Text)
  | drawCallFound (line : Text)
  | fontFound (name expression : Text)
  | literalsFound (colors frames texts fonts : Nat)
  | nameRepeated (name : Text)
  | declaring (count : Nat)
  | drawEntryAdded (function : Text)
  | pairColorsFound (count : Nat) (className : Text)
  | drawCallMissing (className : Text)
  | implementationMissing
  | dialectUnsupported (dialect : Dialect)
  | swiftConverted (declarations : Nat)
  | pairConverted (declarations : Nat)
deriving DecidableEq, Repr

namespace Event

/-- The level of an event. -/
def level : Event → Level
  | .implementationMissing | .dialectUnsupported _ => .error
  | .nameRepeated _ | .drawCallMissing _ => .warn
  | .swiftConverted _ | .pairConverted _ => .info
  | _ => .debug

/-- The message of an event, without its details. -/
def message : Event → Text
  | .converting .. => "transpiling".toList
  | .colorFound .. => "extracted color".toList
  | .frameAssigned _ => "inserted frame assignment".toList
  | .textFound .. => "extracted text".toList
  | .drawCallFound _ => "correlated text draw call".toList
  | .fontFound .. => "extracted font".toList
  | .literalsFound .. => "extraction finished".toList
  | .nameRepeated name =>
    "duplicate variable named ".toList ++ name ++ ". Consider renaming your source files.".toList
  | .declaring _ => "inserting declarations".toList
  | .drawEntryAdded _ => "inserting draw entry point".toList
  | .pairColorsFound .. => "extracted legacy colors".toList
  | .drawCallMissing _ => "no generated draw call found; skipping drawRect:".toList
  | .implementationMissing => "no @implementation found in implementation file".toList
  | .dialectUnsupported _ => "unsupported source type".toList
  | .swiftConverted _ => "transpiled swift source".toList
  | .pairConverted _ => "transpiled objective-c pair".toList

/-- A number in decimal. -/
def count (n : Nat) : Text := Nat.toDigits 10 n

/-- A word in double quotes. -/
def quoted (t : Text) : Text := '"' :: t ++ ['"']

/-- The details of an event, in the order in which they are shown. -/
def details : Event → List (String × Text)
  | .converting input dialect baseType =>
    [("input", input), ("dialect", quoted dialect.word), ("base_type", baseType)]
  | .colorFound name color => [("name", name), ("color", color)]
  | .frameAssigned name => [("name", name)]
  | .textFound name text => [("name", name), ("text", text)]
  | .drawCallFound line => [("line", line)]
  | .fontFound name expression => [("name", name), ("font", expression)]
  | .literalsFound colors frames texts fonts =>
    [("colors", count colors), ("frames", count frames), ("texts", count texts),
     ("fonts", count fonts)]
  | .declaring n => [("count", count n)]
  | .drawEntryAdded function => [("function", function)]
  | .pairColorsFound n className => [("count", count n), ("class", className)]
  | .drawCallMissing className => [("class", className)]
  | .dialectUnsupported dialect => [("dialect", quoted dialect.word)]
  | .swiftConverted n => [("declarations", count n)]
  | .pairConverted n => [("declarations", count n)]
  | .nameRepeated _ | .implementationMissing => []

/-- Terminal controls: escape, bell, backspace, form feed, delete, and the controls above ASCII. -/
def isControl (c : Char) : Bool :=
  c.toNat ∈ [0x1b, 0x07, 0x08, 0x0c, 0x7f] || (0x80 ≤ c.toNat && c.toNat ≤ 0x9f)

/-- A character as a message shows it: a terminal control is spelled by its code, so that a name
taken from a drawing cannot steer the terminal. -/
def shown (c : Char) : Text :=
  if !isControl c then [c]
  else
    let digits := Nat.toDigits 16 c.toNat
    if c.toNat < 0x80 then "\\x".toList ++ List.replicate (2 - digits.length) '0' ++ digits
    else "\\u\x7b".toList ++ digits ++ "\x7d".toList

/-- The line of an event: its level, its message and its details.  Details are shown as they are. -/
def line (e : Event) : Text :=
  e.level.word ++ " ".toList ++ e.message.flatMap shown ++
    e.details.flatMap fun (key, value) => ' ' :: key.toList ++ '=' :: value

end Event

end LayerView
