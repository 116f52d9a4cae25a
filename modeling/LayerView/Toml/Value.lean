import LayerView.Decimal.Nearest

/-!
# Values of a TOML document

A document is a table of values.  Tables remember how they came about, because that decides whether
later lines may add to them: a table under a header of its own, a table that a longer header implies,
a table that a dotted key makes, or one written inline.  An array remembers whether it was made by
headers in double brackets.
-/

namespace LayerView.Toml

/-- How a table came about. -/
inductive Origin where
  | header
  | implied
  | dotted
  | inline
deriving DecidableEq, Repr

/-- A value of a document. -/
inductive Value where
  | string (t : Text)
  | integer (n : Int)
  | float (x : Decimal.Literal)
  /-- A number of a correct form that no value belongs to. -/
  | valueless
  | boolean (b : Bool)
  /-- A date, a time, or both. -/
  | moment
  | array (byHeaders : Bool) (items : List Value)
  | table (origin : Origin) (entries : List (Text × Value))
deriving Repr

namespace Value

mutual

/-- Whether every number in a value has a value. -/
def isReadable : Value → Bool
  | .valueless => false
  | .array _ items => areReadable items
  | .table _ entries => haveReadable entries
  | _ => true

/-- Whether all items are readable. -/
def areReadable : List Value → Bool
  | [] => true
  | v :: vs => isReadable v && areReadable vs

/-- Whether the values of all entries are readable. -/
def haveReadable : List (Text × Value) → Bool
  | [] => true
  | (_, v) :: es => isReadable v && haveReadable es

end

end Value

/-- The entries of a table, in the order in which they came. -/
abbrev Entries := List (Text × Value)

namespace Entries

/-- Change the value of a key, or give one to a key that has none, if the change allows it. -/
def alter (key : Text) (change : Option Value → Option Value) : Entries → Option Entries
  | [] => (change none).map fun v => [(key, v)]
  | (k, v) :: rest =>
    if k = key then (change (some v)).map fun v' => (k, v') :: rest
    else (alter key change rest).map ((k, v) :: ·)

/-- Change the last table of an array that headers made. -/
def alterLast (change : Entries → Option Entries) : List Value → Option (List Value)
  | [] => none
  | [.table origin entries] => (change entries).map fun entries' => [.table origin entries']
  | [_] => none
  | v :: w :: rest => (alterLast change (w :: rest)).map (v :: ·)

/-- Change the table that a header's path leads to.  Tables on the way that are missing are implied;
an array made by headers stands for its last table; inline tables are closed. -/
def alterUnder (change : Entries → Option Entries) : List Text → Entries → Option Entries
  | [], entries => change entries
  | key :: path, entries =>
    alter key
      (fun
        | none => (alterUnder change path []).map (.table .implied ·)
        | some (.table .inline _) => none
        | some (.table origin sub) => (alterUnder change path sub).map (.table origin ·)
        | some (.array true items) =>
          (alterLast (alterUnder change path) items).map (.array true ·)
        | some _ => none)
      entries

/-- Give a value to a key that has none. -/
def add (key : Text) (v : Value) : Entries → Option Entries :=
  alter key fun
    | none => some v
    | some _ => none

/-- Give a value to a key below a dotted path, in the table that the path has led to so far; `made`
tells whether dotted keys made that table.  Only such a table may be added to through a path. -/
def addDottedFrom (made : Bool) (v : Value) (key : Text) : List Text → Entries → Option Entries
  | [], entries => if made then add key v entries else none
  | k :: path, entries =>
    alter k
      (fun
        | none => (addDottedFrom true v key path []).map (.table .dotted ·)
        | some (.table .dotted sub) => (addDottedFrom true v key path sub).map (.table .dotted ·)
        -- A longer header implies this table: a path may lead through it but not end in it.
        | some (.table .implied sub) => (addDottedFrom false v key path sub).map (.table .implied ·)
        | some (.array true items) =>
          (alterLast (addDottedFrom false v key path) items).map (.array true ·)
        | some _ => none)
      entries

/-- Give a value to a key, which may stand below a dotted path. -/
def addDotted (v : Value) (key : Text) (path : List Text) (entries : Entries) : Option Entries :=
  match path with
  | [] => add key v entries
  | _ => addDottedFrom false v key path entries

/-- Open the table of a header.  A table can be opened once, and not after dotted keys made it. -/
def openTable (path : List Text) (key : Text) : Entries → Option Entries :=
  alterUnder
    (alter key fun
      | none => some (.table .header [])
      | some (.table .implied sub) => some (.table .header sub)
      | some _ => none)
    path

/-- Open one more table of an array of tables. -/
def openItem (path : List Text) (key : Text) : Entries → Option Entries :=
  alterUnder
    (alter key fun
      | none => some (.array true [.table .header []])
      | some (.array true items) => some (.array true (items ++ [.table .header []]))
      | some _ => none)
    path

end Entries

end LayerView.Toml
