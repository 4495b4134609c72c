/-!
Values of a TOML document, and how its statements build tables. A table remembers what it was
written as, because that decides which later statements may add to it.
-/

set_option autoImplicit false
set_option relaxedAutoImplicit false

namespace CounterBoard.Toml

inductive Origin
  /-- A table in braces, complete as it stands. -/
  | inline
  /-- The document, or a table with a header of its own. -/
  | header
  /-- A table named only on the way to another in a header. -/
  | implied
  /-- A table named on the way to a key. -/
  | dotted
  deriving DecidableEq

/-- A value. Floats and moments stand for themselves, since nothing is asked of them but where they
stand. -/
inductive Value
  | string (text : String)
  | integer (value : Int)
  /-- A numeral that is written well enough, but from which no number can be read. -/
  | unreadable
  | float
  | boolean (value : Bool)
  | moment
  | array (items : List Value)
  | table (origin : Origin) (entries : List (String × Value))
  /-- Tables that were opened one after the other under the same header in double brackets. -/
  | tables (items : List (List (String × Value)))

/-- The keys of a table with their values, in the order of writing. -/
abbrev Entries := List (String × Value)

mutual

/-- Whether every numeral in a value can be read. -/
def Value.isReadable : Value → Bool
  | .unreadable => false
  | .array items => areReadable items
  | .table _ entries => haveReadable entries
  | .tables items => allHaveReadable items
  | _ => true

def areReadable : List Value → Bool
  | [] => true
  | value :: values => value.isReadable && areReadable values

def haveReadable : List (String × Value) → Bool
  | [] => true
  | (_, value) :: entries => value.isReadable && haveReadable entries

def allHaveReadable : List (List (String × Value)) → Bool
  | [] => true
  | entries :: items => haveReadable entries && allHaveReadable items

end

namespace Entries

def replace (entries : Entries) (key : String) (value : Value) : Entries :=
  entries.map fun e => if e.1 = key then (key, value) else e

/-- Changes the table that a path leads to. Tables that are missing on the way are made, those on
the way have to be of an admitted origin and come to be of a marked one, and of tables under one
header the last one is meant. -/
def descend (admits : Origin → Bool) (mark : Origin → Origin) (fresh : Origin)
    (change : Origin → Entries → Option Entries) :
    List String → Origin → Entries → Option Entries
  | [], origin, entries => change origin entries
  | key :: path, _, entries =>
    match entries.lookup key with
    | none => do
      let inner ← descend admits mark fresh change path fresh []
      some (entries ++ [(key, .table fresh inner)])
    | some (.table origin inner) =>
      if admits origin then do
        let inner ← descend admits mark fresh change path (mark origin) inner
        some (entries.replace key (.table (mark origin) inner))
      else none
    | some (.tables items) => do
      let inner ← descend admits mark fresh change path .header (← items.getLast?)
      some (entries.replace key (.tables (items.dropLast ++ [inner])))
    | some _ => none

/-- Adds a value under a dotted key. The tables that the key names on its way must not have headers
of their own, and count as named by dotted keys from then on. -/
def insert (path : List String) (key : String) (value : Value) (entries : Entries) :
    Option Entries :=
  let admits := fun origin => origin == .implied || origin == .dotted
  let change := fun origin (inner : Entries) =>
    if (path.isEmpty || origin == .dotted) && (inner.lookup key).isNone then
      some (inner ++ [(key, value)])
    else none
  descend admits (fun _ => .dotted) .dotted change path .header entries

def leadsOn (origin : Origin) : Bool :=
  origin != .inline

/-- Opens the table of a header, which may have been implied before but not defined. -/
def openTable (path : List String) (key : String) (entries : Entries) : Option Entries :=
  let change := fun _ (inner : Entries) =>
    match inner.lookup key with
    | none => some (inner ++ [(key, .table .header [])])
    | some (.table .implied found) => some (inner.replace key (.table .header found))
    | some _ => none
  descend leadsOn id .implied change path .header entries

def openNextTable (path : List String) (key : String) (entries : Entries) : Option Entries :=
  let change := fun _ (inner : Entries) =>
    match inner.lookup key with
    | none => some (inner ++ [(key, .tables [[]])])
    | some (.tables items) => some (inner.replace key (.tables (items ++ [[]])))
    | some _ => none
  descend leadsOn id .implied change path .header entries

def insertUnder (header path : List String) (key : String) (value : Value) (entries : Entries) :
    Option Entries :=
  descend leadsOn id .implied (fun _ inner => inner.insert path key value) header .header entries

end Entries

end CounterBoard.Toml
