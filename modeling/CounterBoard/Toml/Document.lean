import CounterBoard.Toml.Scalar

/-!
Reading a TOML document: keys, arrays and tables in braces, and the statements that add keys or
open tables. A document is read as a whole or not at all.
-/

set_option autoImplicit false
set_option relaxedAutoImplicit false

namespace CounterBoard.Toml

open CounterBoard.Text

def lineBreak? : List Char → Option (List Char)
  | '\n' :: t => some t
  | '\r' :: '\n' :: t => some t
  | _ => none

def comment? : List Char → Option (List Char)
  | [] => some []
  | '\n' :: t => some ('\n' :: t)
  | '\r' :: '\n' :: t => some ('\r' :: '\n' :: t)
  | c :: t => if isControl c then none else comment? t

/-- Passes over blanks, line breaks and comments; `inComment` tells where the text starts. -/
def spread? (inComment : Bool) : List Char → Option (List Char)
  | [] => some []
  | '\n' :: t => spread? false t
  | '\r' :: '\n' :: t => spread? false t
  | c :: t =>
    if inComment then if isControl c then none else spread? true t
    else if isGap c then spread? false t
    else if c = '#' then spread? true t
    else some (c :: t)

def lineEnd? (t : List Char) : Option (List Char) := do
  let t ← match dropGap t with
    | '#' :: t => comment? t
    | t => some t
  match t with
  | [] => some []
  | t => lineBreak? t

def isKeyChar (c : Char) : Bool :=
  c.isAlphanum || c == '_' || c == '-'

def keyPart? (t : List Char) : Option (String × List Char) :=
  match t with
  | '"' :: '"' :: '"' :: _ => none
  | '\'' :: '\'' :: '\'' :: _ => none
  | '"' :: _ => string? t
  | '\'' :: _ => string? t
  | _ =>
    let part := t.takeWhile isKeyChar
    if part.isEmpty then none else some (String.ofList part, t.drop part.length)

/-- Reads the parts of a key, which dots join; a key has fewer parts than characters. -/
def keyParts? : Nat → List Char → Option (List String × List Char)
  | 0, _ => none
  | fuel + 1, t => do
    let (part, t) ← keyPart? (dropGap t)
    match dropGap t with
    | '.' :: t => do
      let (parts, t) ← keyParts? fuel t
      some (part :: parts, t)
    | t => some ([part], t)

/-- How deeply arrays and tables in braces may be nested, and how far a key may lead. -/
def deepest : Nat := 80

def key? (t : List Char) : Option (List String × String × List Char) := do
  let (parts, t) ← keyParts? (t.length + 1) t
  guard (parts.length ≤ deepest)
  some (parts.dropLast, ← parts.getLast?, t)

def mark? (c : Char) (t : List Char) : Option (List Char) :=
  expect? c (dropGap t)

mutual

def value? : Nat → Nat → List Char → Option (Value × List Char)
  | 0, _, _ => none
  | fuel + 1, depth, t =>
    match t with
    | '[' :: t => do
      guard (depth < deepest)
      let (items, t) ← items? fuel (depth + 1) t
      some (.array items, t)
    | '\x7b' :: t => do
      guard (depth < deepest)
      let (entries, t) ← entries? fuel (depth + 1) [] t
      some (.table .inline entries, t)
    | '"' :: _ => (string? t).map fun (s, t) => (.string s, t)
    | '\'' :: _ => (string? t).map fun (s, t) => (.string s, t)
    | _ => bareScalar? t

def items? : Nat → Nat → List Char → Option (List Value × List Char)
  | 0, _, _ => none
  | fuel + 1, depth, t => do
    match ← spread? false t with
    | ']' :: t => some ([], t)
    | t => do
      let (value, t) ← value? fuel depth t
      match ← spread? false t with
      | ']' :: t => some ([value], t)
      | ',' :: t => do
        let (values, t) ← items? fuel depth t
        some (value :: values, t)
      | _ => none

/-- Reads the entries of a table in braces up to its end, after those already read. Line breaks and
comments may stand on both sides of the equals sign, but not within a key. -/
def entries? : Nat → Nat → Entries → List Char → Option (Entries × List Char)
  | 0, _, _, _ => none
  | fuel + 1, depth, entries, t => do
    match ← spread? false t with
    | '\x7d' :: t => some (entries, t)
    | t => do
      let (path, key, t) ← key? t
      let t ← expect? '=' (← spread? false t)
      let (value, t) ← value? fuel depth (← spread? false t)
      let entries ← entries.insert path key value
      match ← spread? false t with
      | '\x7d' :: t => some (entries, t)
      | ',' :: t => entries? fuel depth entries t
      | _ => none

end

/-- A document as far as it was read: its entries, and the header of the table that is open. -/
structure Document where
  entries : Entries
  header : List String

namespace Document

def empty : Document :=
  ⟨[], []⟩

def nextTable? (doc : Document) (t : List Char) : Option (Document × List Char) := do
  let (path, key, t) ← key? t
  let t ← mark? ']' t
  let t ← expect? ']' t
  some (⟨← doc.entries.openNextTable path key, path ++ [key]⟩, t)

def table? (doc : Document) (t : List Char) : Option (Document × List Char) := do
  let (path, key, t) ← key? t
  let t ← mark? ']' t
  some (⟨← doc.entries.openTable path key, path ++ [key]⟩, t)

/-- Reads a key and its value. No value takes more steps than twice the characters of the text. -/
def entry? (doc : Document) (t : List Char) : Option (Document × List Char) := do
  let (path, key, t) ← key? t
  let t ← mark? '=' t
  let t := dropGap t
  let (value, t) ← value? (2 * t.length + 1) 0 t
  some ({ doc with entries := ← doc.entries.insertUnder doc.header path key value }, t)

def statement? (doc : Document) : List Char → Option (Document × List Char)
  | '[' :: '[' :: t => doc.nextTable? t
  | '[' :: t => doc.table? t
  | t => doc.entry? t

/-- Reads statements to the end of the text; a text has fewer statements than characters. -/
def statements? : Nat → Document → List Char → Option Document
  | 0, _, _ => none
  | fuel + 1, doc, t => do
    match ← spread? false t with
    | [] => some doc
    | t => do
      let (doc, t) ← doc.statement? t
      let t ← lineEnd? t
      statements? fuel doc t

/-- A text without the mark of byte order it may start with. -/
def dropMark : List Char → List Char
  | '\ufeff' :: t => t
  | t => t

def parse? (text : String) : Option Entries :=
  let t := dropMark text.toList
  (statements? (t.length + 1) empty t).map Document.entries

end Document

end CounterBoard.Toml
