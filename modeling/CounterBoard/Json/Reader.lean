import CounterBoard.Json.Skip
import CounterBoard.Text.Precision

/-!
Reading JSON straight into domain values, from left to right, so that of two faults in a text the
earlier one is reported. An object is a set of named fields in any order, or an array of
their values in the order of declaration; other names in it are skipped.
-/

set_option autoImplicit false
set_option relaxedAutoImplicit false

namespace CounterBoard.Json

open CounterBoard.Text

def codeUnit? (a b c d : Char) : Option Nat :=
  hexNumber? [a, b, c, d]

def isHighSurrogate (n : Nat) : Bool :=
  0xD800 ≤ n && n < 0xDC00

def isLowSurrogate (n : Nat) : Bool :=
  0xDC00 ≤ n && n < 0xE000

def pairChar (high low : Nat) : Char :=
  Char.ofNat (0x10000 + (high - 0xD800) * 0x400 + (low - 0xDC00))

/-- Reads the characters of a string up to its closing quote. A surrogate has to be one of a
pair, and control characters have to be escaped. -/
def characters (read : List Char) : Reader (List Char)
  | some '"' :: t => .ok (read.reverse, t)
  | some '\\' :: some 'u' :: some a :: some b :: some c :: some d :: t =>
    match codeUnit? a b c d with
    | none => .error .malformed
    | some unit =>
      if isLowSurrogate unit then .error .malformed
      else if isHighSurrogate unit then
        match t with
        | some '\\' :: some 'u' :: some e :: some f :: some g :: some h :: t =>
          match codeUnit? e f g h with
          | some low =>
            if isLowSurrogate low then characters (pairChar unit low :: read) t
            else .error .malformed
          | none => .error .malformed
        | _ => .error .malformed
      else characters (Char.ofNat unit :: read) t
  | some '\\' :: some e :: t =>
    match plainEscape? e with
    | some c => characters (c :: read) t
    | none => .error .malformed
  | some c :: t =>
    if c = '\\' ∨ c.toNat < 0x20 then .error .malformed else characters (c :: read) t
  | _ => .error .malformed

structure Numeral where
  negative : Bool
  whole : List Char
  decimals : List Char
  exponent : Option Int
  deriving DecidableEq

namespace Numeral

/-- The count that a numeral writes, if it is written without sign, point and exponent and fits
sixty-four bits. -/
def count? (n : Numeral) : Option UInt64 :=
  if n.negative ∨ n.decimals ≠ [] ∨ n.exponent ≠ none then none
  else
    let value := number n.whole
    if value < UInt64.size then some (UInt64.ofNat value) else none

/-- The number that digits behind a number make of it, as long as it fits sixty-four bits, and the
digits left over. -/
def extend (n : Nat) : List Char → Nat × List Char
  | [] => (n, [])
  | c :: ds =>
    let longer := 10 * n + digitValue c
    if longer < UInt64.size then extend longer ds else (n, c :: ds)

/-- Whether the magnitude of a numeral lies beyond double precision. It is taken for the product of
the digits that fit sixty-four bits and a power of ten; the digits left over count as places. -/
def isHuge (n : Numeral) : Bool :=
  let (whole, left) := extend 0 n.whole
  let (kept, ignored) := extend whole n.decimals
  let places : Int := left.length + ignored.length - n.decimals.length
  productExceedsDouble kept (n.exponent.getD 0 + places)

end Numeral

def splitDigits : Input → List Char × Input
  | some c :: t =>
    if c.isDigit then
      let (ds, rest) := splitDigits t
      (c :: ds, rest)
    else ([], some c :: t)
  | t => ([], t)

/-- Reads the digits before the point; a leading zero stands alone. -/
def wholeDigits (t : Input) : Except Refusal (List Char × Input) :=
  match splitDigits t with
  | ([], _) => .error .malformed
  | ('0' :: _ :: _, _) => .error .malformed
  | (ds, rest) => .ok (ds, rest)

def decimalDigits : Input → Except Refusal (List Char × Input)
  | some '.' :: t =>
    match splitDigits t with
    | ([], _) => .error .malformed
    | (ds, rest) => .ok (ds, rest)
  | t => .ok ([], t)

def exponentDigits (sign : Int) (t : Input) : Except Refusal (Option Int × Input) :=
  match splitDigits t with
  | ([], _) => .error .malformed
  | (ds, rest) => .ok (some (sign * number ds), rest)

def exponent : Input → Except Refusal (Option Int × Input)
  | some e :: t =>
    if e = 'e' ∨ e = 'E' then
      match t with
      | some '-' :: t => exponentDigits (-1) t
      | some '+' :: t => exponentDigits 1 t
      | t => exponentDigits 1 t
    else .ok (none, some e :: t)
  | t => .ok (none, t)

def unsigned (negative : Bool) (t : Input) : Except Refusal (Numeral × Input) := do
  let (whole, t) ← wholeDigits t
  let (decimals, t) ← decimalDigits t
  let (exponent, t) ← exponent t
  .ok (⟨negative, whole, decimals, exponent⟩, t)

def numeral : Reader Numeral
  | some '-' :: t => unsigned true t
  | t => unsigned false t

def startsNumber (c : Char) : Bool :=
  c == '-' || c.isDigit

/-- A value that was read to its end is of the wrong kind; one that was not is no JSON. -/
def wrongKind {α : Type} : Except Refusal α → Refusal
  | .ok _ => .mismatch
  | .error refusal => refusal

/-- Why an input whose value is of the wrong kind is refused: a scalar is read to its end before its
kind is complained of, and a number beyond double precision is no JSON. -/
def unexpected : Input → Refusal
  | some '"' :: t => wrongKind (characters [] t)
  | some '[' :: _ => .mismatch
  | some '\x7b' :: _ => .mismatch
  | some 'n' :: t => wrongKind (word ['u', 'l', 'l'] t)
  | some 't' :: t => wrongKind (word ['r', 'u', 'e'] t)
  | some 'f' :: t => wrongKind (word ['a', 'l', 's', 'e'] t)
  | some c :: t =>
    if startsNumber c then
      match numeral (some c :: t) with
      | .ok (n, _) => if n.isHuge then .malformed else .mismatch
      | .error refusal => refusal
    else .malformed
  | _ => .malformed

def string : Reader String := fun t =>
  match blanks t with
  | some '"' :: t => do
    let (cs, t) ← characters [] t
    .ok (String.ofList cs, t)
  | t => .error (unexpected t)

/-- Reads a count: a plain numeral that fits sixty-four bits. -/
def count : Reader UInt64 := fun t =>
  match blanks t with
  | some c :: t =>
    if startsNumber c then do
      let (n, t) ← numeral (some c :: t)
      match n.count? with
      | some value => .ok (value, t)
      | none => .error .mismatch
    else .error (unexpected (some c :: t))
  | t => .error (unexpected t)

def nullable {α : Type} (read : Reader α) : Reader (Option α) := fun t =>
  match blanks t with
  | some 'n' :: t => do
    let t ← word ['u', 'l', 'l'] t
    .ok (none, t)
  | t => do
    let (value, t) ← read t
    .ok (some value, t)

/-- Reads what stands between the items of an array, and tells whether another item follows. -/
def nextItem (isFirst : Bool) (t : Input) : Except Refusal (Bool × Input) :=
  match blanks t with
  | some ']' :: t => .ok (false, some ']' :: t)
  | t =>
    if isFirst then .ok (true, t)
    else match t with
      | some ',' :: t =>
        match blanks t with
        | some ']' :: _ => .error .malformed
        | [] => .error .malformed
        | t => .ok (true, t)
      | _ => .error .malformed

def closeArray (t : Input) : Except Refusal Input :=
  word [']'] (blanks t)

/-- Reads the items of an array; an input has fewer items than symbols. -/
def items {α : Type} (read : Reader α) : Nat → Bool → Reader (List α)
  | 0, _, _ => .error .malformed
  | fuel + 1, isFirst, t => do
    let (more, t) ← nextItem isFirst t
    if more then
      let (value, t) ← read t
      let (values, t) ← items read fuel false t
      .ok (value :: values, t)
    else
      let t ← closeArray t
      .ok ([], t)

def array {α : Type} (read : Reader α) : Reader (List α) := fun t =>
  match blanks t with
  | some '[' :: t => items read (t.length + 1) true t
  | t => .error (unexpected t)

/-- A field of an object that is read into a draft: its name, whether the draft has it already,
and reading its value. -/
structure FieldReader (δ : Type) where
  name : String
  isGiven : δ → Bool
  read : δ → Reader δ

def FieldReader.kept {α δ : Type} (name : String) (get : δ → Option α) (set : δ → α → δ)
    (read : Reader α) : FieldReader δ where
  name := name
  isGiven draft := (get draft).isSome
  read draft t := do
    let (value, t) ← read t
    .ok (set draft value, t)

def colon (t : Input) : Except Refusal Input :=
  word [':'] (blanks t)

/-- Reads one named value into a draft. A name that was given before is refused before its value
is read. -/
def member {δ : Type} (fields : List (FieldReader δ)) (draft : δ) (t : Input) :
    Except Refusal (δ × Input) := do
  let t ← word ['"'] (blanks t)
  let (name, t) ← characters [] t
  match fields.find? fun f => f.name = String.ofList name with
  | some field =>
    if field.isGiven draft then .error .mismatch
    else
      let t ← colon t
      field.read draft t
  | none =>
    let t ← colon t
    let t ← skip t
    .ok (draft, t)

/-- Reads the members of an object up to its end; an input has fewer members than symbols. -/
def members {δ : Type} (fields : List (FieldReader δ)) : Nat → Bool → δ → Reader δ
  | 0, _, _, _ => .error .malformed
  | fuel + 1, isFirst, draft, t =>
    match blanks t with
    | some '\x7d' :: t => .ok (draft, t)
    | t => do
      let t ← if isFirst then .ok t else word [','] t
      let (draft, t) ← member fields draft t
      members fields fuel false draft t

/-- Reads the values of all fields, in the order of declaration, as the items of an array. -/
def columns {δ : Type} : List (FieldReader δ) → Bool → δ → Reader δ
  | [], _, draft, t => do
    let t ← closeArray t
    .ok (draft, t)
  | field :: fields, isFirst, draft, t => do
    let (more, t) ← nextItem isFirst t
    if more then
      let (draft, t) ← field.read draft t
      columns fields false draft t
    else .error .mismatch

def object {α δ : Type} (empty : δ) (fields : List (FieldReader δ)) (complete? : δ → Option α) :
    Reader α := fun t => do
  let (draft, t) ← match blanks t with
    | some '\x7b' :: t => members fields (t.length + 1) true empty t
    | some '[' :: t => columns fields true empty t
    | t => .error (unexpected t)
  match complete? draft with
  | some value => .ok (value, t)
  | none => .error .mismatch

def named {α : Type} (choices : List (String × α)) (name : String) : Except Refusal α :=
  match choices.lookup name with
  | some value => .ok value
  | none => .error .mismatch

/-- Reads one of a list of names, alone or as the only name of an object with the value null. -/
def choice {α : Type} (choices : List (String × α)) : Reader α := fun t =>
  match blanks t with
  | some '\x7b' :: t => do
    let (name, t) ← string t
    let value ← named choices name
    let t ← colon t
    let t ← word ['n', 'u', 'l', 'l'] (blanks t)
    let t ← word ['\x7d'] (blanks t)
    .ok (value, t)
  | some '"' :: t => do
    let (name, t) ← string (some '"' :: t)
    let value ← named choices name
    .ok (value, t)
  | _ => .error .malformed

/-- Reads a whole text: one value, with blanks around it. -/
def whole {α : Type} (read : Reader α) (t : Input) : Except Refusal α := do
  let (value, t) ← read t
  if (blanks t).isEmpty then .ok value else .error .malformed

def decode {α : Type} (read : Reader α) (s : String) : Except Refusal α :=
  whole read (.ofString s)

end CounterBoard.Json
