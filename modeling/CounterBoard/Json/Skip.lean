import CounterBoard.Json.Input

/-!
Passing over a JSON value that nobody asked for. A pushdown automaton checks that the value is well
formed, one symbol at a step, to any depth of nesting. It does not decode strings, so escapes of
lone surrogates and bytes outside UTF-8 pass, as do numbers of any size.
-/

set_option autoImplicit false
set_option relaxedAutoImplicit false

namespace CounterBoard.Json

open CounterBoard.Text

inductive Frame
  | array | object
  deriving DecidableEq

/-- The place reached inside the innermost frame; a string is a key or a value. -/
inductive Place
  | value | firstItem | firstKey | key | colon | after
  | string (isKey : Bool) | escape (isKey : Bool) | hex (isKey : Bool) (left : Nat)
  | letters (left : List Char)
  | minus | zero | whole | point | decimals | exponent | exponentSign | exponentDigits
  deriving DecidableEq

/-- What one symbol does: it leads to another place, ends the value, lies behind the end of the
value, or cannot stand here. -/
inductive Move
  | go (frames : List Frame) (place : Place)
  | ended
  | passed
  | stuck
  deriving DecidableEq

def close (frames : List Frame) : Move :=
  if frames.isEmpty then .ended else .go frames .after

def isGap (c : Char) : Bool :=
  c == ' ' || c == '\t' || c == '\n' || c == '\r'

def openValue (frames : List Frame) (c : Char) : Move :=
  if isGap c then .go frames .value
  else if c = '"' then .go frames (.string false)
  else if c = '[' then .go (.array :: frames) .firstItem
  else if c = '\x7b' then .go (.object :: frames) .firstKey
  else if c = 'n' then .go frames (.letters ['u', 'l', 'l'])
  else if c = 't' then .go frames (.letters ['r', 'u', 'e'])
  else if c = 'f' then .go frames (.letters ['a', 'l', 's', 'e'])
  else if c = '-' then .go frames .minus
  else if c = '0' then .go frames .zero
  else if c.isDigit then .go frames .whole
  else .stuck

def afterValue (frames : List Frame) (c : Char) : Move :=
  if isGap c then .go frames .after
  else match frames with
    | .array :: outer =>
      if c = ',' then .go frames .value else if c = ']' then close outer else .stuck
    | .object :: outer =>
      if c = ',' then .go frames .key else if c = '\x7d' then close outer else .stuck
    | [] => .stuck

def afterNumber (frames : List Frame) (c : Char) : Move :=
  if frames.isEmpty then .passed else afterValue frames c

def advance (frames : List Frame) (place : Place) (c : Char) : Move :=
  match place with
  | .value => openValue frames c
  | .firstItem =>
    if isGap c then .go frames .firstItem
    else if c = ']' then close frames.tail
    else openValue frames c
  | .firstKey =>
    if isGap c then .go frames .firstKey
    else if c = '\x7d' then close frames.tail
    else if c = '"' then .go frames (.string true)
    else .stuck
  | .key =>
    if isGap c then .go frames .key else if c = '"' then .go frames (.string true) else .stuck
  | .colon =>
    if isGap c then .go frames .colon else if c = ':' then .go frames .value else .stuck
  | .after => afterValue frames c
  | .string isKey =>
    if c = '"' then (if isKey then .go frames .colon else close frames)
    else if c = '\\' then .go frames (.escape isKey)
    else if c.toNat < 0x20 then .stuck
    else .go frames (.string isKey)
  | .escape isKey =>
    if c = 'u' then .go frames (.hex isKey 3)
    else if (plainEscape? c).isSome then .go frames (.string isKey)
    else .stuck
  | .hex isKey left =>
    if (hexValue? c).isNone then .stuck
    else match left with
      | 0 => .go frames (.string isKey)
      | left + 1 => .go frames (.hex isKey left)
  | .letters [] => .stuck
  | .letters (d :: left) =>
    if c ≠ d then .stuck
    else if left.isEmpty then close frames
    else .go frames (.letters left)
  | .minus =>
    if c = '0' then .go frames .zero else if c.isDigit then .go frames .whole else .stuck
  | .zero =>
    if c.isDigit then .stuck
    else if c = '.' then .go frames .point
    else if c = 'e' ∨ c = 'E' then .go frames .exponent
    else afterNumber frames c
  | .whole =>
    if c.isDigit then .go frames .whole
    else if c = '.' then .go frames .point
    else if c = 'e' ∨ c = 'E' then .go frames .exponent
    else afterNumber frames c
  | .point => if c.isDigit then .go frames .decimals else .stuck
  | .decimals =>
    if c.isDigit then .go frames .decimals
    else if c = 'e' ∨ c = 'E' then .go frames .exponent
    else afterNumber frames c
  | .exponent =>
    if c.isDigit then .go frames .exponentDigits
    else if c = '+' ∨ c = '-' then .go frames .exponentSign
    else .stuck
  | .exponentSign => if c.isDigit then .go frames .exponentDigits else .stuck
  | .exponentDigits =>
    if c.isDigit then .go frames .exponentDigits else afterNumber frames c

/-- A byte outside UTF-8 can stand only inside a string. -/
def advanceByte (frames : List Frame) : Place → Move
  | .string isKey => .go frames (.string isKey)
  | _ => .stuck

def Place.endsNumber : Place → Bool
  | .zero | .whole | .decimals | .exponentDigits => true
  | _ => false

/-- Runs the automaton from a place to the end of the outermost value. -/
def skipFrom (frames : List Frame) (place : Place) : Input → Except Refusal Input
  | [] => if frames.isEmpty && place.endsNumber then .ok [] else .error .malformed
  | s :: t =>
    match s.elim (advanceByte frames place) (advance frames place) with
    | .go frames place => skipFrom frames place t
    | .ended => .ok t
    | .passed => .ok (s :: t)
    | .stuck => .error .malformed

/-- Passes over one value, and the blanks before it. -/
def skip (t : Input) : Except Refusal Input :=
  skipFrom [] .value t

end CounterBoard.Json
