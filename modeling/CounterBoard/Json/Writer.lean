import CounterBoard.Text.Digits

/-!
Writing JSON with no blanks. Strings escape the quote, the backslash and control characters, and
nothing else.
-/

set_option autoImplicit false
set_option relaxedAutoImplicit false

namespace CounterBoard.Json

open CounterBoard.Text

def hexDigit (n : Nat) : Char :=
  if n < 10 then Char.ofNat ('0'.toNat + n) else Char.ofNat ('a'.toNat + (n - 10))

def escaped (c : Char) : List Char :=
  if c = '"' then ['\\', '"']
  else if c = '\\' then ['\\', '\\']
  else if c = '\x08' then ['\\', 'b']
  else if c = '\x0c' then ['\\', 'f']
  else if c = '\n' then ['\\', 'n']
  else if c = '\r' then ['\\', 'r']
  else if c = '\t' then ['\\', 't']
  else if c.toNat < 0x20 then
    ['\\', 'u', '0', '0', hexDigit (c.toNat / 16), hexDigit (c.toNat % 16)]
  else [c]

def writeString (s : String) : List Char :=
  '"' :: s.toList.flatMap escaped ++ ['"']

def writeCount (n : UInt64) : List Char :=
  decimal n.toNat

def writeJoined : List (List Char) → List Char
  | [] => []
  | [value] => value
  | value :: values => value ++ ',' :: writeJoined values

def writeArray {α : Type} (write : α → List Char) (values : List α) : List Char :=
  '[' :: writeJoined (values.map write) ++ [']']

def writeObject (members : List (String × List Char)) : List Char :=
  '\x7b' :: writeJoined (members.map fun m => writeString m.1 ++ ':' :: m.2) ++ ['\x7d']

end CounterBoard.Json
