import CounterBoard.Text.Digits

/-!
The text that a JSON reader works on, and the two reasons for which it refuses one. A text that
came as bytes may hold bytes that are no part of well-formed UTF-8; they do no harm inside a
string that is skipped.
-/

set_option autoImplicit false
set_option relaxedAutoImplicit false

namespace CounterBoard.Json

inductive Refusal
  /-- The text is no JSON, as far as it was read. -/
  | malformed
  /-- The text is JSON as far as it was read, but not of the shape that was asked for. -/
  | mismatch
  deriving DecidableEq

/-- The characters of a text in order, with `none` for a byte outside well-formed UTF-8. -/
abbrev Input := List (Option Char)

def Input.ofString (s : String) : Input :=
  s.toList.map some

/-- A reader takes a value from the front of a text and leaves the rest. -/
abbrev Reader (α : Type) := Input → Except Refusal (α × Input)

/-- The input after the blanks it starts with: space, tab, line feed and carriage return. -/
def blanks : Input → Input
  | some ' ' :: t => blanks t
  | some '\t' :: t => blanks t
  | some '\n' :: t => blanks t
  | some '\r' :: t => blanks t
  | t => t

def word : List Char → Input → Except Refusal Input
  | [], t => .ok t
  | _ :: _, [] => .error .malformed
  | c :: cs, d :: t => if d = some c then word cs t else .error .malformed

/-- The character that a letter after a backslash stands for. -/
def plainEscape? : Char → Option Char
  | '"' => some '"'
  | '\\' => some '\\'
  | '/' => some '/'
  | 'b' => some '\x08'
  | 'f' => some '\x0c'
  | 'n' => some '\n'
  | 'r' => some '\r'
  | 't' => some '\t'
  | _ => none

end CounterBoard.Json
