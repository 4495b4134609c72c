import CounterBoard.Text.Digits

/-!
The strings of TOML 1.1 in their four kinds of quotes: with escapes or without, and within one line
or across several. A character that is written with an escape is the same as one that is not.
-/

set_option autoImplicit false
set_option relaxedAutoImplicit false

namespace CounterBoard.Toml

open CounterBoard.Text

def isControl (c : Char) : Bool :=
  c.toNat < 0x20 && c != '\t' || c == '\x7f'

def isGap (c : Char) : Bool :=
  c == ' ' || c == '\t'

def escape? : Char → Option Char
  | 'b' => some '\x08'
  | 't' => some '\t'
  | 'n' => some '\n'
  | 'f' => some '\x0c'
  | 'r' => some '\r'
  | 'e' => some '\x1b'
  | '"' => some '"'
  | '\\' => some '\\'
  | _ => none

def numbered? (ds : List Char) : Option Char := do
  let n ← hexNumber? ds
  if n.isValidChar then some (Char.ofNat n) else none

/-- Where the reader of a string stands. A backslash at the end of a line hides the line break and
the blanks around it. -/
inductive Standing
  | inText
  /-- Between a backslash and the end of its line. -/
  | beforeBreak
  /-- Past a hidden line break, where blanks are passed over. -/
  | afterBreak
  deriving DecidableEq

/-- The quotes that three quotes at the end of a string may follow, and the rest: at most two. -/
def closing (quote : Char) (read : List Char) (t : List Char) : List Char × List Char :=
  match t with
  | a :: b :: rest =>
    if a = quote ∧ b = quote then (read.reverse ++ [a, b], rest)
    else if a = quote then (read.reverse ++ [a], b :: rest)
    else (read.reverse, a :: b :: rest)
  | [a] => if a = quote then (read.reverse ++ [a], []) else (read.reverse, [a])
  | [] => (read.reverse, [])

/-- Reads a string with escapes up to its closing quotes: one, or three if it spans lines. -/
def escapedChars (spans : Bool) (read : List Char) (standing : Standing) :
    List Char → Option (List Char × List Char)
  | '\n' :: t =>
    if ¬ spans then none
    else match standing with
      | .inText => escapedChars spans ('\n' :: read) .inText t
      | _ => escapedChars spans read .afterBreak t
  | '\r' :: '\n' :: t =>
    if ¬ spans then none
    else match standing with
      | .inText => escapedChars spans ('\n' :: '\r' :: read) .inText t
      | _ => escapedChars spans read .afterBreak t
  | ' ' :: t => match standing with
    | .inText => escapedChars spans (' ' :: read) .inText t
    | standing => escapedChars spans read standing t
  | '\t' :: t => match standing with
    | .inText => escapedChars spans ('\t' :: read) .inText t
    | standing => escapedChars spans read standing t
  | '"' :: t =>
    if standing = .beforeBreak then none
    else if ¬ spans then some (read.reverse, t)
    else match t with
      | '"' :: '"' :: t => some (closing '"' read t)
      | t => escapedChars spans ('"' :: read) .inText t
  | '\\' :: 'x' :: a :: b :: t =>
    if standing = .beforeBreak then none
    else match numbered? [a, b] with
      | some c => escapedChars spans (c :: read) .inText t
      | none => none
  | '\\' :: 'u' :: a :: b :: c :: d :: t =>
    if standing = .beforeBreak then none
    else match numbered? [a, b, c, d] with
      | some c => escapedChars spans (c :: read) .inText t
      | none => none
  | '\\' :: 'U' :: a :: b :: c :: d :: e :: f :: g :: h :: t =>
    if standing = .beforeBreak then none
    else match numbered? [a, b, c, d, e, f, g, h] with
      | some c => escapedChars spans (c :: read) .inText t
      | none => none
  | '\\' :: e :: t =>
    if standing = .beforeBreak then none
    else if spans ∧ isGap e then escapedChars spans read .beforeBreak t
    else if spans ∧ e = '\n' then escapedChars spans read .afterBreak t
    else match escape? e with
      | some c => escapedChars spans (c :: read) .inText t
      | none =>
        match t with
        | '\n' :: t => if spans ∧ e = '\r' then escapedChars spans read .afterBreak t else none
        | _ => none
  | c :: t =>
    if standing = .beforeBreak ∨ isControl c ∨ c = '\\' then none
    else escapedChars spans (c :: read) .inText t
  | [] => none

def literalChars (spans : Bool) (read : List Char) : List Char → Option (List Char × List Char)
  | '\'' :: t =>
    if ¬ spans then some (read.reverse, t)
    else match t with
      | '\'' :: '\'' :: t => some (closing '\'' read t)
      | t => literalChars spans ('\'' :: read) t
  | '\n' :: t => if spans then literalChars spans ('\n' :: read) t else none
  | '\r' :: '\n' :: t => if spans then literalChars spans ('\n' :: '\r' :: read) t else none
  | c :: t => if isControl c then none else literalChars spans (c :: read) t
  | [] => none

def dropBreak : List Char → List Char
  | '\n' :: t => t
  | '\r' :: '\n' :: t => t
  | t => t

def string? : List Char → Option (String × List Char)
  | '"' :: '"' :: '"' :: t => (escapedChars true [] .inText (dropBreak t)).map fun (cs, t) =>
      (String.ofList cs, t)
  | '"' :: t => (escapedChars false [] .inText t).map fun (cs, t) => (String.ofList cs, t)
  | '\'' :: '\'' :: '\'' :: t => (literalChars true [] (dropBreak t)).map fun (cs, t) =>
      (String.ofList cs, t)
  | '\'' :: t => (literalChars false [] t).map fun (cs, t) => (String.ofList cs, t)
  | _ => none

end CounterBoard.Toml
