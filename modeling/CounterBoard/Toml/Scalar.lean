import CounterBoard.Toml.Moment
import CounterBoard.Toml.Numeral
import CounterBoard.Toml.Quoted

/-!
The scalars of TOML that stand without quotes. They are cut from the text first, up to a character
that cannot belong to them, and classified then: by a word of their own, by the mark of a base, or
by what follows their first digits.
-/

set_option autoImplicit false
set_option relaxedAutoImplicit false

namespace CounterBoard.Toml

open CounterBoard.Text

def scalarEnds : List Char :=
  ['=', ',', '[', ']', '\x7b', '\x7d', ' ', '\t', '#', '\r', '\n']

def isBare (c : Char) : Bool :=
  !scalarEnds.contains c

/-- The characters that belong to a scalar without quotes, but start no further word of it. -/
def innerChars : List Char :=
  ['.', '"', '\'']

def startsWord (c : Char) : Bool :=
  isBare c && !innerChars.contains c

def dropGap (t : List Char) : List Char :=
  t.dropWhile isGap

/-- The scalar that a text starts with: words, and the blanks between them. -/
def bareText : List Char → List Char
  | [] => []
  | c :: t =>
    if isBare c || (isGap c && (dropGap t).head?.any startsWord) then c :: bareText t else []

/-- Reads a scalar that starts with a digit or an underscore, behind a possible sign. A hyphen or a
colon after its first digits makes it a moment, and only a moment can hold a space. -/
def number? (cs : List Char) : Option Value :=
  let unsigned := dropSign cs
  let rest := unsigned.dropWhile Char.isDigit
  if !unsigned.head?.any fun c => c.isDigit || c == '_' then none
  else if rest.head?.any fun c => c == '-' || c == ':' then
    if isMoment cs then some .moment else none
  else if rest.contains ' ' then none
  else if rest.any fun c => c == '.' || isExponentMark c then float? cs
  else if rest.isEmpty || rest.head? == some '_' then decimalInteger? cs
  else none

def floatNames : List (List Char) :=
  [['i', 'n', 'f'], ['n', 'a', 'n']]

/-- The value of a scalar without quotes. The mark of a base admits no sign. -/
def scalar? : List Char → Option Value
  | ['t', 'r', 'u', 'e'] => some (.boolean true)
  | ['f', 'a', 'l', 's', 'e'] => some (.boolean false)
  | '0' :: 'x' :: cs => basedInteger? 16 cs
  | '0' :: 'o' :: cs => basedInteger? 8 cs
  | '0' :: 'b' :: cs => basedInteger? 2 cs
  | cs => if floatNames.contains (dropSign cs) then some .float else number? cs

def bareScalar? (t : List Char) : Option (Value × List Char) :=
  let text := bareText t
  (scalar? text).map fun v => (v, t.drop text.length)

end CounterBoard.Toml
