/-!
Media types in the header of a request. Only those count that say that the body is JSON: of type
`application`, with the subtype `json` or the suffix `json` behind the last plus sign. A header that
is no well-formed media type says nothing.
-/

set_option autoImplicit false
set_option relaxedAutoImplicit false

namespace CounterBoard.Http

def isTokenChar (c : Char) : Bool :=
  c.isAlphanum || c ∈ "!#$%&'*+-.^_`|~".toList

/-- Whether a character may stand between the quotes of a parameter. -/
def isQuotedChar (c : Char) : Bool :=
  0x20 ≤ c.toNat && c != '\x7f'

def isHeaderChar (c : Char) : Bool :=
  c == '\t' || 0x20 ≤ c.toNat && c.toNat < 0x7F

inductive ParameterPlace
  /-- Where a name is due; blanks may come first. -/
  | start
  | name
  /-- Where a value is due. -/
  | valueStart
  | value
  /-- Right behind an opening quote, where even a quote is taken as part of the value. -/
  | quotedStart
  | quoted
  | closed
  deriving DecidableEq

/-- Whether the parameters of a media type are well formed, from a place on. -/
def parametersFrom : ParameterPlace → List Char → Bool
  | .start, [] => true
  | .name, [] => false
  | .valueStart, [] => true
  | .value, [] => true
  | .quotedStart, [] => false
  | .quoted, [] => false
  | .closed, [] => true
  | .start, c :: t =>
    if c = ' ' then parametersFrom .start t else isTokenChar c && parametersFrom .name t
  | .name, c :: t =>
    if c = '=' then parametersFrom .valueStart t else isTokenChar c && parametersFrom .name t
  | .valueStart, c :: t =>
    if c = '"' then parametersFrom .quotedStart t else isTokenChar c && parametersFrom .value t
  | .quotedStart, c :: t => isQuotedChar c && parametersFrom .quoted t
  | .value, c :: t =>
    if c = ';' then parametersFrom .start t else isTokenChar c && parametersFrom .value t
  | .quoted, c :: t =>
    if c = '"' then parametersFrom .closed t else isQuotedChar c && parametersFrom .quoted t
  | .closed, c :: t =>
    if c = ';' then parametersFrom .start t else c == ' ' && parametersFrom .closed t

/-- The parts of a subtype before and behind the last plus sign that is not its first character. -/
def splitSuffix (subtype : List Char) : List Char × Option (List Char) :=
  let suffix := (subtype.reverse.takeWhile (· != '+')).reverse
  let front := subtype.take (subtype.length - suffix.length - 1)
  if front.isEmpty || suffix.length = subtype.length then (subtype, none)
  else (front, some suffix)

/-- A text in lower case, as far as it is ASCII. -/
def lowered (t : List Char) : String :=
  String.ofList (t.map Char.toLower)

def saysJson (header : String) : Bool :=
  let t := header.toList
  let type := t.takeWhile (· != '/')
  let rest := t.drop (type.length + 1)
  let subtype := rest.takeWhile (· != ';')
  let parameters := rest.drop (subtype.length + 1)
  let (front, suffix) := splitSuffix subtype
  t.all isHeaderChar && t.contains '/' && !type.isEmpty && type.all isTokenChar &&
    subtype.all isTokenChar && parametersFrom .start parameters && lowered type == "application" &&
    (lowered front == "json" || suffix.any fun s => lowered s == "json")

end CounterBoard.Http
