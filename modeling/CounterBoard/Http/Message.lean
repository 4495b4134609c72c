import CounterBoard.Wire.Snapshot
import CounterBoard.Wire.Status

/-!
Requests and responses, and how the content of a response is written.
-/

set_option autoImplicit false
set_option relaxedAutoImplicit false

namespace CounterBoard.Http

structure Request where
  method : String
  target : String
  contentType : Option String
  body : List UInt8
  deriving DecidableEq

inductive Content
  /-- Nothing. -/
  | nothing
  /-- A line of text. -/
  | text (line : String)
  /-- Name and version of the service. -/
  | about (name version : String)
  | snapshot (snapshot : Snapshot)
  | status (status : Status)
  | chart (chart : Chart)
  | error (message : String)
  deriving DecidableEq

namespace Content

def mediaType? : Content → Option String
  | .nothing => none
  | .text _ => some "text/plain; charset=utf-8"
  | _ => some "application/json"

open CounterBoard.Json in
def write : Content → List Char
  | .nothing => []
  | .text line => line.toList
  | .about name version =>
    writeObject [("name", writeString name), ("version", writeString version)]
  | .snapshot s => s.write
  | .status s => s.write
  | .chart c => c.write
  | .error message => writeError message

end Content

/-- A response: its status code, its content, and whether only the header of it is sent. -/
structure Response where
  code : Nat
  content : Content
  headerOnly : Bool
  deriving DecidableEq

namespace Response

def full (code : Nat) (content : Content) : Response :=
  ⟨code, content, false⟩

def body (r : Response) : List Char :=
  if r.headerOnly then [] else r.content.write

/-- The origins whose pages may read a response: all of them. -/
def allowedOrigin : String := "*"

end Response

end CounterBoard.Http
