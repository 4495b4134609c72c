import CounterBoard.Text.Utf8
import CounterBoard.Wire.Snapshot

/-!
Where snapshots come from: a file of a folder, read anew each time, or one snapshot held in memory.
Reading a path walks down the folder name by name, and each step has its own way to fail.
-/

set_option autoImplicit false
set_option relaxedAutoImplicit false

namespace CounterBoard

open CounterBoard.Time

inductive ReadError
  | notFound
  | notDirectory
  | isDirectory
  | nameTooLong
  | nulInName
  | notText
  /-- There is nothing in memory to read. -/
  | absent
  deriving DecidableEq

def ReadError.message : ReadError → String
  | .notFound => "No such file or directory (os error 2)"
  | .notDirectory => "Not a directory (os error 20)"
  | .isDirectory => "Is a directory (os error 21)"
  | .nameTooLong => "File name too long (os error 36)"
  | .nulInName => "file name contained an unexpected NUL byte"
  | .notText => "stream did not contain valid UTF-8"
  | .absent => "entity not found"

def decodeText (bytes : List UInt8) : Except ReadError String :=
  match Text.textOfUtf8? bytes with
  | some text => .ok text
  | none => .error .notText

/-- Files by the names that lead to them from the working directory; a name in front of another is
a directory. -/
structure Folder where
  files : List (List String × List UInt8)
  deriving DecidableEq

inductive Location
  /-- A directory of the folder; the empty list is the working directory. -/
  | inside (names : List String)
  /-- A directory outside the folder, of which nothing is known. -/
  | outside
  /-- A file. -/
  | file (bytes : List UInt8)
  deriving DecidableEq

namespace Folder

def empty : Folder :=
  ⟨[]⟩

def namesOf (path : String) : List String :=
  path.splitOn "/"

def write (folder : Folder) (path : String) (bytes : List UInt8) : Folder :=
  ⟨(namesOf path, bytes) :: folder.files.filter fun f => f.1 ≠ namesOf path⟩

def remove (folder : Folder) (path : String) : Folder :=
  ⟨folder.files.filter fun f => f.1 ≠ namesOf path⟩

def longestName : Nat := 255

def longestPath : Nat := 4095

def enter (folder : Folder) (names : List String) (name : String) : Except ReadError Location :=
  if longestName < name.utf8ByteSize then .error .nameTooLong
  else
    let path := names ++ [name]
    match folder.files.lookup path with
    | some bytes => .ok (.file bytes)
    | none =>
      if folder.files.any fun f => path.isPrefixOf f.1 then .ok (.inside path)
      else .error .notFound

/-- The place that one name of a path leads to. Names of a path that are empty or a dot stay where
they are, and two dots lead up; none of them can follow a file. -/
def step (folder : Folder) (place : Location) (name : String) : Except ReadError Location :=
  match place with
  | .file _ => .error .notDirectory
  | .outside =>
    if name = "" ∨ name = "." ∨ name = ".." then .ok .outside
    else if longestName < name.utf8ByteSize then .error .nameTooLong
    else .error .notFound
  | .inside names =>
    if name = "" ∨ name = "." then .ok (.inside names)
    else if name = ".." then
      .ok (if names.isEmpty then .outside else .inside names.dropLast)
    else folder.enter names name

def bytes (folder : Folder) (path : String) : Except ReadError (List UInt8) :=
  if path.toList.contains '\x00' then .error .nulInName
  else if path.isEmpty then .error .notFound
  else if longestPath < path.utf8ByteSize then .error .nameTooLong
  else do
    let start := if path.startsWith "/" then Location.outside else .inside []
    match ← (namesOf path).foldlM folder.step start with
    | .file bytes => .ok bytes
    | _ => .error .isDirectory

def text (folder : Folder) (path : String) : Except ReadError String := do
  let bytes ← folder.bytes path
  decodeText bytes

end Folder

inductive SourceError
  /-- Nothing could be read. -/
  | unreadable (path : String) (cause : ReadError)
  /-- What was read is no snapshot. -/
  | format (refusal : Json.Refusal)
  /-- The snapshot describes no log. -/
  | shape (cause : LogError)
  deriving DecidableEq

def Json.Refusal.message : Json.Refusal → String
  | .malformed => "not well formed"
  | .mismatch => "not of the expected shape"

def SourceError.message : SourceError → String
  | .unreadable path cause => "reading snapshot " ++ path ++ ": " ++ cause.message
  | .format refusal => "snapshot is not valid JSON: " ++ refusal.message
  | .shape cause => "snapshot has a bad shape: " ++ cause.message

def Snapshot.fetch (s : Snapshot) (zone : Zone) : Except SourceError Log :=
  (s.toLog zone).mapError .shape

def parseSnapshot (zone : Zone) (text : String) : Except SourceError Log := do
  let snapshot ← (Json.decode Snapshot.read text).mapError .format
  snapshot.fetch zone

def logOfFile (path : String) (zone : Zone) (reading : Except ReadError String) :
    Except SourceError Log := do
  let text ← reading.mapError (.unreadable path)
  parseSnapshot zone text

inductive Source
  /-- The file that a path leads to. -/
  | file (path : String)
  /-- A snapshot in memory, or nothing. -/
  | memory (snapshot : Option Snapshot)
  deriving DecidableEq

def Source.fetch (source : Source) (folder : Folder) (zone : Zone) : Except SourceError Log :=
  match source with
  | .file path => logOfFile path zone (folder.text path)
  | .memory (some snapshot) => snapshot.fetch zone
  | .memory none => .error (.unreadable "<memory>" .absent)

end CounterBoard
