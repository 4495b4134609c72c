import CounterBoard.Http.Router
import CounterBoard.Settings
import Std.Time.DateTime.Timestamp

/-!
The command line. It reads the settings, starts the service over the file that they name, and
answers one request for each line of its input: a method, a target and, behind a further space, a
JSON body. An answer is a line as well: the status code and the body. Whoever listens on the
network hands the lines over.
-/

set_option autoImplicit false
set_option relaxedAutoImplicit false

namespace CounterBoard

open CounterBoard.Time

def Http.Request.ofLine (line : List Char) : Http.Request :=
  let method := line.takeWhile (· != ' ')
  let rest := line.drop (method.length + 1)
  let target := rest.takeWhile (· != ' ')
  let body := rest.drop (target.length + 1)
  { method := String.ofList method
    target := String.ofList target
    contentType := if body.isEmpty then none else some "application/json"
    body := (String.ofList body).toUTF8.toList }

def Http.Response.toLine (r : Http.Response) : String :=
  toString r.code ++ " " ++ String.ofList r.body

def namedZones : List (String × Zone) := [
  ("UTC", .utc),
  ("Asia/Kolkata", .kolkata),
  ("America/New_York", .newYork),
  ("Australia/Sydney", .sydney)]

/-- The zone in the environment, UTC if there is none. -/
def localZone : IO Zone := do
  let name := (← IO.getEnv "TZ").getD "UTC"
  match namedZones.lookup name with
  | some zone => return zone
  | none => throw (IO.userError ("no such time zone: " ++ name))

def systemTime : IO Instant := do
  let duration := (← Std.Time.Timestamp.now).val
  match Instant.ofParts? duration.second.val duration.nano.val.toNat with
  | some now => return now
  | none => throw (IO.userError "the clock of the system is set to no instant")

def readText (path : String) : IO (Except ReadError String) := do
  try
    return decodeText (← IO.FS.readBinFile path).toList
  catch
    | .noFileOrDirectory _ _ _ => return .error .notFound
    | .inappropriateType _ _ _ => return .error .isDirectory
    | cause => throw cause

def surroundings (path : String) (zone : Zone) : IO Surroundings := do
  let fetched := logOfFile path zone (← readText path)
  return ⟨fetched, ← systemTime, ← systemTime⟩

partial def serve (input : IO.FS.Stream) (path : String) (zone : Zone) (service : Service) :
    IO Unit := do
  let line ← input.getLine
  if line.isEmpty then return
  let request := Http.Request.ofLine (line.toList.takeWhile (· != '\n'))
  match Http.respond service request (← surroundings path zone) with
  | .ok (service, response) =>
    IO.println response.toLine
    serve input path zone service
  | .error fault => throw (IO.userError fault.message)

end CounterBoard

open CounterBoard in
def main : IO Unit := do
  let file := (← IO.getEnv "CONFIG_FILE").getD Settings.standardFile
  match Settings.ofFile (← readText file) with
  | .error cause => throw (IO.userError cause.message)
  | .ok settings =>
    let zone ← localZone
    let capacity := settings.dashboard.commandCapacity.toNat
    let around ← surroundings settings.path zone
    match Service.ofDashboard settings.dashboard.toDashboard capacity >>= (·.start around) with
    | .ok service => serve (← IO.getStdin) settings.path zone service
    | .error fault => throw (IO.userError fault.message)
