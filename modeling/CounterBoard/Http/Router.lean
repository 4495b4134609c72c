import CounterBoard.Http.MediaType
import CounterBoard.Http.Message

/-!
The routes of the service and how each is answered. A request that changes the selection is answered
by the latest chart, one that fetches anew by the status that comes of it, and one that asks for
what is not there by the reason.
-/

set_option autoImplicit false
set_option relaxedAutoImplicit false

namespace CounterBoard.Http

def serviceName : String := "tracker-stats"

def serviceVersion : String := "0.1.0"

inductive Route
  | root | version | snapshot | status | chart | selection | reload
  deriving DecidableEq

namespace Route

/-- The route of a path; paths match in full. -/
def ofPath? : String → Option Route
  | "/" => some .root
  | "/version" => some .version
  | "/database.json" => some .snapshot
  | "/api/status" => some .status
  | "/api/chart" => some .chart
  | "/api/selection" => some .selection
  | "/api/reload" => some .reload
  | _ => none

/-- A path without the query and the fragment behind it. -/
def barePath (t : List Char) : List Char :=
  t.takeWhile fun c => c != '?' && c != '#'

def isSchemeChar (c : Char) : Bool :=
  c.isAlphanum || c == '+' || c == '-' || c == '.'

/-- The path of a target: of a target that is a path, or that has one behind a scheme and an
authority. A path that is empty there is the root; any other target has none. -/
def pathOf? (target : List Char) : Option (List Char) :=
  match target, target.dropWhile isSchemeChar with
  | '/' :: _, _ => some (barePath target)
  | _, ':' :: '/' :: '/' :: t =>
    match barePath (t.dropWhile fun c => c != '/' && c != '?' && c != '#') with
    | [] => some ['/']
    | path => some path
  | _, _ => none

def ofTarget? (target : String) : Option Route :=
  (pathOf? target.toList).bind fun path => ofPath? (String.ofList path)

def changes : Route → Bool
  | .selection => true
  | .reload => true
  | _ => false

/-- Whether a route answers a method. Where content can be asked for, so can its header alone. -/
def admits (r : Route) (method : String) : Bool :=
  if r.changes then method == "POST" else method == "GET" || method == "HEAD"

end Route

def unavailable (reason : String) : Response :=
  .full 503 (.error reason)

def chartResponse (status : Status) (chart : Option Chart) : Response :=
  match status.state with
  | .ready =>
    match chart with
    | some chart => .full 200 (.chart chart)
    | none => unavailable "loading"
  | .loading => unavailable "loading"
  | .unavailable reason => unavailable reason

def snapshotResponse : Option Snapshot → Response
  | some snapshot => .full 200 (.snapshot snapshot)
  | none => unavailable "loading"

def reloadResponse (status : Status) : Response :=
  .full (if status.state = .ready then 200 else 503) (.status status)

def replyResponse (route : Route) (reply : Reply) (chart : Option Chart) : Response :=
  match reply, route with
  | .snapshot snapshot, _ => snapshotResponse snapshot
  | .status status, .status => .full 200 (.status status)
  | .status status, .reload => reloadResponse status
  | .status status, _ => chartResponse status chart

def interruptedResponse (cause : Interruption) : Response :=
  .full 500 (.error cause.message)

/-- The longest body that is read, in bytes. -/
def longestBody : Nat := 2097152

def selectionCommand (request : Request) : Except Response Command :=
  if request.contentType.any saysJson then
    if request.body.length ≤ longestBody then
      match Json.whole SelectionRequest.read (Text.decodeUtf8 request.body) with
      | .ok selection => .ok selection.command
      | .error .malformed => .error (.full 400 (.text "the body is not well formed"))
      | .error .mismatch => .error (.full 422 (.text "the body is not of the expected shape"))
    else .error (.full 413 (.text "the body is too long"))
  else .error (.full 415 (.text "the body has to be JSON"))

/-- What a request to a route asks of the service: a command, or an answer that needs none. -/
def commandOf (route : Route) (request : Request) : Except Response Command :=
  match route with
  | .root => .error (.full 200 (.text (serviceName ++ ": dashboard backend")))
  | .version => .error (.full 200 (.about serviceName serviceVersion))
  | .snapshot => .ok .snapshot
  | .status => .ok .status
  | .chart => .ok .status
  | .selection => selectionCommand request
  | .reload => .ok .reload

def answer (service : Service) (route : Route) (command : Command) (around : Surroundings) :
    Except Fault (Service × Response) :=
  if service.isRunning then do
    let (service, reply) ← service.perform command around
    .ok (service, replyResponse route reply service.charts.latest)
  else .ok (service, interruptedResponse .stopped)

/-- Answers a request. Every request for options is granted, before anything else is looked at. -/
def respond (service : Service) (request : Request) (around : Surroundings) :
    Except Fault (Service × Response) :=
  if request.method = "OPTIONS" then .ok (service, .full 200 .nothing)
  else match Route.ofTarget? request.target with
    | none => .ok (service, .full 404 .nothing)
    | some route =>
      if route.admits request.method then
        match commandOf route request with
        | .error response =>
          .ok (service, { response with headerOnly := request.method == "HEAD" })
        | .ok command => do
          let (service, response) ← answer service route command around
          .ok (service, { response with headerOnly := request.method == "HEAD" })
      else .ok (service, .full 405 .nothing)

end CounterBoard.Http
