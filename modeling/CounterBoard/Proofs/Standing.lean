import CounterBoard.Proofs.Asking
import CounterBoard.Proofs.Window

/-!
What a session of requests, served one after another, comes to: the selection, each field as it was
asked for last; what came of the most recent fetch, with the log of the last one that succeeded; and
the clock as it stood when a chart was last due. Every answer is given by these three and by what
is asked.
-/

set_option autoImplicit false
set_option relaxedAutoImplicit false

namespace CounterBoard

open CounterBoard.Time

/-- A request with what it asks, and what the service finds around it. -/
structure Exchange where
  request : Http.Request
  around : Surroundings
  ask : Http.Ask
  asks : request.Asks ask

namespace SelectionRequest

/-- A selection in which each label that is given has replaced a field. -/
def choose (labels : SelectionRequest) (selection : Selection) : Selection :=
  ⟨labels.granularity.elim selection.granularity .ofLabel,
    labels.lookback.elim selection.lookback .ofLabel⟩

/-- The charts that are due where there is data, one for each field: what they show, as of when. -/
def due (labels : SelectionRequest) (selection : Selection) (around : Surroundings) :
    List (Selection × Instant) :=
  (labels.granularity.map fun label =>
    (⟨.ofLabel label, selection.lookback⟩, around.now)).toList ++
  (labels.lookback.map fun _ => (labels.choose selection, around.later)).toList

end SelectionRequest

namespace Exchange

/-- The labels that a request selects by; one that selects nothing gives none. -/
def labels (x : Exchange) : SelectionRequest :=
  match x.ask with
  | .select labels => labels
  | _ => ⟨none, none⟩

def fetched? (x : Exchange) : Option (Except SourceError Log) :=
  match x.ask with
  | .reload => some x.around.fetched
  | _ => none

end Exchange

abbrev Session := List Exchange

namespace Session

def last? {α : Type} (part : Exchange → Option α) (session : Session) : Option α :=
  (session.filterMap part).getLast?

def selection (initial : Selection) (session : Session) : Selection :=
  ⟨(session.last? fun x => x.labels.granularity).elim initial.granularity .ofLabel,
    (session.last? fun x => x.labels.lookback).elim initial.lookback .ofLabel⟩

def fetched (first : Except SourceError Log) (session : Session) : Except SourceError Log :=
  (session.last? Exchange.fetched?).getD first

def log? (first : Except SourceError Log) (session : Session) : Option Log :=
  (session.last? fun x => x.fetched?.bind Except.toOption).or first.toOption

end Session

/-- What came of the most recent fetch. One that failed keeps the log of the last that did not. -/
inductive Stock
  | fresh (log : Log)
  | stale (cause : SourceError) (kept : Option Log)

namespace Stock

def log? : Stock → Option Log
  | fresh log => some log
  | stale _ kept => kept

def state : Stock → DataState
  | fresh _ => .ready
  | stale cause _ => .unavailable cause.message

def fetch (stock : Stock) : Except SourceError Log → Stock
  | .ok log => fresh log
  | .error cause => stale cause stock.log?

def ofFetch : Except SourceError Log → Stock
  | .ok log => fresh log
  | .error cause => stale cause none

end Stock

/-- What a session has come to, as far as answers depend on it: what is selected, what was fetched,
and how late the clock was when a chart was last due. -/
structure Standing where
  selection : Selection
  stock : Stock
  asOf : Instant

namespace Standing

def opening (initial : Selection) (first : Surroundings) : Standing :=
  ⟨initial, .ofFetch first.fetched, first.now⟩

/-- The charts that are due in an exchange: one for a fetch that succeeds, and one for each field
that is selected while there is data. -/
def due (st : Standing) (x : Exchange) : List (Selection × Instant) :=
  match x.ask with
  | .reload =>
    match x.around.fetched with
    | .ok _ => [(st.selection, x.around.now)]
    | .error _ => []
  | .select labels =>
    if st.stock.state = .ready then labels.due st.selection x.around else []
  | _ => []

def note (st : Standing) (x : Exchange) : Standing where
  selection := x.labels.choose st.selection
  stock := x.fetched?.elim st.stock st.stock.fetch
  asOf := (st.due x).getLast?.elim st.asOf Prod.snd

theorem note_eq_self {st : Standing} {x : Exchange} (hselect : ∀ labels, x.ask ≠ .select labels)
    (hreload : x.ask ≠ .reload) : st.note x = st := by
  simp only [note, due, Exchange.labels, Exchange.fetched?]
  cases hask : x.ask with
  | select labels => exact absurd hask (hselect labels)
  | reload => exact absurd hask hreload
  | _ => rfl

def status (st : Standing) : Status :=
  ⟨st.stock.state, st.selection⟩

/-- The chart as of the time at which one was last due, or why there is none. -/
def chartAnswer (st : Standing) (style : ChartStyle) (sampling : Sampling) :
    Except Fault (Nat × Http.Content) :=
  match st.stock with
  | .fresh log => do
    let series ← resample log st.selection st.asOf sampling
    let chart ← Chart.ofSeries series style
    .ok (200, .chart chart)
  | .stale cause _ => .ok (503, .error cause.message)

def answer (st : Standing) (style : ChartStyle) (sampling : Sampling) :
    Http.Ask → Except Fault (Nat × Http.Content)
  | .options => .ok (200, .nothing)
  | .greeting => .ok (200, .text "tracker-stats: dashboard backend")
  | .version => .ok (200, .about "tracker-stats" "0.1.0")
  | .snapshot =>
    match st.stock.log? with
    | some log => .ok (200, .snapshot (.ofLog log))
    | none => .ok (503, .error "loading")
  | .status => .ok (200, .status st.status)
  | .chart => st.chartAnswer style sampling
  | .select _ => st.chartAnswer style sampling
  | .reload =>
    match st.stock with
    | .fresh _ => .ok (200, .status st.status)
    | .stale _ _ => .ok (503, .status st.status)
  | .elsewhere => .ok (404, .nothing)
  | .otherMethod => .ok (405, .nothing)
  | .notJson => .ok (415, .text "the body has to be JSON")
  | .tooLong => .ok (413, .text "the body is too long")
  | .unread .malformed => .ok (400, .text "the body is not well formed")
  | .unread .mismatch => .ok (422, .text "the body is not of the expected shape")

/-- The response to a request that has led to the standing. Only its header is sent to whoever asks
for no more. -/
def respond (st : Standing) (style : ChartStyle) (sampling : Sampling) (x : Exchange) :
    Except Fault Http.Response :=
  (st.answer style sampling x.ask).map fun (code, content) =>
    ⟨code, content, x.request.method == "HEAD" && content != .nothing⟩

def answers (st : Standing) (style : ChartStyle) (sampling : Sampling) :
    Session → Except Fault (List Http.Response)
  | [] => .ok []
  | x :: session => do
    let response ← (st.note x).respond style sampling x
    let responses ← (st.note x).answers style sampling session
    .ok (response :: responses)

def dues (st : Standing) : Session → List (Selection × Instant)
  | [] => []
  | x :: session => st.due x ++ (st.note x).dues session

def InCalendar (st : Standing) (session : Session) : Prop :=
  ∀ chart ∈ st.dues session, Nonempty (Window chart.1 chart.2)

def after (st : Standing) (session : Session) : Standing :=
  session.foldl note st

end Standing

end CounterBoard
