import CounterBoard.Chart
import CounterBoard.Resample
import CounterBoard.Store

/-!
The dashboard: events change the store, and while data is ready every change is drawn at once, as
a chart of the whole stored log under the whole selection. A selection made while no data is
ready is kept and shows in the next chart.
-/

set_option autoImplicit false
set_option relaxedAutoImplicit false

namespace CounterBoard

open CounterBoard.Time

inductive DataState
  /-- Nothing was loaded yet, and nothing failed to load. -/
  | loading
  /-- The last attempt to load succeeded. -/
  | ready
  /-- The last attempt to load failed, for a reason. -/
  | unavailable (reason : String)
  deriving DecidableEq

inductive Event
  | loaded (log : Log)
  | unavailable (reason : String)
  | granularityChanged (granularity : Granularity)
  | lookbackChanged (lookback : Lookback)
  deriving DecidableEq

structure Dashboard where
  store : Store
  style : ChartStyle
  sampling : Sampling
  state : DataState
  deriving DecidableEq

namespace Dashboard

def start (selection : Selection) (style : ChartStyle) (sampling : Sampling) : Dashboard :=
  ⟨.ofSelection selection, style, sampling, .loading⟩

def selection (d : Dashboard) : Selection :=
  d.store.selection

def chart (d : Dashboard) (now : Instant) : Except Fault Chart := do
  let series ← resample d.store.log d.selection now d.sampling
  Chart.ofSeries series d.style

/-- The frame that is drawn for the dashboard as it stands; none is while no data is ready. -/
def frame? (d : Dashboard) (now : Instant) : Except Fault (Option Chart) :=
  if d.state = .ready then (d.chart now).map some else .ok none

/-- The dashboard after an event, before anything is drawn. -/
def apply (d : Dashboard) : Event → Dashboard
  | .loaded log => { d with store := d.store.load log, state := .ready }
  | .unavailable reason => { d with state := .unavailable reason }
  | .granularityChanged granularity => { d with store := d.store.setGranularity granularity }
  | .lookbackChanged lookback => { d with store := d.store.setLookback lookback }

/-- The dashboard after an event, and the frame that the event adds: one is drawn whenever data is
ready after the event. -/
def handle (d : Dashboard) (event : Event) (now : Instant) :
    Except Fault (Dashboard × Option Chart) := do
  let d := d.apply event
  let frame ← d.frame? now
  .ok (d, frame)

end Dashboard

end CounterBoard
