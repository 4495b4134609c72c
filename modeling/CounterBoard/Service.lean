import CounterBoard.Broadcast
import CounterBoard.Dashboard
import CounterBoard.Source

/-!
The service around a dashboard: it fetches a log when it starts, then carries out one command at a
time and replies to each. Every frame that the dashboard draws is published, so that the latest
can be read without a command.
-/

set_option autoImplicit false
set_option relaxedAutoImplicit false

namespace CounterBoard

open CounterBoard.Time

inductive Command
  /-- To change the granularity, the lookback, both or neither. -/
  | select (granularity : Option Granularity) (lookback : Option Lookback)
  /-- To fetch the log anew. -/
  | reload
  /-- To report on the dashboard. -/
  | status
  /-- To give the stored log as a snapshot. -/
  | snapshot
  deriving DecidableEq

structure Status where
  state : DataState
  selection : Selection
  deriving DecidableEq

inductive Reply
  | status (status : Status)
  /-- The stored log, if one was ever loaded. -/
  | snapshot (snapshot : Option Snapshot)
  deriving DecidableEq

inductive Interruption
  /-- The service had stopped when the command came. -/
  | stopped
  /-- The service stopped before the command's turn came. -/
  | dropped
  deriving DecidableEq

def Interruption.message : Interruption → String
  | .stopped => "dashboard task stopped"
  | .dropped => "dashboard task dropped the reply"

/-- What a command finds around it: what a fetch would give, and the clock as it stands when the
command begins and later on. -/
structure Surroundings where
  fetched : Except SourceError Log
  now : Instant
  later : Instant

/-- A dashboard, the frames it publishes, whether commands are still carried out, and how many of
them can wait. -/
structure Service where
  dashboard : Dashboard
  charts : Broadcast Chart
  isRunning : Bool
  capacity : Nat
  deriving DecidableEq

def Event.ofFetch : Except SourceError Log → Event
  | .ok log => .loaded log
  | .error cause => .unavailable cause.message

namespace Service

def hear (s : Service) (event : Event) (now : Instant) : Except Fault Service := do
  let (dashboard, frame) ← s.dashboard.handle event now
  .ok { s with dashboard, charts := frame.elim s.charts s.charts.publish }

def hearAny (s : Service) (event : Option Event) (now : Instant) : Except Fault Service :=
  match event with
  | some event => s.hear event now
  | none => .ok s

/-- A service that has fetched and published nothing, for which one command at least can wait. -/
def ofDashboard (dashboard : Dashboard) (capacity : Nat) : Except Fault Service :=
  if max capacity 1 ≤ mostWaiting then .ok ⟨dashboard, .empty, true, max capacity 1⟩
  else .error .lineTooLong

def start (s : Service) (around : Surroundings) : Except Fault Service :=
  s.hear (.ofFetch around.fetched) around.now

def stop (s : Service) : Service :=
  { s with isRunning := false }

def status (s : Service) : Status :=
  ⟨s.dashboard.state, s.dashboard.selection⟩

def snapshot? (s : Service) : Option Snapshot :=
  if s.dashboard.store.isLoaded then some (.ofLog s.dashboard.store.log) else none

/-- Carries out a command. The granularity is changed before the lookback, and each change that is
made draws a frame of its own. -/
def perform (s : Service) (command : Command) (around : Surroundings) :
    Except Fault (Service × Reply) :=
  match command with
  | .select granularity lookback => do
    let s ← s.hearAny (granularity.map .granularityChanged) around.now
    let s ← s.hearAny (lookback.map .lookbackChanged) around.later
    .ok (s, .status s.status)
  | .reload => do
    let s ← s.hear (.ofFetch around.fetched) around.now
    .ok (s, .status s.status)
  | .status => .ok (s, .status s.status)
  | .snapshot => .ok (s, .snapshot s.snapshot?)

end Service

end CounterBoard
