import CounterBoard.Service

/-!
A service at work, step by step. Commands come in at any time and wait in one line. The service
makes its first fetch, then takes one command after the other: it has its dashboard hear of the
pieces of a command one by one and replies once all are done. A signal to stop can come at any time,
but counts only between two commands.
-/

set_option autoImplicit false
set_option relaxedAutoImplicit false

namespace CounterBoard

open CounterBoard.Time

/-- One thing that a command has the dashboard hear of. -/
inductive Piece
  | setGranularity (granularity : Granularity)
  | setLookback (lookback : Lookback)
  | fetch
  deriving DecidableEq

def Piece.event (fetched : Except SourceError Log) : Piece → Event
  | .setGranularity granularity => .granularityChanged granularity
  | .setLookback lookback => .lookbackChanged lookback
  | .fetch => .ofFetch fetched

def Command.pieces : Command → List Piece
  | .select granularity lookback =>
    (granularity.map .setGranularity).toList ++ (lookback.map .setLookback).toList
  | .reload => [.fetch]
  | .status => []
  | .snapshot => []

def Service.reply (s : Service) : Command → Reply
  | .snapshot => .snapshot s.snapshot?
  | _ => .status s.status

inductive Stage
  /-- The first fetch is under way. -/
  | opening
  /-- No command is at hand. -/
  | free
  /-- The command that came in at a place is at hand, with some of its pieces left. -/
  | busy (place : Nat) (command : Command) (left : List Piece)
  | closed
  deriving DecidableEq

/-- A service at work. Commands are told by the place at which they came in, and each has an answer
that is given at most once. -/
structure Desk where
  service : Service
  /-- All that the dashboard has heard of and when, the oldest first. -/
  journal : List (Event × Instant)
  stage : Stage
  /-- Whether the signal to stop has come. -/
  isSignalled : Bool
  /-- The commands that wait. No more than the capacity of the service are in the queue, and those
  behind them wait for room. -/
  line : List (Command × Nat)
  /-- All commands that came in. -/
  asked : List Command
  /-- The reply to a command, or why it gets none. -/
  answers : Nat → Option (Except Interruption Reply)

namespace Desk

inductive Move
  /-- The service takes one step; a fetch that ends with it gives so much, and the clock stands
  there. -/
  | work (fetched : Except SourceError Log) (now : Instant)
  /-- A command takes its place in the line. -/
  | ask (command : Command)
  /-- The signal to stop comes. -/
  | signal
  /-- The service heeds the signal. -/
  | close

def start (service : Service) : Desk :=
  ⟨service, [], .opening, false, [], [], fun _ => none⟩

def give (answers : Nat → Option (Except Interruption Reply)) (place : Nat)
    (answer : Except Interruption Reply) : Nat → Option (Except Interruption Reply) :=
  fun other => if other = place then some answer else answers other

def hear (t : Desk) (event : Event) (now : Instant) (stage : Stage) : Except Fault Desk := do
  let service ← t.service.hear event now
  .ok { t with service, journal := t.journal ++ [(event, now)], stage }

/-- One step of the service. Without a command in line it waits. -/
def work (t : Desk) (fetched : Except SourceError Log) (now : Instant) : Except Fault Desk :=
  match t.stage with
  | .opening => t.hear (.ofFetch fetched) now .free
  | .free =>
    match t.line with
    | [] => .ok t
    | (command, place) :: line => .ok { t with line, stage := .busy place command command.pieces }
  | .busy place command (piece :: left) =>
    t.hear (piece.event fetched) now (.busy place command left)
  | .busy place command [] =>
    .ok { t with stage := .free, answers := give t.answers place (.ok (t.service.reply command)) }
  | .closed => .ok t

def ask (t : Desk) (command : Command) : Desk :=
  if t.stage = .closed then
    { t with
      asked := t.asked ++ [command]
      answers := give t.answers t.asked.length (.error .stopped) }
  else
    { t with
      line := t.line ++ [(command, t.asked.length)]
      asked := t.asked ++ [command] }

/-- Why a command that was not answered gets no reply when the desk is closed. -/
def interruption (t : Desk) (place : Nat) : Interruption :=
  if (t.line.take t.service.capacity).any (·.2 == place) then .dropped else .stopped

def close (t : Desk) : Desk :=
  { t with
    service := t.service.stop
    stage := .closed
    line := []
    answers := fun place =>
      if place < t.asked.length then (t.answers place).or (some (.error (t.interruption place)))
      else t.answers place }

/-- What comes of a move. The signal is heeded only while no command is at hand. -/
def step (t : Desk) : Move → Except Fault Desk
  | .work fetched now => t.work fetched now
  | .ask command => .ok (t.ask command)
  | .signal => .ok { t with isSignalled := true }
  | .close => .ok (if t.stage = .free ∧ t.isSignalled = true then t.close else t)

def run (t : Desk) (moves : List Move) : Except Fault Desk :=
  moves.foldlM step t

end Desk

end CounterBoard
