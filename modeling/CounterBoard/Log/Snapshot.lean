import CounterBoard.Log.Basic
import CounterBoard.Time.Reading

/-!
Snapshots: the columns of a log as a recorder keeps them and serves them, with times as texts. A
snapshot becomes a log if its times can be read and its columns are as long as its times, a log
becomes a snapshot always, and a recorder appends one announce at a time.
-/

set_option autoImplicit false
set_option relaxedAutoImplicit false

namespace CounterBoard

open CounterBoard.Time

/-- The number of torrents: one for the whole snapshot, or one for each entry. -/
inductive Torrents
  | count (value : UInt64)
  | series (column : List UInt64)
  deriving DecidableEq

structure Snapshot where
  torrents : Option Torrents
  times : List String
  connections : List UInt64
  completed : List UInt64
  deriving DecidableEq

/-- Reads the times of a snapshot, from an index on, up to the first that names no instant. -/
def parseTimes (zone : Zone) : Nat → List String → Except LogError (List Instant)
  | _, [] => .ok []
  | index, text :: texts =>
    match parse? zone text with
    | none => .error (.invalidTimestamp index text)
    | some instant => do
      let instants ← parseTimes zone (index + 1) texts
      .ok (instant :: instants)

def Torrents.toCounter : Torrents → Counter
  | .count value => ⟨.torrents, .constant value⟩
  | .series column => ⟨.torrents, .series column⟩

namespace Snapshot

def counters (s : Snapshot) : List Counter :=
  ⟨.connections, .series s.connections⟩ :: ⟨.completed, .series s.completed⟩ ::
    (s.torrents.map Torrents.toCounter).toList

/-- The log that a snapshot describes in a zone. Times are read before columns are measured. -/
def toLog (s : Snapshot) (zone : Zone) : Except LogError Log := do
  let times ← parseTimes zone 0 s.times
  Log.ofColumns times s.counters

def fresh (torrents : UInt64) : Snapshot :=
  ⟨some (.count torrents), [], [], []⟩

def column (entries : Nat) : Values → List UInt64
  | .series column => column
  | .constant value => List.replicate entries value

def torrentsOf : Values → Torrents
  | .series column => .series column
  | .constant value => .count value

/-- A snapshot with the column of one counter of a log put in its place; a later counter of the
same kind replaces an earlier one. -/
def putCounter (entries : Nat) (s : Snapshot) (c : Counter) : Snapshot :=
  match c.kind with
  | .connections => { s with connections := column entries c.values }
  | .completed => { s with completed := column entries c.values }
  | .torrents => { s with torrents := some (torrentsOf c.values) }

/-- The snapshot of a log, with its instants written in UTC. -/
def ofLog (log : Log) : Snapshot :=
  log.counters.foldl (putCounter log.length)
    ⟨none, log.times.map fun t => String.ofList t.offsetText, [], []⟩

/-- The last value of a column, and zero if it has none. -/
def lastValue (column : List UInt64) : UInt64 :=
  column.getLast?.getD 0

/-- The count one above another, unless it is the largest. -/
def increment (n : UInt64) : Except Fault UInt64 :=
  if n.toNat + 1 < UInt64.size then .ok (n + 1) else .error .countOverflow

/-- Torrents after one more entry: a column repeats its last value. -/
def extendTorrents : Torrents → Torrents
  | .count value => .count value
  | .series column => .series (column ++ [lastValue column])

/-- Appends one announce, made at an instant to a recorder in a zone: there is one connection more,
and one completed connection more if the peer has completed its download. -/
def record (s : Snapshot) (zone : Zone) (instant : Instant) (isCompleted : Bool) :
    Except Fault Snapshot := do
  let connections ← increment (lastValue s.connections)
  let completed ←
    if isCompleted then increment (lastValue s.completed) else .ok (lastValue s.completed)
  .ok {
    torrents := s.torrents.map extendTorrents
    times := s.times ++ [String.ofList (instant.localText zone)]
    connections := s.connections ++ [connections]
    completed := s.completed ++ [completed] }

end Snapshot

end CounterBoard
