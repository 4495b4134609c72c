import CounterBoard.Json.Reader
import CounterBoard.Json.Writer
import CounterBoard.Log.Snapshot

/-!
The JSON form of a snapshot. Torrents are a count or an array of counts, and are left out if a
snapshot has none; read, they may also be null.
-/

set_option autoImplicit false
set_option relaxedAutoImplicit false

namespace CounterBoard

open CounterBoard.Json

namespace Torrents

def write : Torrents → List Char
  | .count value => writeCount value
  | .series column => writeArray writeCount column

/-- Reads a number of torrents: an array, or else a count. -/
def read : Reader Torrents := fun t =>
  match blanks t with
  | some '[' :: t => do
    let (column, t) ← array Json.count (some '[' :: t)
    .ok (.series column, t)
  | t => do
    let (value, t) ← Json.count t
    .ok (.count value, t)

end Torrents

namespace Snapshot

def write (s : Snapshot) : List Char :=
  writeObject <| (s.torrents.map fun torrents => ("torrents", torrents.write)).toList ++ [
    ("times", writeArray writeString s.times),
    ("connections", writeArray writeCount s.connections),
    ("completed", writeArray writeCount s.completed)]

structure Draft where
  torrents : Option (Option Torrents)
  times : Option (List String)
  connections : Option (List UInt64)
  completed : Option (List UInt64)

def fields : List (FieldReader Draft) := [
  .kept "torrents" Draft.torrents (fun d v => { d with torrents := some v })
    (nullable Torrents.read),
  .kept "times" Draft.times (fun d v => { d with times := v }) (array string),
  .kept "connections" Draft.connections (fun d v => { d with connections := v }) (array Json.count),
  .kept "completed" Draft.completed (fun d v => { d with completed := v }) (array Json.count)]

/-- The snapshot of a draft in which nothing is missing but perhaps torrents. -/
def complete? (d : Draft) : Option Snapshot := do
  some ⟨d.torrents.getD none, ← d.times, ← d.connections, ← d.completed⟩

def read : Reader Snapshot :=
  object ⟨none, none, none, none⟩ fields complete?

end Snapshot

end CounterBoard
