import CounterBoard.Time.Reading
import CounterBoard.Wire.Names

/-!
The JSON forms of instants, grid points and resampled series.
-/

set_option autoImplicit false
set_option relaxedAutoImplicit false

namespace CounterBoard

open CounterBoard.Json

namespace Time.Instant

def write (t : Instant) : List Char :=
  writeString (String.ofList t.zuluText)

/-- Reads an instant from a text that carries its offset. -/
def read : Reader Instant := fun t => do
  let (text, t) ← string t
  match relaxed? text.toList with
  | some instant => .ok (instant, t)
  | none => .error .mismatch

end Time.Instant

open CounterBoard.Time

namespace GridPoint

def write (p : GridPoint) : List Char :=
  writeObject [("timestamp", p.timestamp.write), ("values", writeArray writeCount p.values)]

structure Draft where
  timestamp : Option Instant
  values : Option (List UInt64)

def fields : List (FieldReader Draft) := [
  .kept "timestamp" Draft.timestamp (fun d v => { d with timestamp := v }) Instant.read,
  .kept "values" Draft.values (fun d v => { d with values := v }) (array Json.count)]

def complete? (d : Draft) : Option GridPoint := do
  some ⟨← d.timestamp, ← d.values⟩

def read : Reader GridPoint :=
  object ⟨none, none⟩ fields complete?

end GridPoint

namespace Series

def write (s : Series) : List Char :=
  writeObject [
    ("selection", s.selection.write),
    ("kinds", writeArray CounterKind.write s.kinds),
    ("points", writeArray GridPoint.write s.points),
    ("consumed", Text.decimal s.consumed)]

structure Draft where
  selection : Option Selection
  kinds : Option (List CounterKind)
  points : Option (List GridPoint)
  consumed : Option UInt64

def fields : List (FieldReader Draft) := [
  .kept "selection" Draft.selection (fun d v => { d with selection := v }) Selection.read,
  .kept "kinds" Draft.kinds (fun d v => { d with kinds := v }) (array CounterKind.read),
  .kept "points" Draft.points (fun d v => { d with points := v }) (array GridPoint.read),
  .kept "consumed" Draft.consumed (fun d v => { d with consumed := v }) count]

def complete? (d : Draft) : Option Series := do
  some ⟨← d.selection, ← d.kinds, ← d.points, (← d.consumed).toNat⟩

def read : Reader Series :=
  object ⟨none, none, none, none⟩ fields complete?

end Series

end CounterBoard
