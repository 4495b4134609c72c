import CounterBoard.Chart
import CounterBoard.Wire.Series

/-!
The JSON forms of datasets and charts.
-/

set_option autoImplicit false
set_option relaxedAutoImplicit false

namespace CounterBoard

open CounterBoard.Json
open CounterBoard.Time

namespace Dataset

def write (d : Dataset) : List Char :=
  writeObject [
    ("label", writeString d.label),
    ("borderColor", writeString d.borderColor),
    ("backgroundColor", writeString d.backgroundColor),
    ("data", writeArray writeCount d.data)]

structure Draft where
  label : Option String
  borderColor : Option String
  backgroundColor : Option String
  data : Option (List UInt64)

def fields : List (FieldReader Draft) := [
  .kept "label" Draft.label (fun d v => { d with label := v }) string,
  .kept "borderColor" Draft.borderColor (fun d v => { d with borderColor := v }) string,
  .kept "backgroundColor" Draft.backgroundColor (fun d v => { d with backgroundColor := v }) string,
  .kept "data" Draft.data (fun d v => { d with data := v }) (array Json.count)]

def complete? (d : Draft) : Option Dataset := do
  some ⟨← d.label, ← d.borderColor, ← d.backgroundColor, ← d.data⟩

def read : Reader Dataset :=
  object ⟨none, none, none, none⟩ fields complete?

end Dataset

namespace Chart

def write (c : Chart) : List Char :=
  writeObject [
    ("labels", writeArray Instant.write c.labels),
    ("datasets", writeArray Dataset.write c.datasets)]

structure Draft where
  labels : Option (List Instant)
  datasets : Option (List Dataset)

def fields : List (FieldReader Draft) := [
  .kept "labels" Draft.labels (fun d v => { d with labels := v }) (array Instant.read),
  .kept "datasets" Draft.datasets (fun d v => { d with datasets := v }) (array Dataset.read)]

def complete? (d : Draft) : Option Chart := do
  some ⟨← d.labels, ← d.datasets⟩

def read : Reader Chart :=
  object ⟨none, none⟩ fields complete?

end Chart

end CounterBoard
