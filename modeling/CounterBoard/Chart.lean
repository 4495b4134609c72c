import CounterBoard.Series

/-!
Line charts: a shared axis of instants, and one dataset for each counter with a value at every
instant of the axis.
-/

set_option autoImplicit false
set_option relaxedAutoImplicit false

namespace CounterBoard

open CounterBoard.Time

structure Dataset where
  label : String
  borderColor : String
  backgroundColor : String
  data : List UInt64
  deriving DecidableEq

structure Chart where
  labels : List Instant
  datasets : List Dataset
  deriving DecidableEq

structure LineStyle where
  label : String
  borderColor : String
  backgroundColor : String
  deriving DecidableEq

/-- A line in an opaque colour, with the area below it in the same colour at three tenths of its
opacity. -/
def LineStyle.tinted (label red green blue : String) : LineStyle :=
  let colour := "rgba(" ++ red ++ "," ++ green ++ "," ++ blue ++ ","
  ⟨label, colour ++ "1)", colour ++ "0.3)"⟩

structure ChartStyle where
  connections : LineStyle
  completed : LineStyle
  torrents : LineStyle
  deriving DecidableEq

namespace ChartStyle

def standard : ChartStyle where
  connections := .tinted "Active connections" "0" "0" "255"
  completed := .tinted "Completed connections" "255" "0" "0"
  torrents := .tinted "Torrents" "0" "255" "0"

def line (style : ChartStyle) : CounterKind → LineStyle
  | .connections => style.connections
  | .completed => style.completed
  | .torrents => style.torrents

end ChartStyle

namespace Chart

def datasetOf (series : Series) (style : ChartStyle) (kind : CounterKind) (index : Nat) :
    Except Fault Dataset := do
  let line := style.line kind
  let data ← series.valuesAt index
  .ok ⟨line.label, line.borderColor, line.backgroundColor, data⟩

/-- The chart of a series, one line for each of its kinds in their order. -/
def ofSeries (series : Series) (style : ChartStyle) : Except Fault Chart := do
  let datasets ← series.kinds.zipIdx.mapM fun (kind, index) => datasetOf series style kind index
  .ok ⟨series.timestamps, datasets⟩

/-- The first line with a label. -/
def dataset? (chart : Chart) (label : String) : Option Dataset :=
  chart.datasets.find? fun d => d.label = label

end Chart

end CounterBoard
