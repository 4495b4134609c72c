import CounterBoard.Json.Reader
import CounterBoard.Json.Writer
import CounterBoard.Resample

/-!
The names under which kinds, granularities, lookbacks and sampling modes travel, and the JSON form
of a selection.
-/

set_option autoImplicit false
set_option relaxedAutoImplicit false

namespace CounterBoard

open CounterBoard.Json

namespace CounterKind

def names : List (String × CounterKind) :=
  [connections, completed, torrents].map fun kind => (kind.name, kind)

def write (kind : CounterKind) : List Char :=
  writeString kind.name

def read : Reader CounterKind :=
  choice names

end CounterKind

namespace Granularity

def name : Granularity → String
  | .hour => "hour"
  | .minute => "minute"

def names : List (String × Granularity) :=
  [hour, minute].map fun g => (g.name, g)

def write (g : Granularity) : List Char :=
  writeString g.name

def read : Reader Granularity :=
  choice names

end Granularity

namespace Lookback

def name : Lookback → String
  | .oneHour => "one_hour"
  | .fiveHours => "five_hours"
  | .oneDay => "one_day"
  | .threeDays => "three_days"

def names : List (String × Lookback) :=
  all.map fun l => (l.name, l)

def write (l : Lookback) : List Char :=
  writeString l.name

def read : Reader Lookback :=
  choice names

end Lookback

namespace Sampling

def name : Sampling → String
  | .pointInTime => "point_in_time"
  | .bucketClose => "bucket_close"

def names : List (String × Sampling) :=
  [pointInTime, bucketClose].map fun mode => (mode.name, mode)

def read : Reader Sampling :=
  choice names

end Sampling

namespace Selection

def write (s : Selection) : List Char :=
  writeObject [("granularity", s.granularity.write), ("lookback", s.lookback.write)]

structure Draft where
  granularity : Option Granularity
  lookback : Option Lookback

def fields : List (FieldReader Draft) := [
  .kept "granularity" Draft.granularity (fun d v => { d with granularity := v }) Granularity.read,
  .kept "lookback" Draft.lookback (fun d v => { d with lookback := v }) Lookback.read]

def complete? (d : Draft) : Option Selection := do
  some ⟨← d.granularity, ← d.lookback⟩

/-- Reads a selection; both of its fields are needed. -/
def read : Reader Selection :=
  object ⟨none, none⟩ fields complete?

end Selection

end CounterBoard
