import CounterBoard.Log.Basic
import CounterBoard.Series

/-!
Resampling a log onto a regular grid: each point carries the values of the entry observed last. One
pass over the entries serves all points. It first passes over the entries before the grid, then
at each point takes in the entries that the point absorbs, and never goes back.
-/

set_option autoImplicit false
set_option relaxedAutoImplicit false

namespace CounterBoard

open CounterBoard.Time

/-- Which entries a point of the grid absorbs. -/
inductive Sampling
  /-- Those up to the instant of the point. -/
  | pointInTime
  /-- Those in the bucket between the point and the next one. -/
  | bucketClose
  deriving DecidableEq

structure Bucket where
  start : Instant
  stop : Instant
  deriving DecidableEq

def Sampling.absorbs : Sampling → Bucket → Instant → Bool
  | .pointInTime, bucket, t => t ≤ bucket.start
  | .bucketClose, bucket, t => bucket.start ≤ t && t < bucket.stop

structure Entry where
  time : Instant
  row : List UInt64
  deriving DecidableEq

/-- The first value of a counter's column; a gauge has its one value at every entry. -/
def Values.first : Values → UInt64
  | .series column => column.headD 0
  | .constant value => value

def Values.rest : Values → Values
  | .series column => .series column.tail
  | .constant value => .constant value

/-- The entries of a log: its columns turned into rows. -/
def entriesOf : List Instant → List Values → List Entry
  | [], _ => []
  | t :: times, columns =>
    ⟨t, columns.map Values.first⟩ :: entriesOf times (columns.map Values.rest)

def Log.entries (log : Log) : List Entry :=
  entriesOf log.times (log.counters.map Counter.values)

theorem map_time_entriesOf (times : List Instant) (columns : List Values) :
    (entriesOf times columns).map Entry.time = times := by
  induction times generalizing columns with
  | nil => rfl
  | cons t times ih => simp [entriesOf, ih]

@[simp]
theorem Log.map_time_entries (log : Log) : log.entries.map Entry.time = log.times :=
  map_time_entriesOf log.times _

/-- How far resampling has come: how many entries were taken in, the row of the last of them, and
the entries still ahead. -/
structure Cursor where
  taken : Nat
  row : List UInt64
  ahead : List Entry
  deriving DecidableEq

namespace Cursor

def start (log : Log) : Cursor :=
  ⟨0, log.initialRow, log.entries⟩

def takeWhile (passes : Instant → Bool) (taken : Nat) (row : List UInt64) : List Entry → Cursor
  | [] => ⟨taken, row, []⟩
  | e :: ahead =>
    if passes e.time then takeWhile passes (taken + 1) e.row ahead else ⟨taken, row, e :: ahead⟩

/-- The cursor after it has taken in the entries ahead that pass a test, up to the first that does
not. -/
def advance (c : Cursor) (passes : Instant → Bool) : Cursor :=
  takeWhile passes c.taken c.row c.ahead

def sample (mode : Sampling) (c : Cursor) : List Bucket → List GridPoint × Cursor
  | [] => ([], c)
  | bucket :: grid =>
    let c := c.advance (mode.absorbs bucket)
    let (points, final) := sample mode c grid
    (⟨bucket.start, c.row⟩ :: points, final)

end Cursor

/-- The buckets of a grid from an instant on, one for each grid point before `now`. -/
def grid (g : Granularity) (now current : Instant) : Except Fault (List Bucket) :=
  if current < now then
    match _h : current.later g.step with
    | .error fault => .error fault
    | .ok next => do
      let buckets ← grid g now next
      .ok (⟨current, next⟩ :: buckets)
  else .ok []
termination_by (now.seconds + 1 - current.seconds).toNat
decreasing_by
  have hlater := (Instant.later_eq_ok_iff.mp _h).1
  have hstep := g.step_pos
  have hlt : current < now := by assumption
  rw [Instant.lt_iff] at hlt
  omega

/-- Resamples a log over the lookback that ends before `now`. -/
def resample (log : Log) (selection : Selection) (now : Instant) (mode : Sampling) :
    Except Fault Series := do
  let start ← now.earlier selection.lookback.span
  let buckets ← grid selection.granularity now start
  let baseline := (Cursor.start log).advance (· < start)
  let (points, final) := baseline.sample mode buckets
  .ok { selection, kinds := log.kinds, points, consumed := final.taken }

end CounterBoard
