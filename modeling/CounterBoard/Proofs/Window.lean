import CounterBoard.Resample
import Mathlib.Tactic.Common

/-!
The window that a selection shows at an instant, and the grid over it. The first point lies one
lookback before the instant, and the points are one step apart, so the buckets between them tile
the window. All of the window has to lie in the calendar, its end included.
-/

set_option autoImplicit false
set_option relaxedAutoImplicit false

namespace CounterBoard

open CounterBoard.Time

theorem exists_of_bind_eq_ok {ε α β : Type} {x : Except ε α} {next : α → Except ε β} {b : β}
    (h : x >>= next = .ok b) : ∃ a, x = .ok a ∧ next a = .ok b := by
  cases x with
  | error fault => cases h
  | ok a => exact ⟨a, rfl, h⟩

theorem grid_of_not_lt {g : Granularity} {now current : Instant} (h : ¬ current < now) :
    grid g now current = .ok [] := by
  rw [grid, if_neg h]

theorem grid_of_later_eq_error {g : Granularity} {now current : Instant} {fault : Fault}
    (hlt : current < now) (h : current.later g.step = .error fault) :
    grid g now current = .error fault := by
  rw [grid, if_pos hlt]
  split <;> simp_all

theorem grid_of_later_eq_ok {g : Granularity} {now current next : Instant}
    (hlt : current < now) (h : current.later g.step = .ok next) :
    grid g now current = (grid g now next).map (⟨current, next⟩ :: ·) := by
  rw [grid, if_pos hlt]
  split
  · simp_all
  · next other hother =>
    obtain rfl : next = other := Except.ok.inj (h.symm.trans hother)
    cases grid g now next <;> rfl

/-- The time that a selection shows at an instant: a lookback before the instant and, from there on,
as long as the lookback. Both ends are instants of the calendar. -/
structure Window (selection : Selection) (now : Instant) where
  start : Instant
  stop : Instant
  earlier_eq : now.earlier selection.lookback.span = .ok start
  later_eq : start.later selection.lookback.span = .ok stop

theorem Selection.gridLength_mul_step (s : Selection) :
    s.gridLength * s.granularity.step = s.lookback.span := by
  rcases s with ⟨granularity, lookback⟩
  cases granularity <;> cases lookback <;> rfl

theorem Selection.gridLength_pos (s : Selection) : 0 < s.gridLength := by
  rcases s with ⟨granularity, lookback⟩
  cases granularity <;> cases lookback <;> decide

theorem Granularity.step_mod_sixty (g : Granularity) : g.step % 60 = 0 := by
  cases g <;> rfl

namespace Window

variable {selection : Selection} {now : Instant} (w : Window selection now)

theorem start_nanos_lt : w.start.nanos < nanosPerSecond := by
  rw [(Instant.earlier_eq_ok_iff.mp w.earlier_eq).2]
  exact now.fraction_lt

theorem isLeap_start : w.start.isLeap = false :=
  Instant.isLeap_eq_false_iff.mpr w.start_nanos_lt

theorem fraction_start : w.start.fraction = w.start.nanos :=
  Instant.fraction_eq_nanos w.isLeap_start

theorem stop_seconds : w.stop.seconds = w.start.seconds + selection.lookback.span :=
  (Instant.later_eq_ok_iff.mp w.later_eq).1

theorem stop_nanos : w.stop.nanos = w.start.nanos := by
  rw [(Instant.later_eq_ok_iff.mp w.later_eq).2, w.fraction_start]

/-- The `k`-th point of the grid; for every `k` beyond the grid, the end of the window. -/
def point (k : Nat) : Instant where
  seconds := w.start.seconds + (min (k * selection.granularity.step) selection.lookback.span : Nat)
  nanos := w.start.nanos
  valid := by
    have hstart := w.start.valid.1
    have hstop := w.stop.valid.2.1
    have hnanos := w.start_nanos_lt
    rw [w.stop_seconds] at hstop
    exact ⟨by omega, by omega, by omega, by omega⟩

def bucket (k : Nat) : Bucket :=
  ⟨w.point k, w.point (k + 1)⟩

def points : List Instant :=
  (List.range selection.gridLength).map w.point

def buckets : List Bucket :=
  (List.range selection.gridLength).map w.bucket

/-- The place in the grid of the bucket that holds an instant; none holds an instant outside the
window. -/
def place? (t : Instant) : Option Nat :=
  w.buckets.findIdx? fun bucket => bucket.start ≤ t ∧ t < bucket.stop

@[simp]
theorem length_buckets : w.buckets.length = selection.gridLength := by
  simp [buckets]

theorem getElem?_points {k : Nat} (hk : k < selection.gridLength) :
    w.points[k]? = some (w.point k) := by
  simp [points, hk]

theorem getElem?_points_of_le {k : Nat} (hk : selection.gridLength ≤ k) :
    w.points[k]? = none := by
  simp [points, hk]

theorem point_seconds {k : Nat} (hk : k ≤ selection.gridLength) :
    (w.point k).seconds = w.start.seconds + (k * selection.granularity.step : Nat) := by
  have hspan : k * selection.granularity.step ≤ selection.lookback.span := by
    rw [← selection.gridLength_mul_step]
    exact Nat.mul_le_mul_right _ hk
  simp only [point, Nat.min_eq_left hspan]

@[simp]
theorem point_zero : w.point 0 = w.start := by
  apply Instant.ext
  · rw [w.point_seconds (Nat.zero_le _)]
    omega
  · rfl

theorem point_gridLength : w.point selection.gridLength = w.stop := by
  apply Instant.ext
  · rw [w.point_seconds (Nat.le_refl _), selection.gridLength_mul_step, w.stop_seconds]
  · exact w.stop_nanos.symm

theorem point_le_point {j k : Nat} (h : j ≤ k) : w.point j ≤ w.point k := by
  have hmul : j * selection.granularity.step ≤ k * selection.granularity.step :=
    Nat.mul_le_mul_right _ h
  rw [Instant.le_iff]
  simp only [point]
  omega

theorem later_point {k : Nat} (hk : k < selection.gridLength) :
    (w.point k).later selection.granularity.step = .ok (w.point (k + 1)) := by
  have hmul : (k + 1) * selection.granularity.step =
      k * selection.granularity.step + selection.granularity.step := Nat.succ_mul _ _
  rw [Instant.later_eq_ok_iff, w.point_seconds (Nat.le_of_lt hk),
    w.point_seconds (k := k + 1) hk]
  exact ⟨by omega, w.fraction_start.symm⟩

/-- The end of the window is the instant at which it was opened, or, for a leap second, the instant
as far into the second after it. -/
theorem now_seconds : now.seconds + (if now.isLeap then 1 else 0) = w.stop.seconds ∧
    now.fraction = w.stop.nanos := by
  obtain ⟨hseconds, hnanos⟩ := Instant.earlier_eq_ok_iff.mp w.earlier_eq
  rw [w.stop_seconds, w.stop_nanos]
  exact ⟨by omega, hnanos.symm⟩

theorem not_stop_lt_now : ¬ w.stop < now := by
  obtain ⟨hseconds, hnanos⟩ := w.now_seconds
  rw [Instant.lt_iff, ← hseconds, ← hnanos]
  by_cases hleap : now.isLeap
  · simp only [hleap, if_true]
    omega
  · have hfraction : now.fraction = now.nanos :=
      Instant.fraction_eq_nanos (eq_false_of_ne_true hleap)
    simp only [hleap, hfraction]
    omega

theorem point_lt_now {k : Nat} (hk : k < selection.gridLength) : w.point k < now := by
  have hstop := w.now_seconds.1
  have hlt := w.point_seconds (Nat.le_of_lt hk)
  have hmul : (k + 1) * selection.granularity.step ≤ selection.lookback.span := by
    rw [← selection.gridLength_mul_step]
    exact Nat.mul_le_mul_right _ hk
  have hsixty := selection.granularity.step_mod_sixty
  have hstep := selection.granularity.step_pos
  rw [w.stop_seconds] at hstop
  rw [Nat.add_mul, Nat.one_mul] at hmul
  rw [Instant.lt_iff]
  left
  split at hstop <;> omega

private theorem grid_point (m k : Nat) (h : k + m = selection.gridLength) :
    grid selection.granularity now (w.point k) = .ok ((List.range' k m).map w.bucket) := by
  induction m generalizing k with
  | zero =>
    have hend : w.point k = w.stop := by rw [← w.point_gridLength, ← h, Nat.add_zero]
    exact grid_of_not_lt (hend ▸ w.not_stop_lt_now)
  | succ m ih =>
    have hk : k < selection.gridLength := by omega
    rw [grid_of_later_eq_ok (w.point_lt_now hk) (w.later_point hk), ih (k + 1) (by omega)]
    rfl

theorem grid_eq : grid selection.granularity now w.start = .ok w.buckets := by
  have h := w.grid_point selection.gridLength 0 (Nat.zero_add _)
  rwa [point_zero, ← List.range_eq_range'] at h

private theorem exists_stop_of_grid (m : Nat) {current : Instant} {buckets : List Bucket}
    (hgrid : grid selection.granularity now current = .ok buckets)
    (hseconds : current.seconds + (m * selection.granularity.step : Nat) =
      now.seconds + (if now.isLeap then 1 else 0))
    (hnanos : current.nanos = now.fraction) :
    ∃ stop : Instant, stop.seconds = now.seconds + (if now.isLeap then 1 else 0) ∧
      stop.nanos = now.fraction := by
  induction m generalizing current buckets with
  | zero => exact ⟨current, by omega, hnanos⟩
  | succ m ih =>
    have hsixty := selection.granularity.step_mod_sixty
    have hstep := selection.granularity.step_pos
    rw [Nat.add_mul, Nat.one_mul] at hseconds
    have hlt : current < now := by
      rw [Instant.lt_iff]
      left
      split at hseconds <;> omega
    cases hlater : current.later selection.granularity.step with
    | error fault =>
      rw [grid_of_later_eq_error hlt hlater] at hgrid
      cases hgrid
    | ok next =>
      rw [grid_of_later_eq_ok hlt hlater] at hgrid
      obtain ⟨hnext, hfraction⟩ := Instant.later_eq_ok_iff.mp hlater
      have hkept := Instant.fraction_eq_of_nanos_eq hnanos
      cases hrest : grid selection.granularity now next with
      | error fault =>
        rw [hrest] at hgrid
        cases hgrid
      | ok rest => exact ih hrest (by omega) (hfraction.trans hkept)

theorem nonempty_of_grid {start : Instant} {buckets : List Bucket}
    (hstart : now.earlier selection.lookback.span = .ok start)
    (hgrid : grid selection.granularity now start = .ok buckets) :
    Nonempty (Window selection now) := by
  obtain ⟨hseconds, hnanos⟩ := Instant.earlier_eq_ok_iff.mp hstart
  have hspan : start.seconds + (selection.gridLength * selection.granularity.step : Nat) =
      now.seconds + (if now.isLeap then 1 else 0) := by
    rw [selection.gridLength_mul_step]
    omega
  obtain ⟨stop, hstopSeconds, hstopNanos⟩ :=
    exists_stop_of_grid selection.gridLength hgrid hspan hnanos
  refine ⟨⟨start, stop, hstart, Instant.later_eq_ok_iff.mpr ⟨by omega, ?_⟩⟩⟩
  rw [hstopNanos, Instant.fraction_eq_of_nanos_eq hnanos]

theorem place?_eq_some_iff {t : Instant} {k : Nat} :
    w.place? t = some k ↔ k < selection.gridLength ∧ w.point k ≤ t ∧ t < w.point (k + 1) := by
  rw [place?, List.findIdx?_eq_some_iff_getElem]
  simp only [buckets, List.length_map, List.length_range, List.getElem_map, List.getElem_range,
    bucket, decide_eq_true_eq]
  constructor
  · rintro ⟨hk, hhold, -⟩
    exact ⟨hk, hhold⟩
  · rintro ⟨hk, hle, hlt⟩
    refine ⟨hk, ⟨hle, hlt⟩, ?_⟩
    intro j hj
    -- An earlier bucket ends no later than this one begins.
    have hend := Instant.le_trans (w.point_le_point hj) hle
    intro hhold
    exact Instant.not_le.mpr hhold.2 hend

end Window

end CounterBoard
