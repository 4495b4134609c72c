import CounterBoard.Proofs.Agreement
import CounterBoard.Proofs.Overrun
import CounterBoard.Proofs.Shifting

/-!
Buckets side by side, as many as one likes. Each is a step long, and the first opens at an instant of
an ordinary second, however far into it. Together they hold every instant from there on up to the end
of the last of them, and no two hold the same. Which one holds an instant is told by a division of
nanoseconds, in which a leap second stands still: it lies behind every point of its second, and
before every point of the next one, so no point ever parts it.
-/

set_option autoImplicit false
set_option relaxedAutoImplicit false

namespace CounterBoard

open CounterBoard.Time

namespace Time.Instant

/-- The nanoseconds from the Unix epoch up to an instant. They stand still in the last nanosecond of
an ordinary second for as long as a leap second of its number goes on. -/
def cappedSinceEpoch (t : Instant) : Int :=
  t.seconds * nanosPerSecond + (min t.nanos (nanosPerSecond - 1) : Nat)

variable {point start stop t : Instant} {first second : Nat}

theorem le_iff_sinceEpoch_le (hpoint : point.isLeap = false) :
    point ≤ t ↔ point.sinceEpoch ≤ t.cappedSinceEpoch := by
  have hnanos := isLeap_eq_false_iff.mp hpoint
  -- A point lies before a leap second exactly if it is no later than the nanosecond of the cap.
  rw [le_iff, sinceEpoch, cappedSinceEpoch]
  simp only [nanosPerSecond] at *
  omega

theorem later_zero (ht : t.isLeap = false) : t.later 0 = .ok t := by
  rw [later_eq_ok_iff]
  exact ⟨by omega, (fraction_eq_nanos ht).symm⟩

theorem exists_later_of_le (h : start.later second = .ok stop) (hle : first ≤ second) :
    ∃ u, start.later first = .ok u := by
  cases hfirst : start.later first with
  | ok u => exact ⟨u, rfl⟩
  | error fault =>
    have hbeyond := (later_eq_error_iff.mp hfirst).2
    have herror : start.later second = .error .afterLastInstant :=
      later_eq_error_iff.mpr ⟨rfl, by omega⟩
    rw [h] at herror
    cases herror

end Time.Instant

namespace Granularity

/-- The whole steps from an instant of an ordinary second up to another instant: a quotient rounded
down, which is negative for an instant that lies before. -/
def wholeSteps (g : Granularity) (start t : Instant) : Int :=
  (t.cappedSinceEpoch - start.sinceEpoch) / (g.step * nanosPerSecond : Nat)

/-- Whether the bucket that opens so many steps after one instant holds another. -/
def bucketHolds (g : Granularity) (start : Instant) (k : Nat) (t : Instant) :
    Except Fault Bool := do
  let point ← start.later (k * g.step)
  g.contains point t

variable {g : Granularity} {start stop point t : Instant} {k n : Nat}

theorem point_le_iff (hstart : start.isLeap = false)
    (hpoint : start.later (k * g.step) = .ok point) :
    point ≤ t ↔ (k : Int) ≤ g.wholeSteps start t := by
  have hapart := (Instant.later_eq_ok_iff_apart hstart).mp hpoint
  have hordinary : point.isLeap = false := Instant.isLeap_eq_false_iff.mpr hapart.nanos_right
  have hpos : (0 : Int) < (g.step * nanosPerSecond : Nat) :=
    Int.natCast_pos.mpr (Nat.mul_pos g.step_pos (by decide))
  have hspan : ((k * g.step : Nat) : Int) * nanosPerSecond =
      k * (g.step * nanosPerSecond : Nat) := by
    rw [Int.natCast_mul, Int.natCast_mul, Int.mul_assoc]
  -- Rounding down loses nothing here: what a quotient reaches, the dividend reaches as a multiple.
  rw [Instant.le_iff_sinceEpoch_le hordinary, hapart.sinceEpoch_eq, hspan, wholeSteps,
    Int.le_ediv_iff_mul_le hpos]
  omega

theorem between_iff_exists_wholeSteps (hstart : start.isLeap = false)
    (hstop : start.later (n * g.step) = .ok stop) :
    start ≤ t ∧ t < stop ↔ ∃ k < n, (k : Int) = g.wholeSteps start t := by
  have hzero : start.later (0 * g.step) = .ok start := by
    rw [Nat.zero_mul, Instant.later_zero hstart]
  rw [← Instant.not_le, point_le_iff hstart hzero, point_le_iff hstart hstop]
  constructor
  · rintro ⟨hle, hlt⟩
    exact ⟨(g.wholeSteps start t).toNat, by omega, by omega⟩
  · rintro ⟨k, hk, hsteps⟩
    omega

theorem exists_bucket (hstop : start.later (n * g.step) = .ok stop) (hk : k < n) :
    ∃ bucket : Bucket, start.later (k * g.step) = .ok bucket.start ∧
      start.later ((k + 1) * g.step) = .ok bucket.stop ∧
      bucket.start.later g.step = .ok bucket.stop := by
  obtain ⟨point, hpoint⟩ :=
    Instant.exists_later_of_le hstop (Nat.mul_le_mul_right g.step (Nat.le_of_lt hk))
  obtain ⟨next, hnext⟩ := Instant.exists_later_of_le hstop (Nat.mul_le_mul_right g.step hk)
  refine ⟨⟨point, next⟩, hpoint, hnext, ?_⟩
  rwa [Instant.later_later hpoint, ← Nat.succ_mul]

theorem bucketHolds_eq_absorbs {bucket : Bucket}
    (hopens : start.later (k * g.step) = .ok bucket.start)
    (hcloses : bucket.start.later g.step = .ok bucket.stop) (t : Instant) :
    g.bucketHolds start k t = .ok (Sampling.bucketClose.absorbs bucket t) := by
  rw [bucketHolds, hopens]
  exact Sampling.bucketClose.ask_eq_absorbs hcloses t

/-- The bucket that holds an instant is the one whose number is that of the whole steps. -/
theorem bucketHolds_eq (hstart : start.isLeap = false)
    (hstop : start.later (n * g.step) = .ok stop) (hk : k < n) (t : Instant) :
    g.bucketHolds start k t = .ok (decide ((k : Int) = g.wholeSteps start t)) := by
  obtain ⟨bucket, hpoint, hnext, hcloses⟩ := exists_bucket hstop hk
  have hopened := point_le_iff (t := t) hstart hpoint
  have hclosed := point_le_iff (t := t) hstart hnext
  rw [bucketHolds_eq_absorbs hpoint hcloses, Sampling.absorbs, ← Bool.decide_and]
  congr 1
  rw [decide_eq_decide, ← Instant.not_le, hopened, hclosed]
  omega

end Granularity

/-- Buckets laid side by side from an ordinary second on tile the time up to the end of the last:
each instant in between lies in one of them and no other, the one that a division tells, and no other
instant lies in any. Each bucket gives an answer, the one by which resampling absorbs entries. -/
theorem buckets_tile {g : Granularity} {start stop : Instant} {n : Nat}
    (hstart : start.isLeap = false) (hstop : start.later (n * g.step) = .ok stop) (t : Instant) :
    (start ≤ t ∧ t < stop →
      (∃! k, k < n ∧ g.bucketHolds start k t = .ok true) ∧
      ∀ k < n, g.bucketHolds start k t = .ok true ↔ (k : Int) = g.wholeSteps start t) ∧
    (¬ (start ≤ t ∧ t < stop) → ∀ k < n, g.bucketHolds start k t = .ok false) ∧
    ∀ k < n, ∃ bucket : Bucket, start.later (k * g.step) = .ok bucket.start ∧
      bucket.start.later g.step = .ok bucket.stop ∧
      g.bucketHolds start k t = .ok (Sampling.bucketClose.absorbs bucket t) := by
  have hbetween := Granularity.between_iff_exists_wholeSteps (t := t) hstart hstop
  have hholds : ∀ k < n,
      (g.bucketHolds start k t = .ok true ↔ (k : Int) = g.wholeSteps start t) := by
    intro k hk
    rw [Granularity.bucketHolds_eq hstart hstop hk, Except.ok.injEq, decide_eq_true_iff]
  refine ⟨fun hinside => ⟨?_, hholds⟩, fun houtside k hk => ?_, fun k hk => ?_⟩
  · obtain ⟨k, hk, hsteps⟩ := hbetween.mp hinside
    refine ⟨k, ⟨hk, (hholds k hk).mpr hsteps⟩, ?_⟩
    rintro other ⟨hother, hanswer⟩
    have hsame := (hholds other hother).mp hanswer
    omega
  · have hother : ¬ (k : Int) = g.wholeSteps start t :=
      fun hsteps => houtside (hbetween.mpr ⟨k, hk, hsteps⟩)
    rw [Granularity.bucketHolds_eq hstart hstop hk, decide_eq_false hother]
  · obtain ⟨bucket, hopens, -, hcloses⟩ := Granularity.exists_bucket hstop hk
    exact ⟨bucket, hopens, hcloses, Granularity.bucketHolds_eq_absorbs hopens hcloses t⟩

private def yearEnd : Instant := ⟨1483228679, 600000000, by decide⟩

private def newYear : Instant := ⟨1483228859, 600000000, by decide⟩

/-- The leap second, when it is nearly over. -/
private def lastMoment : Instant := ⟨1483228799, 1999999999, by decide⟩

/-- The third minute opens less than a second before the leap second and holds all of it; the end of
the third minute lies in none. -/
theorem buckets_tile_leapSecond :
    yearEnd.isLeap = false ∧
    yearEnd.later (3 * Granularity.minute.step) = .ok newYear ∧
    (yearEnd ≤ lastMoment ∧ lastMoment < newYear) ∧
    (∃! k, k < 3 ∧ Granularity.minute.bucketHolds yearEnd k lastMoment = .ok true) ∧
    Granularity.minute.bucketHolds yearEnd 2 lastMoment = .ok true ∧
    ∀ k < 3, Granularity.minute.bucketHolds yearEnd k newYear = .ok false := by
  have hlater : yearEnd.later (3 * Granularity.minute.step) = .ok newYear :=
    Instant.later_eq_ok_iff.mpr (by decide)
  have hinside : yearEnd ≤ lastMoment ∧ lastMoment < newYear := by decide
  obtain ⟨hunique, hsteps⟩ := (buckets_tile rfl hlater lastMoment).1 hinside
  refine ⟨rfl, hlater, hinside, hunique, (hsteps 2 (by decide)).mpr (by decide), ?_⟩
  exact (buckets_tile rfl hlater newYear).2.1 (by decide)

end CounterBoard
