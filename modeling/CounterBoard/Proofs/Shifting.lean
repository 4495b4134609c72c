import CounterBoard.Proofs.GridShape
import Mathlib.Data.List.Forall2

/-!
A log moved in time. Resampling compares instants and adds whole seconds to them, and never asks
where on the time line they lie. So a log of ordinary seconds, moved as far as the instant at which
it is looked at, shows the same values at points that have moved with it, down to the nanosecond.
-/

set_option autoImplicit false
set_option relaxedAutoImplicit false

namespace CounterBoard

open CounterBoard.Time

namespace Time.Instant

/-- The nanoseconds from the Unix epoch up to an instant of an ordinary second. -/
def sinceEpoch (t : Instant) : Int :=
  t.seconds * nanosPerSecond + t.nanos

/-- The instant so many nanoseconds after one of an ordinary second, or before it if the number is
negative. -/
def moved? (t : Instant) (span : Int) : Option Instant :=
  ofParts? ((t.sinceEpoch + span) / nanosPerSecond)
    ((t.sinceEpoch + span) % nanosPerSecond).toNat

structure Apart (span : Int) (t u : Instant) : Prop where
  nanos_left : t.nanos < nanosPerSecond
  nanos_right : u.nanos < nanosPerSecond
  sinceEpoch_eq : u.sinceEpoch = t.sinceEpoch + span

variable {s t u : Instant} {span : Int}

theorem moved?_eq_some_iff (ht : t.isLeap = false) : t.moved? span = some u ↔ Apart span t u := by
  have hnanos := isLeap_eq_false_iff.mp ht
  rw [moved?, ofParts?_eq_some_iff]
  constructor
  · rintro ⟨hseconds, hrest⟩
    refine ⟨hnanos, ?_, ?_⟩
    · rw [nanosPerSecond] at *
      omega
    · rw [sinceEpoch, hseconds, hrest]
      simp only [nanosPerSecond]
      omega
  · rintro ⟨-, hordinary, hspan⟩
    rw [← hspan, sinceEpoch]
    simp only [nanosPerSecond] at *
    omega

theorem later_eq_ok_iff_apart {seconds : Nat} (ht : t.isLeap = false) :
    t.later seconds = .ok u ↔ Apart (seconds * nanosPerSecond) t u := by
  have hnanos := isLeap_eq_false_iff.mp ht
  rw [later_eq_ok_iff, fraction_eq_nanos ht]
  constructor
  · rintro ⟨hseconds, hkept⟩
    refine ⟨hnanos, by rwa [hkept], ?_⟩
    rw [sinceEpoch, sinceEpoch, hseconds, hkept]
    simp only [nanosPerSecond]
    omega
  · rintro ⟨-, hordinary, hspan⟩
    simp only [sinceEpoch, nanosPerSecond] at *
    omega

theorem earlier_eq_ok_iff_apart {seconds : Nat} (ht : t.isLeap = false) :
    t.earlier seconds = .ok u ↔ Apart (seconds * nanosPerSecond) u t := by
  have hnanos := isLeap_eq_false_iff.mp ht
  rw [earlier_eq_ok_iff, ht, fraction_eq_nanos ht, if_neg Bool.false_ne_true]
  constructor
  · rintro ⟨hseconds, hkept⟩
    refine ⟨by rwa [hkept], hnanos, ?_⟩
    rw [sinceEpoch, sinceEpoch, hseconds, hkept]
    simp only [nanosPerSecond]
    omega
  · rintro ⟨hordinary, -, hspan⟩
    simp only [sinceEpoch, nanosPerSecond] at *
    omega

namespace Apart

variable {s' t' u' : Instant} {d : Int}

theorem lt_iff (hs : Apart d s s') (ht : Apart d t t') : s' < t' ↔ s < t := by
  obtain ⟨hs₁, hs₂, hs₃⟩ := hs
  obtain ⟨ht₁, ht₂, ht₃⟩ := ht
  rw [Instant.lt_iff, Instant.lt_iff]
  simp only [sinceEpoch, nanosPerSecond] at *
  omega

theorem le_iff (hs : Apart d s s') (ht : Apart d t t') : s' ≤ t' ↔ s ≤ t := by
  rw [← not_iff_not, Instant.not_le, Instant.not_le]
  exact ht.lt_iff hs

theorem ends (h : Apart span t u) (ht : Apart d t t') (h' : Apart span t' u') : Apart d u u' := by
  have hmoved := ht.sinceEpoch_eq
  have hleft := h.sinceEpoch_eq
  have hright := h'.sinceEpoch_eq
  exact ⟨h.nanos_right, h'.nanos_right, by omega⟩

theorem sides (h : Apart span t u) (ht : Apart d t t') (hu : Apart d u u') : Apart span t' u' := by
  have hleft := ht.sinceEpoch_eq
  have hright := hu.sinceEpoch_eq
  have hspan := h.sinceEpoch_eq
  exact ⟨ht.nanos_right, hu.nanos_right, by omega⟩

end Apart

end Time.Instant

theorem length_takeWhile_of_forall₂ {α β : Type} {R : α → β → Prop} {p : α → Bool} {q : β → Bool}
    (hpq : ∀ a b, R a b → q b = p a) {l : List α} {m : List β} (h : List.Forall₂ R l m) :
    (m.takeWhile q).length = (l.takeWhile p).length := by
  induction h with
  | nil => rfl
  | @cons a b l m hab _ ih =>
    rw [List.takeWhile_cons, List.takeWhile_cons, hpq a b hab]
    split
    · rw [List.length_cons, List.length_cons, ih]
    · rfl

structure Log.MovedBy (span : Int) (log moved : Log) : Prop where
  times : List.Forall₂ (Instant.Apart span) log.times moved.times
  counters : moved.counters = log.counters

theorem Log.MovedBy.of_map {log moved : Log} {span : Int}
    (hlog : ∀ t ∈ log.times, t.isLeap = false)
    (htimes : moved.times.map some = log.times.map (·.moved? span))
    (hcounters : moved.counters = log.counters) : log.MovedBy span moved := by
  refine ⟨?_, hcounters⟩
  have hmoved : List.Forall₂ (fun t u => t.moved? span = some u) log.times moved.times := by
    have hsame : List.Forall₂ Eq (log.times.map (·.moved? span)) (moved.times.map some) := by
      rw [htimes, List.forall₂_eq_eq_eq]
    simpa only [List.forall₂_map_left_iff, List.forall₂_map_right_iff] using hsame
  refine ((List.forall₂_and_left _ _).mpr ⟨hlog, hmoved⟩).imp ?_
  rintro t u ⟨ht, hu⟩
  exact (Instant.moved?_eq_some_iff ht).mp hu

theorem Log.MovedBy.rowAfter_eq {log moved : Log} {span : Int} (h : log.MovedBy span moved)
    (n : Nat) : moved.rowAfter n = log.rowAfter n := by
  rw [rowAfter, rowAfter, h.counters]

namespace Window

def upTo {selection : Selection} {now start : Instant} (hnow : now.isLeap = false)
    (hstart : now.earlier selection.lookback.span = .ok start) : Window selection now where
  start := start
  stop := now
  earlier_eq := hstart
  later_eq := by
    have hapart := (Instant.earlier_eq_ok_iff_apart hnow).mp hstart
    have hordinary : start.isLeap = false := Instant.isLeap_eq_false_iff.mpr hapart.nanos_left
    exact (Instant.later_eq_ok_iff_apart hordinary).mpr hapart

variable {selection : Selection} {now movedNow : Instant} (w : Window selection now)
  (v : Window selection movedNow) {d : Int}

theorem apart_point (h : Instant.Apart d w.start v.start) {k : Nat}
    (hk : k ≤ selection.gridLength) : Instant.Apart d (w.point k) (v.point k) := by
  exact ((Instant.later_eq_ok_iff_apart w.isLeap_start).mp (w.later_start hk)).ends h
    ((Instant.later_eq_ok_iff_apart v.isLeap_start).mp (v.later_start hk))

theorem absorbs_of_apart (h : Instant.Apart d w.start v.start) (mode : Sampling) {k : Nat}
    (hk : k < selection.gridLength) {t u : Instant} (htu : Instant.Apart d t u) :
    mode.absorbs (v.bucket k) u = mode.absorbs (w.bucket k) t := by
  have hpoint := w.apart_point v h (Nat.le_of_lt hk)
  have hnext := w.apart_point v h (k := k + 1) hk
  cases mode with
  | pointInTime => exact decide_eq_decide.mpr (htu.le_iff hpoint)
  | bucketClose =>
    change (decide (v.point k ≤ u) && decide (u < v.point (k + 1))) =
      (decide (w.point k ≤ t) && decide (t < w.point (k + 1)))
    rw [decide_eq_decide.mpr (hpoint.le_iff htu), decide_eq_decide.mpr (htu.lt_iff hnext)]

theorem reach_of_apart (h : Instant.Apart d w.start v.start) {log moved : Log}
    (hmoved : log.MovedBy d moved) (mode : Sampling) {k : Nat} (hk : k ≤ selection.gridLength) :
    v.reach moved mode k = w.reach log mode k := by
  induction k with
  | zero =>
    rw [reach, reach, Log.leading_eq_length_takeWhile, Log.leading_eq_length_takeWhile]
    exact length_takeWhile_of_forall₂ (fun t u htu => decide_eq_decide.mpr (htu.lt_iff h))
      hmoved.times
  | succ k ih =>
    rw [reach, reach, ih (Nat.le_of_succ_le hk)]
    congr 1
    exact length_takeWhile_of_forall₂ (fun t u htu => w.absorbs_of_apart v h mode hk htu)
      (List.forall₂_drop _ hmoved.times)

end Window

/-- A log of ordinary seconds moves as a whole: at an instant moved as far as its entries, it shows
the same values at points moved as far. -/
theorem resample_moved {log moved : Log} {selection : Selection}
    {now movedNow start movedStart : Instant} {mode : Sampling} {span : Int}
    (hlog : ∀ t ∈ log.times, t.isLeap = false) (hnow : now.isLeap = false)
    (htimes : moved.times.map some = log.times.map (·.moved? span))
    (hcounters : moved.counters = log.counters) (hmovedNow : now.moved? span = some movedNow)
    (hstart : now.earlier selection.lookback.span = .ok start)
    (hmovedStart : start.moved? span = some movedStart) :
    ∃ series movedSeries, resample log selection now mode = .ok series ∧
      resample moved selection movedNow mode = .ok movedSeries ∧
      movedSeries.kinds = series.kinds ∧ movedSeries.consumed = series.consumed ∧
      movedSeries.points.map GridPoint.values = series.points.map GridPoint.values ∧
      movedSeries.timestamps.map some = series.timestamps.map (·.moved? span) := by
  have hapart := (Instant.earlier_eq_ok_iff_apart hnow).mp hstart
  have hstartOrdinary : start.isLeap = false := Instant.isLeap_eq_false_iff.mpr hapart.nanos_left
  have hnows := (Instant.moved?_eq_some_iff hnow).mp hmovedNow
  have hstarts := (Instant.moved?_eq_some_iff hstartOrdinary).mp hmovedStart
  have hmovedOrdinary : movedNow.isLeap = false :=
    Instant.isLeap_eq_false_iff.mpr hnows.nanos_right
  have hmovedEarlier : movedNow.earlier selection.lookback.span = .ok movedStart :=
    (Instant.earlier_eq_ok_iff_apart hmovedOrdinary).mpr (hapart.sides hstarts hnows)
  have hmoved := Log.MovedBy.of_map hlog htimes hcounters
  let w : Window selection now := .upTo hnow hstart
  let v : Window selection movedNow := .upTo hmovedOrdinary hmovedEarlier
  have hreach : ∀ k ≤ selection.gridLength, v.reach moved mode k = w.reach log mode k :=
    fun k hk => w.reach_of_apart v hstarts hmoved mode hk
  refine ⟨w.series log mode, v.series moved mode, w.resample_eq log mode,
    v.resample_eq moved mode, ?_, hreach _ (Nat.le_refl _), ?_, ?_⟩
  · rw [Window.series, Window.series, Log.kinds, Log.kinds, hcounters]
  · simp only [Window.series, List.map_map]
    refine List.map_congr_left fun k hk => ?_
    simp only [Function.comp_apply, hmoved.rowAfter_eq, hreach (k + 1) (List.mem_range.mp hk)]
  · rw [Window.timestamps_series, Window.timestamps_series, Window.points, Window.points,
      List.map_map, List.map_map]
    refine List.map_congr_left fun k hk => ?_
    have hpoint := w.apart_point v hstarts (Nat.le_of_lt (List.mem_range.mp hk))
    exact ((Instant.moved?_eq_some_iff (w.isLeap_point k)).mpr hpoint).symm

private def epochLog : Log where
  times := [⟨0, 5, by decide⟩, ⟨-60, 0, by decide⟩]
  counters := [⟨.connections, .series [4, 5]⟩, ⟨.torrents, .constant 2⟩]
  aligned := by decide

private def earlierLog : Log where
  times := [⟨-1, 999999995, by decide⟩, ⟨-61, 999999990, by decide⟩]
  counters := [⟨.connections, .series [4, 5]⟩, ⟨.torrents, .constant 2⟩]
  aligned := by decide

theorem resample_moved_acrossEpoch :
    (∀ t ∈ epochLog.times, t.isLeap = false) ∧
    earlierLog.times.map some = epochLog.times.map (·.moved? (-10)) ∧
    (⟨1800, 3, by decide⟩ : Instant).moved? (-10) = some ⟨1799, 999999993, by decide⟩ ∧
    ∃ series movedSeries,
      resample epochLog ⟨.minute, .oneHour⟩ ⟨1800, 3, by decide⟩ .bucketClose = .ok series ∧
      resample earlierLog ⟨.minute, .oneHour⟩ ⟨1799, 999999993, by decide⟩ .bucketClose =
        .ok movedSeries ∧
      movedSeries.consumed = series.consumed ∧
      movedSeries.points.map GridPoint.values = series.points.map GridPoint.values ∧
      movedSeries.timestamps.map some = series.timestamps.map (·.moved? (-10)) := by
  have hlog : ∀ t ∈ epochLog.times, t.isLeap = false := by decide
  have htimes : earlierLog.times.map some = epochLog.times.map (·.moved? (-10)) := by decide
  have hnow : (⟨1800, 3, by decide⟩ : Instant).moved? (-10) =
      some ⟨1799, 999999993, by decide⟩ := by decide
  have hstart : Instant.earlier ⟨1800, 3, by decide⟩ Lookback.oneHour.span =
      .ok ⟨-1800, 3, by decide⟩ := Instant.earlier_eq_ok_iff.mpr (by decide)
  have hmovedStart : (⟨-1800, 3, by decide⟩ : Instant).moved? (-10) =
      some ⟨-1801, 999999993, by decide⟩ := by decide
  obtain ⟨series, movedSeries, hseries, hmoved, -, hconsumed, hvalues, htimestamps⟩ :=
    @resample_moved epochLog earlierLog ⟨.minute, .oneHour⟩ _ _ _ _ .bucketClose (-10) hlog rfl
      htimes rfl hnow hstart hmovedStart
  exact ⟨hlog, htimes, hnow, series, movedSeries, hseries, hmoved, hconsumed, hvalues, htimestamps⟩

end CounterBoard
