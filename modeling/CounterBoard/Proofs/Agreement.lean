import CounterBoard.Proofs.Resampling

/-!
Two windows over one log. What a point shows is given by the log and by the time of the point alone,
so two windows agree wherever both have a point: a grid of hours shows every sixtieth point of the
grid of minutes, and a shorter window is the end of a longer one. In buckets this holds for sorted
logs, and a bucket of an hour shows what its last minute shows.
-/

set_option autoImplicit false
set_option relaxedAutoImplicit false

namespace CounterBoard

open CounterBoard.Time

/-- Points of two series at the same instant have the same values. -/
def Series.Agree (a b : Series) : Prop :=
  ∀ p ∈ a.points, ∀ q ∈ b.points, p.timestamp = q.timestamp → p.values = q.values

def Log.pointAt (log : Log) (t : Instant) : GridPoint :=
  ⟨t, log.rowAfter (log.leading (· ≤ t))⟩

namespace Window

variable {selection : Selection} {now : Instant}

theorem exists_of_resample_eq_ok {log : Log} {mode : Sampling} {series : Series}
    (h : resample log selection now mode = .ok series) :
    ∃ w : Window selection now, series = w.series log mode := by
  obtain ⟨w⟩ := (resample_isOk_iff log selection now mode).mp ⟨series, h⟩
  rw [w.resample_eq log mode] at h
  exact ⟨w, (Except.ok.inj h).symm⟩

theorem points_series_pointInTime (w : Window selection now) (log : Log) :
    (w.series log .pointInTime).points = w.points.map log.pointAt := by
  simp only [series, points, List.map_map]
  refine List.map_congr_left fun k _ => ?_
  rw [w.reach_pointInTime]
  rfl

theorem mem_points_series_bucketClose (w : Window selection now) {log : Log}
    (hsorted : log.isSorted = true) {p : GridPoint}
    (hp : p ∈ (w.series log .bucketClose).points) :
    ∃ stop, p.timestamp.later selection.granularity.step = .ok stop ∧
      p.values = log.rowAfter (log.leading (· < stop)) := by
  obtain ⟨k, hk, rfl⟩ := List.mem_map.mp hp
  refine ⟨w.point (k + 1), w.later_point (List.mem_range.mp hk), ?_⟩
  change log.rowAfter (w.reach log .bucketClose (k + 1)) = _
  rw [w.reach_bucketClose_of_isSorted hsorted]

/-- How many points of the grid come before the window of another selection. -/
def lead (selection other : Selection) : Nat :=
  selection.gridLength - (⟨selection.granularity, other.lookback⟩ : Selection).gridLength

theorem lead_mul_step (selection other : Selection) :
    lead selection other * selection.granularity.step =
      selection.lookback.span - other.lookback.span := by
  have hother := (⟨selection.granularity, other.lookback⟩ : Selection).gridLength_mul_step
  simp only at hother
  rw [lead, Nat.sub_mul, selection.gridLength_mul_step, hother]

theorem lead_le_gridLength (selection other : Selection) :
    lead selection other ≤ selection.gridLength :=
  Nat.sub_le _ _

/-- The window of another selection at the same instant that looks back no further. -/
def narrow (w : Window selection now) (other : Selection)
    (hspan : other.lookback.span ≤ selection.lookback.span) : Window other now where
  start := w.point (lead selection other)
  stop := w.stop
  earlier_eq := by
    obtain ⟨hseconds, hnanos⟩ := Instant.earlier_eq_ok_iff.mp w.earlier_eq
    rw [Instant.earlier_eq_ok_iff, w.point_seconds (lead_le_gridLength _ _), lead_mul_step]
    exact ⟨by omega, hnanos⟩
  later_eq := by
    have hstop := w.stop_seconds
    rw [Instant.later_eq_ok_iff, w.point_seconds (lead_le_gridLength _ _), lead_mul_step]
    exact ⟨by omega, w.stop_nanos.trans w.fraction_start.symm⟩

theorem point_narrow (w : Window selection now) (other : Selection)
    (hspan : other.lookback.span ≤ selection.lookback.span) {j k : Nat}
    (hj : j ≤ selection.gridLength) (hk : k ≤ other.gridLength)
    (hplace : j * selection.granularity.step =
      lead selection other * selection.granularity.step + k * other.granularity.step) :
    (w.narrow other hspan).point k = w.point j := by
  apply Instant.ext
  · rw [(w.narrow other hspan).point_seconds hk, w.point_seconds hj, hplace]
    change (w.point (lead selection other)).seconds + _ = _
    rw [w.point_seconds (lead_le_gridLength _ _)]
    omega
  · rfl

theorem points_narrow_minute (lookback : Lookback) {now : Instant}
    (w : Window ⟨.minute, lookback⟩ now) (k : Nat) :
    (w.narrow ⟨.hour, lookback⟩ (Nat.le_refl _)).points[k]? = w.points[60 * k]? := by
  have hlength : (⟨.minute, lookback⟩ : Selection).gridLength =
      60 * (⟨.hour, lookback⟩ : Selection).gridLength := by
    cases lookback <;> rfl
  by_cases hk : k < (⟨.hour, lookback⟩ : Selection).gridLength
  · have hlead : lead ⟨.minute, lookback⟩ ⟨.hour, lookback⟩ = 0 := by
      cases lookback <;> rfl
    rw [getElem?_points _ hk, getElem?_points w (k := 60 * k) (by omega)]
    refine congrArg some (w.point_narrow _ _ (by omega) (Nat.le_of_lt hk) ?_)
    rw [hlead]
    simp only [Granularity.step]
    omega
  · rw [getElem?_points_of_le _ (by omega), getElem?_points_of_le w (by omega)]

theorem points_narrow_suffix (granularity : Granularity) {long short : Lookback} {now : Instant}
    (w : Window ⟨granularity, long⟩ now) (hspan : short.span ≤ long.span) :
    (w.narrow ⟨granularity, short⟩ hspan).points <:+ w.points := by
  have hshorter : (⟨granularity, short⟩ : Selection).gridLength ≤
      (⟨granularity, long⟩ : Selection).gridLength := by
    have hlong := (⟨granularity, long⟩ : Selection).gridLength_mul_step
    have hshort := (⟨granularity, short⟩ : Selection).gridLength_mul_step
    apply Nat.le_of_mul_le_mul_right _ granularity.step_pos
    rw [hlong, hshort]
    exact hspan
  have hlength : lead ⟨granularity, long⟩ ⟨granularity, short⟩ +
      (⟨granularity, short⟩ : Selection).gridLength =
        (⟨granularity, long⟩ : Selection).gridLength :=
    Nat.sub_add_cancel hshorter
  have hdrop : (w.narrow ⟨granularity, short⟩ hspan).points =
      w.points.drop (lead ⟨granularity, long⟩ ⟨granularity, short⟩) := by
    apply List.ext_getElem?
    intro k
    rw [List.getElem?_drop]
    by_cases hk : k < (⟨granularity, short⟩ : Selection).gridLength
    · rw [getElem?_points _ hk, getElem?_points w (by omega)]
      refine congrArg some (w.point_narrow _ _ (by omega) (Nat.le_of_lt hk) ?_)
      exact Nat.add_mul _ _ _
    · rw [getElem?_points_of_le _ (by omega), getElem?_points_of_le w (by omega)]
  rw [hdrop]
  exact List.drop_suffix _ _

end Window

section Runs

variable {log : Log} {selection other : Selection} {now then_ : Instant} {a b : Series}

theorem agree_pointInTime (ha : resample log selection now .pointInTime = .ok a)
    (hb : resample log other then_ .pointInTime = .ok b) : a.Agree b := by
  have hshows : ∀ {s : Selection} {t : Instant} {series : Series},
      resample log s t .pointInTime = .ok series → ∀ p ∈ series.points,
        p = log.pointAt p.timestamp := by
    intro s t series h p hp
    obtain ⟨w, rfl⟩ := Window.exists_of_resample_eq_ok h
    rw [w.points_series_pointInTime] at hp
    obtain ⟨g, -, rfl⟩ := List.mem_map.mp hp
    rfl
  intro p hp q hq htime
  rw [hshows ha p hp, hshows hb q hq, htime]

theorem values_eq_of_same_end (hsorted : log.isSorted = true)
    (ha : resample log selection now .bucketClose = .ok a)
    (hb : resample log other then_ .bucketClose = .ok b) {p q : GridPoint} (hp : p ∈ a.points)
    (hq : q ∈ b.points) (hend : p.timestamp.later selection.granularity.step =
      q.timestamp.later other.granularity.step) : p.values = q.values := by
  obtain ⟨w, rfl⟩ := Window.exists_of_resample_eq_ok ha
  obtain ⟨v, rfl⟩ := Window.exists_of_resample_eq_ok hb
  obtain ⟨stop, hstop, hvalues⟩ := w.mem_points_series_bucketClose hsorted hp
  obtain ⟨stop', hstop', hvalues'⟩ := v.mem_points_series_bucketClose hsorted hq
  rw [hstop, hstop'] at hend
  cases hend
  rw [hvalues, hvalues']

end Runs

theorem Instant.later_later {t u : Instant} {first second : Nat} (h : t.later first = .ok u) :
    u.later second = t.later (first + second) := by
  obtain ⟨hseconds, hnanos⟩ := Instant.later_eq_ok_iff.mp h
  rw [Instant.later, Instant.later, hseconds, Instant.fraction_eq_of_nanos_eq hnanos,
    Int.natCast_add, Int.add_assoc]

/-- What a point shows does not depend on the window in which it stands. -/
theorem resample_agrees_across_windows (log : Log) :
    (∀ {selection other : Selection} {now then_ : Instant} {a b : Series},
      resample log selection now .pointInTime = .ok a →
      resample log other then_ .pointInTime = .ok b → a.Agree b) ∧
    (∀ {lookback : Lookback} {now : Instant} {minutes : Series},
      resample log ⟨.minute, lookback⟩ now .pointInTime = .ok minutes →
      ∃ hours, resample log ⟨.hour, lookback⟩ now .pointInTime = .ok hours ∧
        ∀ k, hours.points[k]? = minutes.points[60 * k]?) ∧
    (∀ {granularity : Granularity} {long short : Lookback} {now : Instant} {longer : Series},
      short.span ≤ long.span → resample log ⟨granularity, long⟩ now .pointInTime = .ok longer →
      ∃ shorter, resample log ⟨granularity, short⟩ now .pointInTime = .ok shorter ∧
        shorter.points <:+ longer.points) ∧
    (log.isSorted = true → ∀ {selection other : Selection} {now then_ : Instant} {a b : Series},
      resample log selection now .bucketClose = .ok a →
      resample log other then_ .bucketClose = .ok b →
        (selection.granularity = other.granularity → a.Agree b) ∧
        (selection.granularity = .hour → other.granularity = .minute →
          ∀ p ∈ a.points, ∀ q ∈ b.points, p.timestamp.later (59 * 60) = .ok q.timestamp →
            p.values = q.values)) := by
  refine ⟨agree_pointInTime, ?_, ?_, ?_⟩
  · intro lookback now minutes h
    obtain ⟨w, rfl⟩ := Window.exists_of_resample_eq_ok h
    refine ⟨_, (w.narrow ⟨.hour, lookback⟩ (Nat.le_refl _)).resample_eq log .pointInTime, ?_⟩
    intro k
    rw [Window.points_series_pointInTime, Window.points_series_pointInTime, List.getElem?_map,
      List.getElem?_map, w.points_narrow_minute lookback k]
  · intro granularity long short now longer hspan h
    obtain ⟨w, rfl⟩ := Window.exists_of_resample_eq_ok h
    refine ⟨_, (w.narrow ⟨granularity, short⟩ hspan).resample_eq log .pointInTime, ?_⟩
    rw [Window.points_series_pointInTime, Window.points_series_pointInTime]
    exact (w.points_narrow_suffix granularity hspan).map log.pointAt
  · intro hsorted selection other now then_ a b ha hb
    constructor
    · intro hgranularity p hp q hq htime
      apply values_eq_of_same_end hsorted ha hb hp hq
      rw [htime, hgranularity]
    · intro hhour hminute p hp q hq htime
      apply values_eq_of_same_end hsorted ha hb hp hq
      rw [hhour, hminute, Instant.later_later htime]
      rfl

private def hourWindow : Window ⟨.hour, .fiveHours⟩ ⟨1720094400, 0, by decide⟩ where
  start := ⟨1720076400, 0, by decide⟩
  stop := ⟨1720094400, 0, by decide⟩
  earlier_eq := Instant.earlier_eq_ok_iff.mpr (by decide)
  later_eq := Instant.later_eq_ok_iff.mpr (by decide)

/-- The minutes of an hour that begins before noon and ends after it. -/
private def minuteWindow : Window ⟨.minute, .oneHour⟩ ⟨1720097340, 0, by decide⟩ where
  start := ⟨1720093740, 0, by decide⟩
  stop := ⟨1720097340, 0, by decide⟩
  earlier_eq := Instant.earlier_eq_ok_iff.mpr (by decide)
  later_eq := Instant.later_eq_ok_iff.mpr (by decide)

/-- An entry long before both windows, and two in the last minute before noon. -/
private def noonLog : Log where
  times := [⟨1719986400, 0, by decide⟩, ⟨1720094341, 0, by decide⟩, ⟨1720094399, 7, by decide⟩]
  counters := [⟨.connections, .series [4, 5, 6]⟩, ⟨.torrents, .constant 2⟩]
  aligned := by decide

private def lastHourWindow : Window ⟨.hour, .oneHour⟩ ⟨1720094400, 0, by decide⟩ :=
  hourWindow.narrow ⟨.hour, .oneHour⟩ (by decide)

theorem resample_agrees_at_noon :
    (noonLog.isSorted = true ∧ ∃ hours lastHour minutes,
        resample noonLog ⟨.hour, .fiveHours⟩ ⟨1720094400, 0, by decide⟩ .bucketClose = .ok hours ∧
        resample noonLog ⟨.hour, .oneHour⟩ ⟨1720094400, 0, by decide⟩ .bucketClose =
          .ok lastHour ∧ hours.Agree lastHour ∧
        resample noonLog ⟨.minute, .oneHour⟩ ⟨1720097340, 0, by decide⟩ .bucketClose =
          .ok minutes ∧
        ∃ p ∈ hours.points, ∃ q ∈ minutes.points,
          p.timestamp.later (59 * 60) = .ok q.timestamp ∧ p.values = q.values) ∧
      ∃ hours lastHour minutes sparse,
        resample noonLog ⟨.hour, .fiveHours⟩ ⟨1720094400, 0, by decide⟩ .pointInTime = .ok hours ∧
        resample noonLog ⟨.hour, .oneHour⟩ ⟨1720094400, 0, by decide⟩ .pointInTime =
          .ok lastHour ∧ lastHour.points <:+ hours.points ∧
        resample noonLog ⟨.minute, .oneHour⟩ ⟨1720097340, 0, by decide⟩ .pointInTime =
          .ok minutes ∧ hours.Agree minutes ∧
        resample noonLog ⟨.hour, .oneHour⟩ ⟨1720097340, 0, by decide⟩ .pointInTime = .ok sparse ∧
        sparse.points[0]? = minutes.points[60 * 0]? := by
  obtain ⟨hpoints, hhours, hshort, hbuckets⟩ := resample_agrees_across_windows noonLog
  have hsorted : noonLog.isSorted = true := by decide
  constructor
  · have hhour := hourWindow.resample_eq noonLog .bucketClose
    have hlast := lastHourWindow.resample_eq noonLog .bucketClose
    have hminute := minuteWindow.resample_eq noonLog .bucketClose
    have hp : ⟨hourWindow.point 4, noonLog.rowAfter (hourWindow.reach noonLog .bucketClose 5)⟩ ∈
        (hourWindow.series noonLog .bucketClose).points :=
      List.mem_map.mpr ⟨4, by decide, rfl⟩
    have hq : ⟨minuteWindow.point 10,
        noonLog.rowAfter (minuteWindow.reach noonLog .bucketClose 11)⟩ ∈
          (minuteWindow.series noonLog .bucketClose).points :=
      List.mem_map.mpr ⟨10, by decide, rfl⟩
    have htime : (hourWindow.point 4).later (59 * 60) = .ok (minuteWindow.point 10) :=
      Instant.later_eq_ok_iff.mpr (by decide)
    refine ⟨hsorted, _, _, _, hhour, hlast, (hbuckets hsorted hhour hlast).1 rfl, hminute, _, hp,
      _, hq, htime, ?_⟩
    exact (hbuckets hsorted hhour hminute).2 rfl rfl _ hp _ hq htime
  · have hhour := hourWindow.resample_eq noonLog .pointInTime
    have hminute := minuteWindow.resample_eq noonLog .pointInTime
    have hspan : Lookback.oneHour.span ≤ Lookback.fiveHours.span := by decide
    obtain ⟨lastHour, hlast, hsuffix⟩ := hshort hspan hhour
    obtain ⟨sparse, hsparse, hsixtieth⟩ := hhours hminute
    exact ⟨_, lastHour, _, sparse, hhour, hlast, hsuffix, hminute, hpoints hhour hminute, hsparse,
      hsixtieth 0⟩

end CounterBoard
