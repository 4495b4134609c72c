import CounterBoard.Proofs.Drawing

/-!
The shape of what is drawn. The points of a series stand one step apart and cover the lookback, also
where it ends in a leap second: there the last point is still an ordinary second before that end. The
length of the grid is worked out by a division, apart from the comparisons that end the grid, and
the two agree. Every point has a value for each counter, and every line a value for each point.
-/

set_option autoImplicit false
set_option relaxedAutoImplicit false

namespace CounterBoard

open CounterBoard.Time

/-- So many instants from a start on, each one step after the one in front of it, all in ordinary
seconds and before an end. -/
structure EvenlySpaced (step count : Nat) (start now : Instant) (times : List Instant) :
    Prop where
  length_eq : times.length = count
  head?_eq : times.head? = some start
  later_start : ∀ k t, times[k]? = some t → start.later (k * step) = .ok t
  later_previous : ∀ k t u, times[k]? = some t → times[k + 1]? = some u → t.later step = .ok u
  isLeap_eq : ∀ t ∈ times, t.isLeap = false
  lt_now : ∀ t ∈ times, t < now

theorem Selection.gridLength_eq_div (s : Selection) :
    s.gridLength = s.lookback.span / s.granularity.step := by
  rw [← s.gridLength_mul_step, Nat.mul_div_cancel _ s.granularity.step_pos]

namespace Window

variable {selection : Selection} {now : Instant} (w : Window selection now)

theorem later_start {k : Nat} (hk : k ≤ selection.gridLength) :
    w.start.later (k * selection.granularity.step) = .ok (w.point k) := by
  rw [Instant.later_eq_ok_iff]
  exact ⟨w.point_seconds hk, w.fraction_start.symm⟩

theorem isLeap_point (k : Nat) : (w.point k).isLeap = false :=
  w.isLeap_start

theorem getElem?_points_eq_some {k : Nat} {t : Instant} (h : w.points[k]? = some t) :
    k < selection.gridLength ∧ t = w.point k := by
  by_cases hk : k < selection.gridLength
  · rw [w.getElem?_points hk] at h
    exact ⟨hk, (Option.some.inj h).symm⟩
  · rw [w.getElem?_points_of_le (Nat.not_lt.mp hk)] at h
    cases h

theorem evenlySpaced_points :
    EvenlySpaced selection.granularity.step selection.gridLength w.start now w.points := by
  constructor
  · simp [points]
  · rw [List.head?_eq_getElem?, w.getElem?_points selection.gridLength_pos, w.point_zero]
  · intro k t ht
    obtain ⟨hk, rfl⟩ := w.getElem?_points_eq_some ht
    exact w.later_start (Nat.le_of_lt hk)
  · intro k t u ht hu
    obtain ⟨hk, rfl⟩ := w.getElem?_points_eq_some ht
    obtain ⟨-, rfl⟩ := w.getElem?_points_eq_some hu
    exact w.later_point hk
  · intro t ht
    obtain ⟨k, -, rfl⟩ := List.mem_map.mp ht
    exact w.isLeap_point k
  · intro t ht
    obtain ⟨k, hk, rfl⟩ := List.mem_map.mp ht
    exact w.point_lt_now (List.mem_range.mp hk)

theorem map_some_line {log : Log} (mode : Sampling) {index : Nat} {c : Counter}
    (hc : log.counters[index]? = some c) :
    (w.line log mode c).map some = (w.series log mode).points.map fun p => p.values[index]? := by
  simp only [line, series, List.map_map]
  refine List.map_congr_left fun k _ => ?_
  simp [Log.rowAfter, hc]

end Window

/-- A series spans its lookback with as many points as the length of the grid says, and its chart
has a line over all of them for each counter. -/
theorem resample_spans_lookback (log : Log) {selection : Selection} {now start stop : Instant}
    (hstart : now.earlier selection.lookback.span = .ok start)
    (hstop : start.later selection.lookback.span = .ok stop) (mode : Sampling)
    (style : ChartStyle) :
    ∃ series chart, resample log selection now mode = .ok series ∧
      Chart.ofSeries series style = .ok chart ∧
      selection.gridLength = selection.lookback.span / selection.granularity.step ∧
      series.points.length = selection.gridLength ∧
      EvenlySpaced selection.granularity.step selection.gridLength start now series.timestamps ∧
      series.kinds = log.kinds ∧
      (∀ p ∈ series.points, ∃ entries ≤ log.length,
        p.values = log.counters.map fun c => c.after entries) ∧
      chart.labels = series.timestamps ∧
      chart.datasets.length = log.counters.length ∧
      ∀ (index : Nat) (c : Counter), log.counters[index]? = some c →
        ∃ data, chart.datasets[index]? = some (style.dataset c.kind data) ∧
          data.length = selection.gridLength ∧
          data.map some = series.points.map fun p => p.values[index]? := by
  let w : Window selection now := ⟨start, stop, hstart, hstop⟩
  have htimes : (w.series log mode).timestamps = w.points := w.timestamps_series log mode
  refine ⟨w.series log mode, w.chart log mode style, w.resample_eq log mode,
    w.ofSeries_series log mode style, selection.gridLength_eq_div, ?_, ?_, rfl, ?_, htimes.symm,
    ?_, ?_⟩
  · simp [Window.series]
  · rw [htimes]
    exact w.evenlySpaced_points
  · intro p hp
    obtain ⟨k, -, rfl⟩ := List.mem_map.mp hp
    exact ⟨_, w.reach_le_length log mode (k + 1), rfl⟩
  · simp [Window.chart]
  · intro index c hc
    refine ⟨w.line log mode c, ?_, ?_, w.map_some_line mode hc⟩
    · rw [Window.chart, List.getElem?_map, hc]
      rfl
    · simp [Window.line]

private def eveLog : Log where
  times := [⟨1341097200, 0, by decide⟩, ⟨8210266876799, 9, by decide⟩]
  counters := [⟨.completed, .series [3, 4]⟩, ⟨.torrents, .constant 2⟩]
  aligned := by decide

/-- The hour before the middle of a leap second has sixty minutes like any other. -/
theorem resample_spans_leapHour :
    ∃ (now start stop : Instant) (series : Series) (chart : Chart), now.isLeap = true ∧
      now.earlier Lookback.oneHour.span = .ok start ∧
      start.later Lookback.oneHour.span = .ok stop ∧
      resample eveLog ⟨.minute, .oneHour⟩ now .bucketClose = .ok series ∧
      Chart.ofSeries series .standard = .ok chart ∧ series.points.length = 60 ∧
      EvenlySpaced 60 60 start now series.timestamps ∧ chart.labels = series.timestamps ∧
      chart.datasets.length = 2 ∧
      ∃ data, chart.datasets[1]? = some (ChartStyle.standard.dataset .torrents data) ∧
        data.length = 60 := by
  have hstart : Instant.earlier ⟨1341100799, 1500000000, by decide⟩ Lookback.oneHour.span =
      .ok ⟨1341097200, 500000000, by decide⟩ := Instant.earlier_eq_ok_iff.mpr (by decide)
  have hstop : Instant.later ⟨1341097200, 500000000, by decide⟩ Lookback.oneHour.span =
      .ok ⟨1341100800, 500000000, by decide⟩ := Instant.later_eq_ok_iff.mpr (by decide)
  obtain ⟨series, chart, hseries, hchart, -, hlength, hspaced, -, -, hlabels, hlines, hdata⟩ :=
    @resample_spans_lookback eveLog ⟨.minute, .oneHour⟩ _ _ _ hstart hstop .bucketClose .standard
  obtain ⟨data, hline, hfull, -⟩ := hdata 1 _ rfl
  exact ⟨_, _, _, series, chart, by decide, hstart, hstop, hseries, hchart, hlength, hspaced,
    hlabels, hlines, data, hline, hfull⟩

end CounterBoard
