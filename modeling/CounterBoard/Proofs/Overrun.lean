import CounterBoard.Proofs.Agreement
import CounterBoard.Proofs.Drawing
import CounterBoard.Proofs.Walking

/-!
Where drawing fails. It does so where the window leaves the calendar, and nowhere else: at its start,
or, if the window is opened in a leap second of the last second, at its end. The steps between two
points, the ends of buckets and the values of a row never fail, whatever instants the log has, and a
dashboard fails only where it would have drawn.
-/

set_option autoImplicit false
set_option relaxedAutoImplicit false

namespace CounterBoard

open CounterBoard.Time

namespace Time.Instant

theorem ofParts?_eq_none_iff {seconds : Int} {nanos : Nat} (hnanos : nanos < nanosPerSecond) :
    ofParts? seconds nanos = none ↔ seconds < firstSecond ∨ lastSecond < seconds := by
  rw [ofParts?, dite_eq_right_iff]
  constructor
  · intro hnone
    by_contra hinside
    exact absurd (hnone ⟨by omega, by omega, by omega, by omega⟩) (by simp)
  · intro houtside hvalid
    have hfirst := hvalid.1
    have hlast := hvalid.2.1
    omega

theorem later_eq_error_iff {t : Instant} {span : Nat} {fault : Fault} :
    t.later span = .error fault ↔
      fault = .afterLastInstant ∧ lastSecond < t.seconds + span := by
  have hfirst := t.valid.1
  have hparts : ofParts? (t.seconds + span) t.fraction = none ↔
      lastSecond < t.seconds + span := by
    rw [ofParts?_eq_none_iff t.fraction_lt]
    omega
  rw [← hparts, later]
  split
  · next hsome => simp only [hsome, reduceCtorEq, and_false]
  · next hnone =>
    simp only [hnone, Except.error.injEq, and_true]
    exact eq_comm

theorem earlier_eq_error_iff {t : Instant} {span : Nat} (hspan : 0 < span) {fault : Fault} :
    t.earlier span = .error fault ↔ fault = .beforeFirstInstant ∧
      t.seconds + (if t.isLeap then 1 else 0) - span < firstSecond := by
  have hlast := t.valid.2.1
  have hparts : ofParts? ((if t.isLeap then t.seconds + 1 else t.seconds) - span) t.fraction =
      none ↔ t.seconds + (if t.isLeap then 1 else 0) - span < firstSecond := by
    rw [ofParts?_eq_none_iff t.fraction_lt]
    split <;> omega
  rw [← hparts, earlier]
  split
  · next hsome => simp only [hsome, reduceCtorEq, and_false]
  · next hnone =>
    simp only [hnone, Except.error.injEq, and_true]
    exact eq_comm

end Time.Instant

theorem Lookback.span_pos (l : Lookback) : 0 < l.span := by
  cases l <;> decide

theorem Lookback.span_le (l : Lookback) : l.span ≤ 259200 := by
  cases l <;> decide

/-- How the window of a selection at an instant leaves the calendar: it would begin before the first
second, or, if it does not, it would end after the last. -/
inductive Selection.Overruns (selection : Selection) (now : Instant) : Fault → Prop
  | early : now.seconds + (if now.isLeap then 1 else 0) - selection.lookback.span < firstSecond →
      Overruns selection now .beforeFirstInstant
  | late (start : Instant) : now.earlier selection.lookback.span = .ok start →
      lastSecond < start.seconds + selection.lookback.span →
      Overruns selection now .afterLastInstant

namespace Selection

variable {selection : Selection} {now : Instant}

theorem overruns_afterLastInstant_iff :
    selection.Overruns now .afterLastInstant ↔ now.isLeap = true ∧ now.seconds = lastSecond := by
  have hlast := now.valid.2.1
  constructor
  · rintro (_ | ⟨start, hstart, hend⟩)
    have hseconds := (Instant.earlier_eq_ok_iff.mp hstart).1
    by_cases hleap : now.isLeap
    · rw [if_pos hleap] at hseconds
      exact ⟨hleap, by omega⟩
    · rw [if_neg hleap] at hseconds
      omega
  · rintro ⟨hleap, hseconds⟩
    cases hstart : now.earlier selection.lookback.span with
    | error fault =>
      have hearly := ((Instant.earlier_eq_error_iff selection.lookback.span_pos).mp hstart).2
      have hspan := selection.lookback.span_le
      rw [if_pos hleap, hseconds, firstSecond, lastSecond] at hearly
      omega
    | ok start =>
      have hstartSeconds := (Instant.earlier_eq_ok_iff.mp hstart).1
      rw [if_pos hleap] at hstartSeconds
      exact .late start hstart (by omega)

theorem not_early_of_earlier_eq_ok {start : Instant}
    (hstart : now.earlier selection.lookback.span = .ok start) :
    ¬ now.seconds + (if now.isLeap then 1 else 0) - selection.lookback.span < firstSecond := by
  intro hearly
  have herror := (Instant.earlier_eq_error_iff selection.lookback.span_pos).mpr ⟨rfl, hearly⟩
  rw [hstart] at herror
  cases herror

theorem Overruns.unique {fault other : Fault} (h : selection.Overruns now fault)
    (hother : selection.Overruns now other) : fault = other := by
  cases h with
  | early hearly =>
    cases hother with
    | early => rfl
    | late start hstart => exact absurd hearly (not_early_of_earlier_eq_ok hstart)
  | late start hstart =>
    cases hother with
    | early hearly => exact absurd hearly (not_early_of_earlier_eq_ok hstart)
    | late => rfl

theorem not_overruns_of_window (w : Window selection now) (fault : Fault) :
    ¬ selection.Overruns now fault := by
  rintro (hearly | ⟨start, hstart, hlate⟩)
  · exact not_early_of_earlier_eq_ok w.earlier_eq hearly
  · obtain rfl : w.start = start := Except.ok.inj (w.earlier_eq.symm.trans hstart)
    have herror := Instant.later_eq_error_iff.mpr ⟨rfl, hlate⟩
    rw [w.later_eq] at herror
    cases herror

end Selection

theorem grid_eq_error {g : Granularity} {now current : Instant} {fault : Fault}
    (h : grid g now current = .error fault) : fault = .afterLastInstant := by
  induction current using grid.induct g now with
  | case1 current hlt found hfound =>
    rw [grid_of_later_eq_error hlt hfound] at h
    cases h
    exact (Instant.later_eq_error_iff.mp hfound).1
  | case2 current hlt next hnext ih =>
    rw [grid_of_later_eq_ok hlt hnext] at h
    cases hrest : grid g now next with
    | error found =>
      rw [hrest] at h
      cases h
      exact ih hrest
    | ok rest =>
      rw [hrest] at h
      cases h
  | case3 current hle =>
    rw [grid_of_not_lt hle] at h
    cases h

theorem overruns_of_resample_eq_error {log : Log} {selection : Selection} {now : Instant}
    {mode : Sampling} {fault : Fault} (h : resample log selection now mode = .error fault) :
    selection.Overruns now fault := by
  have hwindow : ¬ Nonempty (Window selection now) := by
    rintro ⟨w⟩
    rw [w.resample_eq log mode] at h
    cases h
  cases hstart : now.earlier selection.lookback.span with
  | error found =>
    rw [resample, hstart] at h
    cases h
    obtain ⟨rfl, hearly⟩ :=
      (Instant.earlier_eq_error_iff selection.lookback.span_pos).mp hstart
    exact .early hearly
  | ok start =>
    cases hstop : start.later selection.lookback.span with
    | ok stop => exact absurd ⟨⟨start, stop, hstart, hstop⟩⟩ hwindow
    | error found =>
      have hlate := (Instant.later_eq_error_iff.mp hstop).2
      cases hgrid : grid selection.granularity now start with
      | ok buckets => exact absurd (Window.nonempty_of_grid hstart hgrid) hwindow
      | error other =>
        rw [resample, hstart] at h
        change (grid selection.granularity now start >>= fun buckets => _) = _ at h
        rw [hgrid] at h
        cases h
        rw [grid_eq_error hgrid]
        exact .late start hstart hlate

theorem resample_eq_error_iff (log : Log) (mode : Sampling) {selection : Selection}
    {now : Instant} {fault : Fault} :
    resample log selection now mode = .error fault ↔ selection.Overruns now fault := by
  refine ⟨overruns_of_resample_eq_error, ?_⟩
  intro hover
  cases hresult : resample log selection now mode with
  | ok series =>
    obtain ⟨w, -⟩ := Window.exists_of_resample_eq_ok hresult
    exact absurd hover (Selection.not_overruns_of_window w fault)
  | error found => rw [(overruns_of_resample_eq_error hresult).unique hover]

theorem draw_eq_error_iff {log : Log} {selection : Selection} {now : Instant} {mode : Sampling}
    {style : ChartStyle} {fault : Fault} :
    (resample log selection now mode >>= fun series => Chart.ofSeries series style) =
        .error fault ↔
      selection.Overruns now fault := by
  rw [← resample_eq_error_iff log mode]
  cases hresult : resample log selection now mode with
  | error found => exact Iff.intro (fun h => by cases h; rfl) (fun h => by cases h; rfl)
  | ok series =>
    obtain ⟨w, rfl⟩ := Window.exists_of_resample_eq_ok hresult
    change Chart.ofSeries (w.series log mode) style = .error fault ↔ _
    rw [w.ofSeries_series]
    simp only [reduceCtorEq]

/-- A series over which no single step can fail: to the next point, to the end of a bucket, to a
value of a point, or to a value of an entry. -/
structure Series.Unfailing (series : Series) (log : Log) : Prop where
  later : ∀ p ∈ series.points, ∃ next,
    p.timestamp.later series.selection.granularity.step = .ok next
  contains : ∀ p ∈ series.points, ∀ t, ∃ inside,
    series.selection.granularity.contains p.timestamp t = .ok inside
  value : ∀ p ∈ series.points, ∀ index < series.kinds.length, ∃ value, p.value index = .ok value
  valueAt : ∀ c ∈ log.counters, ∀ place < log.length, ∃ value, c.valueAt place = some value

theorem Window.unfailing_series {selection : Selection} {now : Instant}
    (w : Window selection now) (log : Log) (mode : Sampling) :
    (w.series log mode).Unfailing log := by
  constructor
  · intro p hp
    obtain ⟨k, hk, rfl⟩ := List.mem_map.mp hp
    exact ⟨_, w.later_point (List.mem_range.mp hk)⟩
  · intro p hp t
    obtain ⟨k, hk, rfl⟩ := List.mem_map.mp hp
    exact ⟨_, Sampling.bucketClose.ask_eq_absorbs (w.later_point (List.mem_range.mp hk)) t⟩
  · intro p hp index hindex
    obtain ⟨k, -, rfl⟩ := List.mem_map.mp hp
    have hcounter : index < log.counters.length := by simpa [series, Log.kinds] using hindex
    refine ⟨log.counters[index].after (w.reach log mode (k + 1)), ?_⟩
    simp [GridPoint.value, Log.rowAfter, List.getElem?_eq_getElem hcounter]
  · intro c hc place hplace
    exact ⟨_, Log.valueAt_eq_some hc hplace⟩

namespace Dashboard

variable {d : Dashboard} {now : Instant} {fault : Fault}

/-- Whether an event makes a dashboard draw: a load always does, a failure to load never, and a
change of the selection if data is ready. -/
def Redraws (d : Dashboard) : Event → Prop
  | .loaded _ => True
  | .unavailable _ => False
  | .granularityChanged _ => d.state = .ready
  | .lookbackChanged _ => d.state = .ready

theorem redraws_iff (event : Event) : d.Redraws event ↔ (d.apply event).state = .ready := by
  cases event <;> simp [Redraws, apply]

theorem frame?_eq_error_iff :
    d.frame? now = .error fault ↔ d.state = .ready ∧ d.selection.Overruns now fault := by
  by_cases hready : d.state = .ready
  · have hchart : d.chart now = .error fault ↔ d.selection.Overruns now fault :=
      draw_eq_error_iff
    rw [frame?, if_pos hready, ← hchart]
    cases d.chart now <;> simp [Except.map, hready]
  · rw [frame?_of_not_ready hready]
    simp [hready]

theorem handle_eq_error_iff (event : Event) :
    d.handle event now = .error fault ↔
      d.Redraws event ∧ (d.apply event).selection.Overruns now fault := by
  rw [redraws_iff, ← frame?_eq_error_iff, handle]
  cases (d.apply event).frame? now with
  | error found => exact Iff.intro (fun h => by cases h; rfl) (fun h => by cases h; rfl)
  | ok frame => exact Iff.intro (fun h => by cases h) (fun h => by cases h)

end Dashboard

/-- Drawing fails where the window leaves the calendar, and nowhere else. So does a walk that works
out every end of a bucket when it needs it; a dashboard fails there if it would have drawn. -/
theorem drawing_fails_only_past_the_calendar (selection : Selection) (now : Instant) :
    Fault.beforeFirstInstant.message = "`DateTime - TimeDelta` overflowed" ∧
    Fault.afterLastInstant.message = "`DateTime + TimeDelta` overflowed" ∧
    (selection.Overruns now .afterLastInstant ↔
      now.isLeap = true ∧ now.seconds = lastSecond) ∧
    (∀ (log : Log) (mode : Sampling),
      (∀ (style : ChartStyle) (fault : Fault),
        (resample log selection now mode >>= fun series => Chart.ofSeries series style) =
          .error fault ↔ selection.Overruns now fault) ∧
      resampleByWalk log selection now mode = resample log selection now mode ∧
      ∀ series, resample log selection now mode = .ok series → series.Unfailing log) ∧
    ∀ (d : Dashboard) (fault : Fault),
      (d.frame? now = .error fault ↔ d.state = .ready ∧ d.selection.Overruns now fault) ∧
      ∀ event, d.handle event now = .error fault ↔
        d.Redraws event ∧ (d.apply event).selection.Overruns now fault := by
  refine ⟨rfl, rfl, Selection.overruns_afterLastInstant_iff, ?_, ?_⟩
  · intro log mode
    refine ⟨fun style fault => draw_eq_error_iff,
      resampleByWalk_eq_resample log selection now mode, ?_⟩
    intro series hseries
    obtain ⟨w, rfl⟩ := Window.exists_of_resample_eq_ok hseries
    exact w.unfailing_series log mode
  · intro d fault
    exact ⟨Dashboard.frame?_eq_error_iff, Dashboard.handle_eq_error_iff⟩

private def wholeTimeLog : Log where
  times := [⟨-8334601228800, 0, by decide⟩, ⟨8210266876799, 999999999, by decide⟩]
  counters := [⟨.connections, .series [3, 4]⟩, ⟨.torrents, .constant 2⟩]
  aligned := by decide

private def lastWindow : Window ⟨.minute, .oneHour⟩ ⟨8210266876799, 999999999, by decide⟩ where
  start := ⟨8210266873199, 999999999, by decide⟩
  stop := ⟨8210266876799, 999999999, by decide⟩
  earlier_eq := Instant.earlier_eq_ok_iff.mpr (by decide)
  later_eq := Instant.later_eq_ok_iff.mpr (by decide)

/-- The last ordinary instant can still be looked back from, a leap second after it cannot. -/
theorem drawing_fails_past_lastSecond :
    (∃ series, resample wholeTimeLog ⟨.minute, .oneHour⟩ ⟨8210266876799, 999999999, by decide⟩
        .bucketClose = .ok series ∧ series.Unfailing wholeTimeLog) ∧
      (resample wholeTimeLog .standard ⟨8210266876799, 1999999999, by decide⟩ .bucketClose >>=
        fun series => Chart.ofSeries series .standard) = .error .afterLastInstant ∧
      (Dashboard.start .standard .standard .pointInTime).handle (.loaded wholeTimeLog)
        ⟨-8334601225201, 999999999, by decide⟩ = .error .beforeFirstInstant := by
  have hseries := lastWindow.resample_eq wholeTimeLog .bucketClose
  obtain ⟨-, -, -, hordinary, -⟩ := drawing_fails_only_past_the_calendar ⟨.minute, .oneHour⟩
    ⟨8210266876799, 999999999, by decide⟩
  obtain ⟨-, -, hleap, hlast, -⟩ := drawing_fails_only_past_the_calendar .standard
    ⟨8210266876799, 1999999999, by decide⟩
  obtain ⟨-, -, -, -, hfirst⟩ := drawing_fails_only_past_the_calendar .standard
    ⟨-8334601225201, 999999999, by decide⟩
  refine ⟨⟨_, hseries, (hordinary wholeTimeLog .bucketClose).2.2 _ hseries⟩, ?_, ?_⟩
  · exact ((hlast wholeTimeLog .bucketClose).1 .standard _).mpr (hleap.mpr (by decide))
  · exact ((hfirst _ _).2 _).mpr ⟨trivial, .early (by decide)⟩

end CounterBoard
