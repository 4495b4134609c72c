import CounterBoard.Proofs.Drawing
import CounterBoard.Recorder
import Mathlib.Data.List.Induction

/-!
What a dashboard shows after a history of steps, read off the history alone: the log that was loaded
last, the selection fields that were set last, and the outcome of the last attempt to load. A step
draws if data is ready once it is taken, and then what it draws depends on these three only.
-/

set_option autoImplicit false
set_option relaxedAutoImplicit false

namespace CounterBoard

open CounterBoard.Time

namespace RunStep

def log? : RunStep → Option Log
  | .event (.loaded log) => some log
  | _ => none

def granularity? : RunStep → Option Granularity
  | .event (.granularityChanged granularity) => some granularity
  | _ => none

def lookback? : RunStep → Option Lookback
  | .event (.lookbackChanged lookback) => some lookback
  | _ => none

def outcome? : RunStep → Option DataState
  | .event (.loaded _) => some .ready
  | .event (.unavailable reason) => some (.unavailable reason)
  | _ => none

end RunStep

/-- Steps in the order in which they are taken, each with the instant at which it is. -/
abbrev History := List (RunStep × Instant)

namespace History

def last? {α : Type} (part : RunStep → Option α) (h : History) : Option α :=
  (h.filterMap fun step => part step.1).getLast?

/-- The log loaded last, and the empty log if none was. -/
def log (h : History) : Log :=
  (h.last? RunStep.log?).getD .empty

def isLoaded (h : History) : Bool :=
  (h.last? RunStep.log?).isSome

def selection (initial : Selection) (h : History) : Selection :=
  ⟨(h.last? RunStep.granularity?).getD initial.granularity,
    (h.last? RunStep.lookback?).getD initial.lookback⟩

/-- The state that the last attempt to load led to; without one, loading goes on. -/
def state (h : History) : DataState :=
  (h.last? RunStep.outcome?).getD .loading

/-- A load always draws, and a failure to load never does. A change of the selection and a request
to draw once more do if data was ready. -/
def Draws (h : History) : RunStep → Prop
  | .event (.loaded _) => True
  | .event (.unavailable _) => False
  | .event (.granularityChanged _) => h.state = .ready
  | .event (.lookbackChanged _) => h.state = .ready
  | .recompute => h.state = .ready

/-- Each step of a history that draws has its window in the calendar. -/
def InCalendar (initial : Selection) (h : History) : Prop :=
  ∀ before s now after, h = before ++ (s, now) :: after → Draws before s →
    Nonempty (Window (selection initial (before ++ [(s, now)])) now)

def dashboard (initial : Selection) (style : ChartStyle) (sampling : Sampling) (h : History) :
    Dashboard :=
  ⟨⟨h.log, h.selection initial, h.isLoaded⟩, style, sampling, h.state⟩

theorem last?_append_single {α : Type} (part : RunStep → Option α) (h : History) (s : RunStep)
    (now : Instant) : last? part (h ++ [(s, now)]) = (part s).or (last? part h) := by
  cases hs : part s <;> simp [last?, hs]

theorem InCalendar.of_append_single {initial : Selection} {h : History} {s : RunStep}
    {now : Instant} (hcal : InCalendar initial (h ++ [(s, now)])) : InCalendar initial h := by
  intro before s' now' after heq
  exact hcal before s' now' (after ++ [(s, now)]) (by rw [heq]; simp)

theorem InCalendar.window {initial : Selection} {h : History} {s : RunStep} {now : Instant}
    (hcal : InCalendar initial (h ++ [(s, now)])) (hdraws : Draws h s) :
    Nonempty (Window (selection initial (h ++ [(s, now)])) now) :=
  hcal h s now [] rfl hdraws

theorem draws_iff (h : History) (s : RunStep) (now : Instant) :
    Draws h s ↔ state (h ++ [(s, now)]) = .ready := by
  rw [state, last?_append_single]
  rcases s with ⟨log | reason | granularity | lookback⟩ | _ <;>
    simp [Draws, RunStep.outcome?, state]

section

variable (initial : Selection) (style : ChartStyle) (sampling : Sampling)

theorem dashboard_append_event (h : History) (event : Event) (now : Instant) :
    dashboard initial style sampling (h ++ [(.event event, now)]) =
      (dashboard initial style sampling h).apply event := by
  simp only [dashboard, log, selection, isLoaded, state, last?_append_single]
  cases event <;> rfl

private theorem dashboard_append_recompute (h : History) (now : Instant) :
    dashboard initial style sampling (h ++ [(.recompute, now)]) =
      dashboard initial style sampling h := by
  simp only [dashboard, log, selection, isLoaded, state, last?_append_single]
  rfl

theorem step_dashboard (h : History) (frames : List Chart) (s : RunStep) (now : Instant) :
    Recorder.step ⟨dashboard initial style sampling h, frames⟩ s now =
      ((dashboard initial style sampling (h ++ [(s, now)])).frame? now).map fun frame =>
        (⟨dashboard initial style sampling (h ++ [(s, now)]), frames ++ frame.toList⟩, frame) := by
  cases s with
  | event event =>
    rw [dashboard_append_event, Recorder.step]
    simp only [Dashboard.handle]
    cases ((dashboard initial style sampling h).apply event).frame? now <;> rfl
  | recompute =>
    rw [dashboard_append_recompute, Recorder.step]
    simp only
    cases (dashboard initial style sampling h).frame? now <;> rfl

theorem frame?_dashboard (h : History) (now : Instant)
    (hwindow : h.state = .ready → Nonempty (Window (h.selection initial) now)) :
    ∃ frame, (dashboard initial style sampling h).frame? now = .ok frame ∧
      (frame.isSome ↔ h.state = .ready) ∧
      ∀ chart, frame = some chart →
        ∃ series, resample h.log (h.selection initial) now sampling = .ok series ∧
          Chart.ofSeries series style = .ok chart := by
  by_cases hready : h.state = .ready
  · obtain ⟨w⟩ := hwindow hready
    have hframe := Dashboard.frame?_of_ready (d := dashboard initial style sampling h) hready w
    refine ⟨some (w.chart h.log sampling style), hframe, by simp [hready], ?_⟩
    rintro chart ⟨rfl⟩
    exact ⟨w.series h.log sampling, w.resample_eq h.log sampling,
      w.ofSeries_series h.log sampling style⟩
  · have hframe : (dashboard initial style sampling h).frame? now = .ok none :=
      Dashboard.frame?_of_not_ready hready
    exact ⟨none, hframe, by simp [hready], by simp⟩

end

end History

theorem Recorder.run_append_single (r : Recorder) (h : History) (s : RunStep) (now : Instant) :
    r.run (h ++ [(s, now)]) = r.run h >>= fun r => (r.step s now).map Prod.fst := by
  induction h generalizing r with
  | nil =>
    change (r.step s now >>= fun p => p.1.run []) = _
    cases hstep : r.step s now <;> simp [Recorder.run, bind, Except.bind, Except.map, hstep]
  | cons first h ih =>
    obtain ⟨s', now'⟩ := first
    change (r.step s' now' >>= fun p => p.1.run (h ++ [(s, now)])) =
      (r.step s' now' >>= fun p => p.1.run h) >>= _
    cases r.step s' now' with
    | error fault => rfl
    | ok p => exact ih p.1

namespace History

variable (initial : Selection) (style : ChartStyle) (sampling : Sampling)

/-- A run over a history whose windows lie in the calendar ends, and ends in the dashboard that the
history tells. -/
theorem run_eq_ok (h : History) (hcal : InCalendar initial h) :
    ∃ frames, (Recorder.ofDashboard (.start initial style sampling)).run h =
      .ok ⟨dashboard initial style sampling h, frames⟩ := by
  induction h using List.reverseRecOn with
  | nil => exact ⟨[], rfl⟩
  | append_singleton h last ih =>
    obtain ⟨s, now⟩ := last
    obtain ⟨frames, hrun⟩ := ih hcal.of_append_single
    obtain ⟨frame, hframe, -⟩ := frame?_dashboard initial style sampling (h ++ [(s, now)]) now
      fun hready => hcal.window ((draws_iff h s now).mpr hready)
    refine ⟨frames ++ frame.toList, ?_⟩
    rw [Recorder.run_append_single, hrun]
    change (Recorder.step ⟨dashboard initial style sampling h, frames⟩ s now).map Prod.fst = _
    rw [step_dashboard, hframe]
    rfl

/-- A dashboard is never stale while data is ready. -/
theorem shows_what_was_last_set (h : History) (s : RunStep) (now : Instant)
    (hcal : InCalendar initial (h ++ [(s, now)])) :
    ∃ before after frame,
      (Recorder.ofDashboard (.start initial style sampling)).run h = .ok before ∧
      before.step s now = .ok (after, frame) ∧
      (Recorder.ofDashboard (.start initial style sampling)).run (h ++ [(s, now)]) = .ok after ∧
      after.dashboard.store.log = log (h ++ [(s, now)]) ∧
      after.dashboard.store.isLoaded = isLoaded (h ++ [(s, now)]) ∧
      after.dashboard.selection = selection initial (h ++ [(s, now)]) ∧
      after.dashboard.state = state (h ++ [(s, now)]) ∧
      after.frames = before.frames ++ frame.toList ∧
      (frame.isSome ↔ Draws h s) ∧
      (s = .recompute → before.dashboard.frame? now = .ok frame) ∧
      (∀ chart, frame = some chart → ∃ series,
        resample after.dashboard.store.log after.dashboard.selection now sampling = .ok series ∧
          Chart.ofSeries series style = .ok chart) ∧
      (after.dashboard.state = .ready → ∃ chart, after.lastFrame? = some chart ∧
        frame = some chart) := by
  obtain ⟨frames, hrun⟩ := run_eq_ok initial style sampling h hcal.of_append_single
  obtain ⟨frame, hframe, hsome, hshows⟩ :=
    frame?_dashboard initial style sampling (h ++ [(s, now)]) now
      fun hready => hcal.window ((draws_iff h s now).mpr hready)
  have hstep : Recorder.step ⟨dashboard initial style sampling h, frames⟩ s now =
      .ok (⟨dashboard initial style sampling (h ++ [(s, now)]), frames ++ frame.toList⟩, frame) := by
    rw [step_dashboard, hframe]
    rfl
  have hlonger : (Recorder.ofDashboard (.start initial style sampling)).run (h ++ [(s, now)]) =
      .ok ⟨dashboard initial style sampling (h ++ [(s, now)]), frames ++ frame.toList⟩ := by
    rw [Recorder.run_append_single, hrun]
    change (Recorder.step _ s now).map Prod.fst = _
    rw [hstep]
    rfl
  refine ⟨_, _, frame, hrun, hstep, hlonger, rfl, rfl, rfl, rfl, rfl,
    hsome.trans (draws_iff h s now).symm, ?_, hshows, ?_⟩
  · rintro rfl
    rw [← hframe, dashboard_append_recompute]
  · intro hready
    obtain ⟨chart, rfl⟩ := Option.isSome_iff_exists.mp (hsome.mpr hready)
    exact ⟨chart, by simp [Recorder.lastFrame?], rfl⟩

private def firstLoad : History :=
  [(.event (.granularityChanged .minute), ⟨1700000000, 0, by decide⟩),
    (.event (.loaded .empty), ⟨1700000060, 0, by decide⟩)]

private theorem inCalendar_firstLoad : InCalendar .standard firstLoad := by
  intro before s now after h hdraws
  rcases before with _ | ⟨first, _ | ⟨second, before⟩⟩
  · cases h
    cases hdraws
  · cases h
    exact ⟨⟨1699996460, 0, by decide⟩, ⟨1700000060, 0, by decide⟩,
      Instant.earlier_eq_ok_iff.mpr (by decide), Instant.later_eq_ok_iff.mpr (by decide)⟩
  · simp [firstLoad] at h

theorem shows_firstLoad :
    InCalendar .standard firstLoad ∧ ∃ after chart,
      (Recorder.ofDashboard (.start .standard .standard .pointInTime)).run firstLoad =
        .ok after ∧
      after.dashboard.selection = ⟨.minute, .oneHour⟩ ∧
      after.dashboard.state = .ready ∧ after.lastFrame? = some chart := by
  obtain ⟨before, after, frame, -, -, hrun, -, -, hselection, hstate, -, -, -, -, hready⟩ :=
    shows_what_was_last_set .standard .standard .pointInTime (firstLoad.take 1)
      (.event (.loaded .empty)) ⟨1700000060, 0, by decide⟩ inCalendar_firstLoad
  obtain ⟨chart, hlast, -⟩ := hready hstate
  exact ⟨inCalendar_firstLoad, after, chart, hrun, hselection, hstate, hlast⟩

end History

end CounterBoard
