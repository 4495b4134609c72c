import CounterBoard.Proofs.RunHistory

/-!
Two runs beside each other: one in which loading fails now and then, and the same one without its
failures. While the first has no data the second goes on drawing, so they differ in state and in
frames. The selection and the log are the same throughout, and the next load draws the same frame
in both.
-/

set_option autoImplicit false
set_option relaxedAutoImplicit false

namespace CounterBoard

open CounterBoard.Time

def RunStep.isFailure : RunStep → Bool
  | .event (.unavailable _) => true
  | _ => false

theorem Window.nonempty_of_inside (selection : Selection) {now : Instant}
    (hfirst : firstSecond + 259200 ≤ now.seconds) (hlast : now.seconds < lastSecond) :
    Nonempty (Window selection now) := by
  have hspan : selection.lookback.span ≤ 259200 := by
    cases selection.lookback <;> decide
  have hfraction : now.fraction < nanosPerSecond := Nat.mod_lt _ (by decide)
  have hleap : (0 : Int) ≤ (if now.isLeap then 1 else 0) ∧
      (if now.isLeap then 1 else 0) ≤ (1 : Int) := by
    split <;> simp
  have hstart : Representable (now.seconds + (if now.isLeap then 1 else 0) -
      selection.lookback.span) now.fraction := by
    refine ⟨by omega, by omega, by omega, by omega⟩
  have hstop : Representable (now.seconds + (if now.isLeap then 1 else 0)) now.fraction := by
    refine ⟨by omega, by omega, by omega, by omega⟩
  refine ⟨⟨⟨_, _, hstart⟩, ⟨_, _, hstop⟩, Instant.earlier_eq_ok_iff.mpr ⟨rfl, rfl⟩,
    Instant.later_eq_ok_iff.mpr ⟨?_, ?_⟩⟩⟩
  · simp only
    omega
  · exact (Nat.mod_eq_of_lt hfraction).symm

namespace History

/-- The history without its failures. -/
def calm (h : History) : History :=
  h.filter fun step => ¬ step.1.isFailure

theorem calm_append_of_failure (h : History) {s : RunStep} (hs : s.isFailure = true)
    (now : Instant) : calm (h ++ [(s, now)]) = calm h := by
  simp [calm, hs]

theorem calm_append_of_not_failure (h : History) {s : RunStep} (hs : s.isFailure = false)
    (now : Instant) : calm (h ++ [(s, now)]) = calm h ++ [(s, now)] := by
  simp [calm, hs]

theorem last?_calm {α : Type} {part : RunStep → Option α}
    (hpart : ∀ s, s.isFailure = true → part s = none) (h : History) :
    last? part h.calm = last? part h := by
  induction h using List.reverseRecOn with
  | nil => rfl
  | append_singleton h last ih =>
    obtain ⟨s, now⟩ := last
    rw [last?_append_single]
    cases hs : s.isFailure with
    | true => rw [calm_append_of_failure h hs, hpart s hs, Option.none_or, ih]
    | false => rw [calm_append_of_not_failure h hs, last?_append_single, ih]

private theorem eq_unavailable_of_isFailure {s : RunStep} (hs : s.isFailure = true) :
    ∃ reason, s = .event (.unavailable reason) := by
  rcases s with ⟨log | reason | granularity | lookback⟩ | _ <;> simp [RunStep.isFailure] at hs ⊢

theorem log?_calm (h : History) : last? RunStep.log? h.calm = last? RunStep.log? h := by
  apply last?_calm
  intro s hs
  obtain ⟨reason, rfl⟩ := eq_unavailable_of_isFailure hs
  rfl

theorem selection_calm (initial : Selection) (h : History) :
    selection initial h.calm = selection initial h := by
  have hgranularity : last? RunStep.granularity? h.calm = last? RunStep.granularity? h := by
    apply last?_calm
    intro s hs
    obtain ⟨reason, rfl⟩ := eq_unavailable_of_isFailure hs
    rfl
  have hlookback : last? RunStep.lookback? h.calm = last? RunStep.lookback? h := by
    apply last?_calm
    intro s hs
    obtain ⟨reason, rfl⟩ := eq_unavailable_of_isFailure hs
    rfl
  rw [selection, selection, hgranularity, hlookback]

theorem state_calm {h : History} (hready : h.state = .ready) : h.calm.state = .ready := by
  induction h using List.reverseRecOn with
  | nil => cases hready
  | append_singleton h last ih =>
    obtain ⟨s, now⟩ := last
    rw [state, last?_append_single] at hready
    cases hs : s.isFailure with
    | true =>
      obtain ⟨reason, rfl⟩ := eq_unavailable_of_isFailure hs
      cases hready
    | false =>
      rw [calm_append_of_not_failure h hs, state, last?_append_single]
      cases houtcome : s.outcome? with
      | none =>
        rw [houtcome, Option.none_or] at hready
        exact ih hready
      | some outcome =>
        rw [houtcome] at hready
        exact hready

variable (initial : Selection) (style : ChartStyle) (sampling : Sampling)

theorem dashboard_calm {h : History} (hready : h.state = .ready) :
    dashboard initial style sampling h.calm = dashboard initial style sampling h := by
  simp only [dashboard, log, isLoaded, log?_calm, selection_calm, hready, state_calm hready]

theorem run_append_of_frame? {h : History} {frames : List Chart}
    (hrun : (Recorder.ofDashboard (.start initial style sampling)).run h =
      .ok ⟨dashboard initial style sampling h, frames⟩)
    {s : RunStep} {now : Instant} {frame : Option Chart}
    (hframe : (dashboard initial style sampling (h ++ [(s, now)])).frame? now = .ok frame) :
    (Recorder.ofDashboard (.start initial style sampling)).run (h ++ [(s, now)]) =
      .ok ⟨dashboard initial style sampling (h ++ [(s, now)]), frames ++ frame.toList⟩ := by
  rw [Recorder.run_append_single, hrun]
  change (Recorder.step ⟨dashboard initial style sampling h, frames⟩ s now).map Prod.fst = _
  rw [step_dashboard, hframe]
  rfl

/-- The run with failures keeps behind the run without them: it has drawn some of the same frames in
the same order, and while data is ready it has caught up. -/
theorem run_calm (h : History) (hcal : InCalendar initial h.calm) :
    ∃ frames calmFrames,
      (Recorder.ofDashboard (.start initial style sampling)).run h =
        .ok ⟨dashboard initial style sampling h, frames⟩ ∧
      (Recorder.ofDashboard (.start initial style sampling)).run h.calm =
        .ok ⟨dashboard initial style sampling h.calm, calmFrames⟩ ∧
      frames.Sublist calmFrames ∧
      (h.state = .ready → frames.getLast? = calmFrames.getLast?) := by
  induction h using List.reverseRecOn with
  | nil => exact ⟨[], [], rfl, rfl, List.Sublist.refl _, fun _ => rfl⟩
  | append_singleton h last ih =>
    obtain ⟨s, now⟩ := last
    cases hs : s.isFailure with
    | true =>
      rw [calm_append_of_failure h hs] at hcal ⊢
      obtain ⟨frames, calmFrames, hrun, hcalm, hsub, -⟩ := ih hcal
      have hnotReady : state (h ++ [(s, now)]) ≠ .ready := by
        obtain ⟨reason, rfl⟩ := eq_unavailable_of_isFailure hs
        rw [state, last?_append_single]
        simp [RunStep.outcome?]
      have hnone : (dashboard initial style sampling (h ++ [(s, now)])).frame? now = .ok none :=
        Dashboard.frame?_of_not_ready hnotReady
      refine ⟨frames, calmFrames, ?_, hcalm, hsub, fun hready => absurd hready hnotReady⟩
      simpa using run_append_of_frame? initial style sampling hrun hnone
    | false =>
      have hlonger : calm (h ++ [(s, now)]) = calm h ++ [(s, now)] :=
        calm_append_of_not_failure h hs now
      rw [hlonger] at hcal ⊢
      obtain ⟨frames, calmFrames, hrun, hcalm, hsub, -⟩ := ih hcal.of_append_single
      obtain ⟨drawn, hdrawn, hsome, -⟩ := frame?_dashboard initial style sampling
        (calm h ++ [(s, now)]) now fun hready => hcal.window ((draws_iff _ s now).mpr hready)
      have hcalmer := run_append_of_frame? initial style sampling hcalm hdrawn
      by_cases hready : state (h ++ [(s, now)]) = .ready
      · -- Data is ready in both runs, so both draw the same dashboard.
        have hcalmReady := state_calm hready
        have hsame := dashboard_calm initial style sampling hready
        rw [hlonger] at hcalmReady hsame
        obtain ⟨chart, rfl⟩ := Option.isSome_iff_exists.mp (hsome.mpr hcalmReady)
        rw [hsame] at hdrawn
        have hnext := run_append_of_frame? initial style sampling hrun hdrawn
        refine ⟨_, _, hnext, hcalmer, hsub.append (List.Sublist.refl _), ?_⟩
        intro _
        simp
      · have hnone : (dashboard initial style sampling (h ++ [(s, now)])).frame? now = .ok none :=
          Dashboard.frame?_of_not_ready hready
        have hnext := run_append_of_frame? initial style sampling hrun hnone
        refine ⟨_, _, hnext, hcalmer, ?_, fun h => absurd h hready⟩
        simpa using hsub.trans (List.sublist_append_left _ _)

/-- Outages are transparent. A failure to load changes the state and nothing else. A run draws some
of the frames that it would draw without its failures, in the same order, and where it ends with
data ready it ends as it would without them, with the same frame on display. All that the run
without failures draws has to lie in the calendar; it draws more than the other. -/
theorem outages_are_transparent :
    (∀ (r : Recorder) (reason : String) (now : Instant),
      r.step (.event (.unavailable reason)) now =
        .ok (⟨{ r.dashboard with state := .unavailable reason }, r.frames⟩, none)) ∧
    ∀ h : History, InCalendar initial h.calm →
      ∃ after calm,
        (Recorder.ofDashboard (.start initial style sampling)).run h = .ok after ∧
        (Recorder.ofDashboard (.start initial style sampling)).run h.calm = .ok calm ∧
        after.frames.Sublist calm.frames ∧
        (after.dashboard.state = .ready →
          calm.dashboard = after.dashboard ∧ calm.lastFrame? = after.lastFrame?) := by
  constructor
  · intro r reason now
    have hnone : (r.dashboard.apply (.unavailable reason)).frame? now = .ok none :=
      Dashboard.frame?_of_not_ready (by simp [Dashboard.apply])
    simp only [Recorder.step, Dashboard.handle, hnone, bind, Except.bind, Option.toList_none,
      List.append_nil]
    rfl
  · intro h hcal
    obtain ⟨frames, calmFrames, hrun, hcalm, hsub, hlast⟩ :=
      run_calm initial style sampling h hcal
    refine ⟨_, _, hrun, hcalm, hsub, ?_⟩
    intro hready
    exact ⟨dashboard_calm initial style sampling hready, (hlast hready).symm⟩

/-- Two loads with a failure between them, and a change of the selection while there is no data. -/
private def outage : History :=
  [(.event (.loaded .empty), ⟨1700003600, 0, by decide⟩),
    (.event (.unavailable "gone"), ⟨1700003660, 0, by decide⟩),
    (.event (.granularityChanged .minute), ⟨1700003720, 0, by decide⟩),
    (.event (.loaded .empty), ⟨1700003780, 0, by decide⟩)]

theorem outages_are_transparent_outage :
    InCalendar .standard outage.calm ∧ ∃ after calm,
      (Recorder.ofDashboard (.start .standard .standard .bucketClose)).run outage = .ok after ∧
      (Recorder.ofDashboard (.start .standard .standard .bucketClose)).run outage.calm = .ok calm ∧
      outage.calm.length = 3 ∧ after.frames.Sublist calm.frames ∧
      calm.dashboard = after.dashboard ∧ calm.lastFrame? = after.lastFrame? := by
  have hinside : ∀ step ∈ outage.calm,
      firstSecond + 259200 ≤ step.2.seconds ∧ step.2.seconds < lastSecond := by decide
  have hcal : InCalendar .standard outage.calm := by
    intro before s now rest h _
    obtain ⟨hfirst, hlast⟩ := hinside (s, now) (by rw [h]; simp)
    exact Window.nonempty_of_inside _ hfirst hlast
  obtain ⟨after, calm, hrun, hcalm, hsub, hready⟩ :=
    (outages_are_transparent .standard .standard .bucketClose).2 outage hcal
  obtain ⟨frames, -, hends, -⟩ := run_calm .standard .standard .bucketClose outage hcal
  have hafter : after.dashboard.state = .ready := by
    rw [hends] at hrun
    cases hrun
    rfl
  obtain ⟨hdashboard, hlast⟩ := hready hafter
  exact ⟨hcal, after, calm, hrun, hcalm, rfl, hsub, hdashboard, hlast⟩

end History

end CounterBoard
