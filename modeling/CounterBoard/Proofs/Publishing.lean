import CounterBoard.Proofs.Drawing
import CounterBoard.Service

/-!
What a service publishes. Whatever its dashboard hears of, the service publishes a chart if there is
data afterwards, drawn for the selection afterwards, and leaves its latest chart in place if there
is none. So the latest chart is an old one only if a command changed nothing or left no data.
-/

set_option autoImplicit false
set_option relaxedAutoImplicit false

namespace CounterBoard.Service

open CounterBoard.Time

variable {s : Service} {event : Event} {now : Instant}

theorem hear_of_ready (hready : (s.dashboard.apply event).state = .ready)
    (w : Window (s.dashboard.apply event).selection now) :
    s.hear event now = .ok { s with
      dashboard := s.dashboard.apply event
      charts := s.charts.publish (w.chart (s.dashboard.apply event).store.log
        (s.dashboard.apply event).sampling (s.dashboard.apply event).style) } := by
  simp only [hear, Dashboard.handle]
  rw [Dashboard.frame?_of_ready hready w]
  rfl

theorem hear_of_not_ready (hready : (s.dashboard.apply event).state ≠ .ready) :
    s.hear event now = .ok { s with dashboard := s.dashboard.apply event } := by
  simp only [hear, Dashboard.handle]
  rw [Dashboard.frame?_of_not_ready hready]
  rfl

def IsDrawn (s : Service) : Prop :=
  s.dashboard.state = .ready ∧
    ∃ now chart, s.dashboard.chart now = .ok chart ∧ s.charts.latest = some chart

/-- While there is data, the latest chart is drawn for the dashboard as it stands. -/
def IsCurrent (s : Service) : Prop :=
  s.dashboard.state = .ready → s.IsDrawn

/-- What can become of a service and its latest chart: both stay, or the chart stays and there is no
data, or a new chart is drawn last. -/
inductive Follows (s after : Service) : Prop
  | same (hdashboard : after.dashboard = s.dashboard) (hcharts : after.charts = s.charts)
  | undrawn (hstate : after.dashboard.state ≠ .ready) (hcharts : after.charts = s.charts)
  | drawn (hdrawn : after.IsDrawn)

theorem IsCurrent.follows {after : Service} (hs : s.IsCurrent) (h : s.Follows after) :
    after.IsCurrent := by
  intro hready
  cases h with
  | same hdashboard hcharts =>
    rw [hdashboard] at hready
    obtain ⟨-, now, chart, hchart, hlatest⟩ := hs hready
    exact ⟨hdashboard ▸ hready, now, chart, hdashboard ▸ hchart, hcharts ▸ hlatest⟩
  | undrawn hstate hcharts => exact absurd hready hstate
  | drawn hdrawn => exact hdrawn

theorem hear_cases {after : Service} (h : s.hear event now = .ok after) :
    after.dashboard = s.dashboard.apply event ∧
      (after.dashboard.state ≠ .ready ∧ after.charts = s.charts ∨ after.IsDrawn) := by
  by_cases hready : (s.dashboard.apply event).state = .ready
  · simp only [hear, Dashboard.handle, Dashboard.frame?, if_pos hready] at h
    cases hchart : (s.dashboard.apply event).chart now with
    | error fault =>
      rw [hchart] at h
      cases h
    | ok chart =>
      rw [hchart] at h
      cases h
      exact ⟨rfl, .inr ⟨hready, now, chart, hchart, rfl⟩⟩
  · rw [hear_of_not_ready hready] at h
    cases h
    exact ⟨rfl, .inl ⟨hready, rfl⟩⟩

theorem follows_of_hear {after : Service} (h : s.hear event now = .ok after) : s.Follows after := by
  obtain ⟨-, ⟨hstate, hcharts⟩ | hdrawn⟩ := hear_cases h
  · exact .undrawn hstate hcharts
  · exact .drawn hdrawn

end CounterBoard.Service
