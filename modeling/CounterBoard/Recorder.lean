import CounterBoard.Dashboard

/-!
A dashboard together with every frame it drew, in the order of drawing.
-/

set_option autoImplicit false
set_option relaxedAutoImplicit false

namespace CounterBoard

open CounterBoard.Time

inductive RunStep
  | event (event : Event)
  | recompute
  deriving DecidableEq

structure Recorder where
  dashboard : Dashboard
  frames : List Chart
  deriving DecidableEq

namespace Recorder

def ofDashboard (d : Dashboard) : Recorder :=
  ⟨d, []⟩

def lastFrame? (r : Recorder) : Option Chart :=
  r.frames.getLast?

def step (r : Recorder) (s : RunStep) (now : Instant) :
    Except Fault (Recorder × Option Chart) := do
  let (dashboard, frame) ← match s with
    | .event event => r.dashboard.handle event now
    | .recompute => do
      let frame ← r.dashboard.frame? now
      .ok (r.dashboard, frame)
  .ok (⟨dashboard, r.frames ++ frame.toList⟩, frame)

/-- The recorder after a run, up to the first fault. -/
def run (r : Recorder) : List (RunStep × Instant) → Except Fault Recorder
  | [] => .ok r
  | (s, now) :: steps => do
    let (r, _) ← r.step s now
    r.run steps

end Recorder

end CounterBoard
