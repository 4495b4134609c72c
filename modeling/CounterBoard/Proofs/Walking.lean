import CounterBoard.Proofs.Carrying

/-!
Resampling as a walk. The walk does one thing after another: at each point it asks of the next entry
whether the point absorbs it, working out the end of the bucket with every question, looks up the
values of the entry by place, and only then moves on to the next point. It comes to what a pass over
buckets laid out beforehand comes to, and where one of the two fails the other fails in the same way.
-/

set_option autoImplicit false
set_option relaxedAutoImplicit false

namespace CounterBoard

open CounterBoard.Time

/-- Whether a point of the grid absorbs an entry at an instant, with nothing known of the point after
it. -/
def Sampling.ask (mode : Sampling) (granularity : Granularity) (point t : Instant) :
    Except Fault Bool :=
  match mode with
  | .pointInTime => .ok (t ≤ point)
  | .bucketClose => granularity.contains point t

/-- A row with the values at a place put in; a counter that has none there keeps the old one. -/
def adopt (counters : List Counter) (place : Nat) (row : List UInt64) : List UInt64 :=
  List.zipWith (fun old c => (c.valueAt place).getD old) row counters

/-- Takes in the entries ahead as long as the answer is yes: the place that is come to, and the row
there. -/
def absorb (counters : List Counter) (ask : Instant → Except Fault Bool) (place : Nat)
    (row : List UInt64) : List Instant → Except Fault (Nat × List UInt64)
  | [] => .ok (place, row)
  | t :: ahead => do
    if ← ask t then absorb counters ask (place + 1) (adopt counters place row) ahead
    else .ok (place, row)

/-- Walks from an instant on to the last point before `now`: the points, and the place that is come
to. -/
def walk (log : Log) (mode : Sampling) (g : Granularity) (now current : Instant) (place : Nat)
    (row : List UInt64) : Except Fault (List GridPoint × Nat) :=
  if current < now then do
    let (place, row) ← absorb log.counters (mode.ask g current) place row (log.times.drop place)
    match _h : current.later g.step with
    | .error fault => .error fault
    | .ok next => do
      let (points, consumed) ← walk log mode g now next place row
      .ok (⟨current, row⟩ :: points, consumed)
  else .ok ([], place)
termination_by (now.seconds + 1 - current.seconds).toNat
decreasing_by
  have hlater := (Instant.later_eq_ok_iff.mp _h).1
  have hstep := g.step_pos
  have hlt : current < now := by assumption
  rw [Instant.lt_iff] at hlt
  omega

def resampleByWalk (log : Log) (selection : Selection) (now : Instant) (mode : Sampling) :
    Except Fault Series := do
  let start ← now.earlier selection.lookback.span
  let (place, row) ← absorb log.counters (fun t => .ok (t < start)) 0 log.initialRow log.times
  let (points, consumed) ← walk log mode selection.granularity now start place row
  .ok { selection, kinds := log.kinds, points, consumed }

theorem adopt_rowAfter {log : Log} {place : Nat} (hplace : place < log.length) :
    adopt log.counters place (log.rowAfter place) = log.rowAfter (place + 1) := by
  rw [adopt, Log.rowAfter, Log.rowAfter, List.zipWith_map_left, List.zipWith_self]
  refine List.map_congr_left fun c hc => ?_
  rw [Log.valueAt_eq_some hc hplace]
  rfl

theorem absorb_rowAfter {log : Log} {ask : Instant → Except Fault Bool} {passes : Instant → Bool}
    (hask : ∀ t, ask t = .ok (passes t)) (ahead : List Instant) (place : Nat)
    (hahead : log.times.drop place = ahead) :
    absorb log.counters ask place (log.rowAfter place) ahead =
      .ok (place + (ahead.takeWhile passes).length,
        log.rowAfter (place + (ahead.takeWhile passes).length)) := by
  induction ahead generalizing place with
  | nil => rfl
  | cons t ahead ih =>
    have hplace : place < log.length := by
      have hlength := congrArg List.length hahead
      rw [List.length_drop, List.length_cons] at hlength
      rw [Log.length]
      omega
    have hrest : log.times.drop (place + 1) = ahead := by
      rw [← List.tail_drop, hahead]
      rfl
    rw [absorb, hask]
    change (if passes t then _ else _) = _
    by_cases hpass : passes t
    · rw [if_pos hpass, adopt_rowAfter hplace, ih (place + 1) hrest,
        List.takeWhile_cons_of_pos hpass, List.length_cons, Nat.add_right_comm, Nat.add_assoc]
    · rw [if_neg hpass, List.takeWhile_cons_of_neg hpass]
      rfl

theorem absorb_eq_error {ask : Instant → Except Fault Bool} {fault : Fault}
    (hask : ∀ t other, ask t = .error other → other = fault) {counters : List Counter}
    {place : Nat} {row : List UInt64} {ahead : List Instant} {other : Fault}
    (h : absorb counters ask place row ahead = .error other) : other = fault := by
  induction ahead generalizing place row with
  | nil => cases h
  | cons t ahead ih =>
    rw [absorb] at h
    cases hanswer : ask t with
    | error found =>
      rw [hanswer] at h
      cases h
      exact hask t other hanswer
    | ok answer =>
      rw [hanswer] at h
      cases answer with
      | false => cases h
      | true => exact ih h

theorem Sampling.ask_eq_absorbs {g : Granularity} {point next : Instant}
    (hnext : point.later g.step = .ok next) (mode : Sampling) (t : Instant) :
    mode.ask g point t = .ok (mode.absorbs ⟨point, next⟩ t) := by
  cases mode with
  | pointInTime => rfl
  | bucketClose =>
    rw [ask, Granularity.contains, absorbs, hnext]
    by_cases hle : point ≤ t
    · rw [if_pos hle, decide_eq_true hle, Bool.true_and]
      rfl
    · rw [if_neg hle, decide_eq_false hle, Bool.false_and]

theorem Sampling.ask_eq_error {g : Granularity} {point : Instant} {fault : Fault}
    (hfault : point.later g.step = .error fault) (mode : Sampling) (t : Instant) (other : Fault)
    (h : mode.ask g point t = .error other) : other = fault := by
  cases mode with
  | pointInTime => cases h
  | bucketClose =>
    rw [ask, Granularity.contains, hfault] at h
    by_cases hle : point ≤ t
    · rw [if_pos hle] at h
      cases h
      rfl
    · rw [if_neg hle] at h
      cases h

theorem walk_of_later_eq_error {log : Log} {mode : Sampling} {g : Granularity}
    {now current : Instant} {fault : Fault} (hlt : current < now)
    (h : current.later g.step = .error fault) (place : Nat) (row : List UInt64) :
    walk log mode g now current place row = .error fault := by
  have hstops : ∀ other, absorb log.counters (mode.ask g current) place row
      (log.times.drop place) = .error other → other = fault := by
    intro other hother
    exact absorb_eq_error (mode.ask_eq_error h) hother
  rw [walk, if_pos hlt]
  cases hrow : absorb log.counters (mode.ask g current) place row (log.times.drop place) with
  | error other =>
    rw [hstops other hrow]
    rfl
  | ok next =>
    simp only [bind, Except.bind]
    split <;> simp_all

theorem walk_of_later_eq_ok {log : Log} {mode : Sampling} {g : Granularity}
    {now current next : Instant} (hlt : current < now) (h : current.later g.step = .ok next)
    {place further : Nat} {row shown : List UInt64}
    (hrow : absorb log.counters (mode.ask g current) place row (log.times.drop place) =
      .ok (further, shown)) :
    walk log mode g now current place row =
      (walk log mode g now next further shown).map fun p => (⟨current, shown⟩ :: p.1, p.2) := by
  rw [walk, if_pos hlt, hrow]
  simp only [bind, Except.bind]
  split
  · simp_all
  · next other hother =>
    obtain rfl : next = other := Except.ok.inj (h.symm.trans hother)
    cases walk log mode g now next further shown <;> rfl

/-- From a place on, a walk gives the points of a pass over the grid, and it fails where the grid
cannot be laid out. -/
theorem walk_rowAfter (log : Log) (mode : Sampling) (g : Granularity) (now current : Instant)
    (place : Nat) :
    walk log mode g now current place (log.rowAfter place) =
      (grid g now current).map fun buckets =>
        (((Cursor.atPlace log place).sample mode buckets).1,
          ((Cursor.atPlace log place).sample mode buckets).2.taken) := by
  induction current using grid.induct g now generalizing place with
  | case1 current hlt fault hfault =>
    rw [walk_of_later_eq_error hlt hfault, grid_of_later_eq_error hlt hfault]
    rfl
  | case2 current hlt next hnext ih =>
    have hrow := absorb_rowAfter (mode.ask_eq_absorbs hnext) (log.times.drop place) place rfl
    rw [walk_of_later_eq_ok hlt hnext hrow, ih, grid_of_later_eq_ok hlt hnext]
    cases grid g now next with
    | error fault => rfl
    | ok buckets =>
      simp only [Except.map, Cursor.sample, Cursor.advance_atPlace]
      rfl
  | case3 current hle =>
    rw [walk, if_neg hle, grid_of_not_lt hle]
    rfl

/-- A walk over the lookback comes to what resampling comes to, faults included. -/
theorem resampleByWalk_eq_resample (log : Log) (selection : Selection) (now : Instant)
    (mode : Sampling) :
    resampleByWalk log selection now mode = resample log selection now mode := by
  rw [resampleByWalk, resample]
  cases now.earlier selection.lookback.span with
  | error fault => rfl
  | ok start =>
    have hseek : absorb log.counters (fun t => .ok (t < start)) 0 log.initialRow log.times =
        .ok (0 + (log.times.takeWhile (· < start)).length,
          log.rowAfter (0 + (log.times.takeWhile (· < start)).length)) :=
      absorb_rowAfter (fun t => rfl) log.times 0 rfl
    have hcursor := Cursor.advance_atPlace log 0 (· < start)
    rw [List.drop_zero] at hcursor
    change (absorb log.counters _ 0 log.initialRow log.times >>= fun p => _) =
      (grid selection.granularity now start >>= fun buckets => _)
    rw [hseek, Cursor.start_eq_atPlace, hcursor]
    change (walk log mode selection.granularity now start _ _ >>= fun p => _) = _
    rw [walk_rowAfter]
    cases grid selection.granularity now start <;> rfl

end CounterBoard
