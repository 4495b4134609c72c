import CounterBoard.Http.Router
import CounterBoard.Proofs.Turns
import Mathlib.Data.List.Induction

/-!
A desk whose moves come in any order. Commands that came in are answered within a number of steps
of the service, with a reply or without one, and no answer is taken back. Whoever was told that
there is data finds a chart at any later time, and nobody hears that nothing was loaded.
-/

set_option autoImplicit false
set_option relaxedAutoImplicit false

namespace CounterBoard.Desk

open CounterBoard.Time

variable {t next : Desk} {move : Move} {initial : Selection} {first : Service}
  {replies : List Reply}

theorem run_cons {moves : List Move} (h : t.run (move :: moves) = .ok next) :
    ∃ between, t.step move = .ok between ∧ between.run moves = .ok next := by
  rw [run, List.foldlM_cons] at h
  exact exists_of_bind_eq_ok h

theorem run_append_iff {moves more : List Move} : t.run (moves ++ more) = .ok next ↔
    ∃ between, t.run moves = .ok between ∧ between.run more = .ok next := by
  rw [run, List.foldlM_append]
  constructor
  · intro h
    exact exists_of_bind_eq_ok h
  · rintro ⟨between, hbetween, hmore⟩
    rw [← run, hbetween]
    exact hmore

theorem run_single : t.run [move] = t.step move := by
  rw [run, List.foldlM_cons]
  exact bind_pure _

theorem of_run {P : Desk → Prop}
    (hkept : ∀ {t next : Desk} {move : Move}, Step t move next → P t → P next)
    {moves : List Move} (h : t.run moves = .ok next) (ht : P t) : P next :=
  of_foldlM (fun hstep => hkept (Step.of_step hstep)) h ht

theorem orderly_run {moves : List Move} (h : t.run moves = .ok next)
    (ht : t.Orderly initial first t.stage replies) :
    ∃ more, next.Orderly initial first next.stage (replies ++ more) := by
  refine of_run (P := fun u => ∃ more, u.Orderly initial first u.stage (replies ++ more))
    ?_ h ⟨[], ?_⟩
  · rintro t next move hstep ⟨more, hmore⟩
    obtain ⟨last, hlast⟩ := hmore.step hstep
    exact ⟨more ++ last, by rwa [← List.append_assoc]⟩
  · rwa [List.append_nil]

theorem answers_run {moves : List Move} (h : t.run moves = .ok next)
    (ht : t.Orderly initial first t.stage replies) {place : Nat}
    {answer : Except Interruption Reply} (hanswer : t.answers place = some answer) :
    next.answers place = some answer := by
  have hboth : (∃ given, next.Orderly initial first next.stage given) ∧
      next.answers place = some answer := by
    refine of_run (P := fun u => (∃ given, u.Orderly initial first u.stage given) ∧
      u.answers place = some answer) ?_ h ⟨⟨replies, ht⟩, hanswer⟩
    rintro t next move hstep ⟨⟨given, hgiven⟩, hkept⟩
    obtain ⟨more, hmore⟩ := hgiven.step hstep
    exact ⟨⟨_, hmore⟩, hgiven.answers_step hstep hkept⟩
  exact hboth.2

def Move.isWork : Move → Bool
  | .work _ _ => true
  | _ => false

/-- A bound on the steps that the service takes until a command is answered: four for each command
in line up to it, and those that are left at the stage. -/
def toil (t : Desk) (place : Nat) : Nat :=
  4 * (place + 1 + t.line.length - t.asked.length) +
    match t.stage with
    | .opening => 1
    | .busy _ _ left => left.length + 1
    | .free => 0
    | .closed => 0

/-- Every step of the service brings a command that waits nearer to its answer, and nothing takes it
further away. -/
theorem toil_step (h : t.Orderly initial first t.stage replies) (hstep : Step t move next)
    {place : Nat} (hplace : place < t.asked.length) (hwaiting : t.answers place = none) :
    next.toil place + (if move.isWork then 1 else 0) ≤ t.toil place := by
  have hopen : t.stage ≠ .closed := by
    intro hstage
    rw [hstage] at h
    exact h.answers_ne_none_of_closed hplace hwaiting
  obtain ⟨taken, hwaits, -, htaken, hfree⟩ := h.exists_waits hopen
  have hline : t.line.length = t.asked.length - taken := by
    rw [hwaits.line, List.length_drop, List.length_zipIdx]
  have hlate : replies.length ≤ place :=
    Nat.not_lt.mp fun hlt => h.answers_ne_none_of_lt hlt hwaiting
  cases hstep with
  | opened hstage => simp [toil, hstage, Move.isWork]
  | idle hstage hempty =>
    -- With nothing in line the command would have been answered.
    have hanswered := hfree hstage
    rw [hempty, List.length_nil] at hline
    omega
  | @taken _ _ command _ line hstage hcons =>
    have hpieces := command.length_pieces_le
    have hanswered := hfree hstage
    have hlength : t.line.length = line.length + 1 := by rw [hcons, List.length_cons]
    simp only [toil, hstage, Move.isWork, if_true]
    omega
  | worked hstage =>
    simp only [toil, hstage, Move.isWork, if_true, List.length_cons]
    omega
  | replied hstage => simp [toil, hstage, Move.isWork]
  | ended hstage | refused hstage => exact absurd hstage hopen
  | queued =>
    simp only [toil, Move.isWork, List.length_append, List.length_singleton, Bool.false_eq_true,
      if_false]
    omega
  | signalled => simp [toil, Move.isWork]
  | closed =>
    simp only [toil, close, Move.isWork, List.length_nil, Bool.false_eq_true, if_false]
    omega
  | passed => simp [Move.isWork]

theorem asked_length_le (hstep : Step t move next) : t.asked.length ≤ next.asked.length := by
  cases hstep with
  | queued | refused => simp
  | _ => exact Nat.le_refl _

theorem works_add_toil_le {moves : List Move} (h : t.Orderly initial first t.stage replies)
    (hrun : t.run moves = .ok next) {place : Nat}
    (hplace : place < t.asked.length) (hwaiting : next.answers place = none) :
    moves.countP Move.isWork + next.toil place ≤ t.toil place := by
  induction moves generalizing t replies with
  | nil =>
    cases hrun
    simp
  | cons move moves ih =>
    have hbefore : t.answers place = none := by
      rw [Option.eq_none_iff_forall_ne_some]
      intro answer hanswer
      cases hwaiting.symm.trans (answers_run hrun h hanswer)
    obtain ⟨between, hstep, hrest⟩ := run_cons hrun
    have hstep := Step.of_step hstep
    obtain ⟨more, hbetween⟩ := h.step hstep
    have hlast := ih hbetween hrest (Nat.lt_of_lt_of_le hplace (asked_length_le hstep))
    have hfirst := toil_step h hstep hplace hbefore
    rw [List.countP_cons]
    omega

theorem answered_of_works {moves : List Move} (h : t.Orderly initial first t.stage replies)
    (hrun : t.run moves = .ok next)
    (hworks : 4 * (t.line.length + 1) ≤ moves.countP Move.isWork) {place : Nat}
    (hplace : place < t.asked.length) : next.answers place ≠ none := by
  intro hwaiting
  have hbound := works_add_toil_le h hrun hplace hwaiting
  have htoil : t.toil place ≤ 4 * t.line.length + 3 := by
    generalize hstage : t.stage = stage at h
    cases h with
    | opening | free | closed =>
      simp only [toil, hstage]
      omega
    | @busy _ _ _ _ command done left _ _ hpieces =>
      have hleft := command.length_pieces_le
      rw [hpieces, List.length_append] at hleft
      simp only [toil, hstage]
      omega
  omega

theorem charts_step (hstep : Step t move next) :
    next.service.charts = t.service.charts ∨ ∃ fetched now chart, move = .work fetched now ∧
      next.service.charts = t.service.charts.publish chart ∧
      next.service.dashboard.state = .ready ∧ next.service.dashboard.chart now = .ok chart := by
  cases hstep with
  | opened _ hheard | worked _ hheard =>
    rcases Service.charts_of_hear hheard with hkept | ⟨chart, hchart⟩
    · exact .inl hkept
    · exact .inr ⟨_, _, chart, rfl, hchart⟩
  | _ => exact .inl rfl

theorem published_run {moves : List Move} (h : t.run moves = .ok next) :
    t.service.charts.published ≤ next.service.charts.published := by
  refine of_run (P := fun u => t.service.charts.published ≤ u.service.charts.published) ?_ h
    (Nat.le_refl _)
  intro u after move hstep hle
  rcases charts_step hstep with hkept | ⟨_, _, chart, _, hchart, _⟩
  · rwa [hkept]
  · rw [hchart]
    exact Nat.le_succ_of_le hle

/-- In the course of moves a chart was published as the one of a number, and it showed the dashboard
as it stood then. -/
def Drew (t : Desk) (moves : List Move) (number : Nat) (chart : Chart) : Prop :=
  ∃ early fetched now late before after, moves = early ++ .work fetched now :: late ∧
    t.run early = .ok before ∧ before.step (.work fetched now) = .ok after ∧
    after.service.charts = before.service.charts.publish chart ∧
    after.service.charts.published = number ∧ after.service.dashboard.state = .ready ∧
    after.service.dashboard.chart now = .ok chart

theorem drew_latest {moves : List Move} (h : t.run moves = .ok next)
    (hnone : t.service.charts.latest = none) {chart : Chart}
    (hlatest : next.service.charts.latest = some chart) :
    t.Drew moves next.service.charts.published chart := by
  induction moves using List.reverseRecOn generalizing next with
  | nil =>
    cases h
    cases hnone.symm.trans hlatest
  | append_singleton moves move ih =>
    obtain ⟨last, hlast, hstep⟩ := run_append_iff.mp h
    rw [run_single] at hstep
    rcases charts_step (Step.of_step hstep) with
      hkept | ⟨fetched, now, drawn, rfl, hcharts, hready, hdrawn⟩
    · rw [hkept] at hlatest
      obtain ⟨early, fetched, now, late, before, after, rfl, hearly, hmove, hchart, hnumber,
        hready, hdrawn⟩ := ih hlast hlatest
      exact ⟨early, fetched, now, late ++ [move], before, after, by simp, hearly, hmove, hchart,
        by rw [hnumber, hkept], hready, hdrawn⟩
    · have hsame : drawn = chart := by
        rw [hcharts] at hlatest
        exact Option.some.inj hlatest
      subst hsame
      exact ⟨moves, fetched, now, [], last, next, rfl, hlast, hstep, hcharts, rfl, hready, hdrawn⟩

theorem Orderly.of_status {stage : Stage} (h : t.Orderly initial first stage replies) {place : Nat}
    {status : Status} (hanswer : t.answers place = some (.ok (.status status))) :
    status.state ≠ .loading ∧
      (status.state = .ready → t.service.charts.latest.isSome = true) := by
  have hreply := List.mem_of_getElem? (h.getElem?_of_answer hanswer)
  cases h with
  | opening => cases hreply
  | free hserved => exact hserved.of_mem_replies hreply
  | busy _ hserved _ _ hheard =>
    obtain ⟨hloaded, hchart⟩ := hserved.of_mem_replies hreply
    refine ⟨hloaded, fun hready => ?_⟩
    exact Service.of_hearAll Service.latest_isSome_of_hear hheard (hchart hready)
  | closed hserved hservice =>
    rw [hservice]
    exact hserved.of_mem_replies hreply

theorem exists_step (t : Desk) {move : Move}
    (h : ∀ fetched now, move = .work fetched now → ∀ selection, Nonempty (Window selection now)) :
    ∃ next, t.step move = .ok next := by
  cases move with
  | ask command => exact ⟨_, rfl⟩
  | signal => exact ⟨_, rfl⟩
  | close => exact ⟨_, rfl⟩
  | work fetched now =>
    have hhear : ∀ event stage, ∃ next, t.hear event now stage = .ok next := by
      intro event stage
      by_cases hready : (t.service.dashboard.apply event).state = .ready
      · obtain ⟨w⟩ := h fetched now rfl (t.service.dashboard.apply event).selection
        rw [hear, Service.hear_of_ready hready w]
        exact ⟨_, rfl⟩
      · rw [hear, Service.hear_of_not_ready hready]
        exact ⟨_, rfl⟩
    simp only [step, work]
    split
    · exact hhear _ _
    · split <;> exact ⟨_, rfl⟩
    · exact hhear _ _
    · exact ⟨_, rfl⟩
    · exact ⟨_, rfl⟩

theorem exists_run (t : Desk) {moves : List Move}
    (h : ∀ fetched now, .work fetched now ∈ moves →
      ∀ selection, Nonempty (Window selection now)) :
    ∃ next, t.run moves = .ok next := by
  induction moves generalizing t with
  | nil => exact ⟨t, rfl⟩
  | cons move moves ih =>
    obtain ⟨between, hstep⟩ := t.exists_step fun fetched now hmove =>
      h fetched now (hmove ▸ List.mem_cons_self)
    obtain ⟨next, hrest⟩ := ih between fun fetched now hmem =>
      h fetched now (List.mem_cons_of_mem _ hmem)
    refine ⟨next, ?_⟩
    rw [run, List.foldlM_cons, hstep]
    exact hrest

theorem Orderly.exists_of_reply {stage : Stage} (h : t.Orderly initial first stage replies)
    {place : Nat} {reply : Reply} (hanswer : t.answers place = some (.ok reply)) :
    ∃ command told s, t.asked[place]? = some command ∧ told <+: t.journal ∧
      first.Served initial told (t.asked.take (place + 1)) (replies.take (place + 1)) s ∧
      History.Replies initial (.ofHeard told) command reply := by
  have hreply := h.getElem?_of_answer hanswer
  obtain ⟨hlt, -⟩ := List.getElem?_eq_some_iff.mp hreply
  obtain ⟨heard, last, hserved, hheard⟩ := h.exists_served hlt
  obtain ⟨command, told, s, hcommand, htold, hwhole, hreplies⟩ :=
    hserved.exists_of_getElem? hreply
  rw [List.getElem?_take_of_lt hlt] at hcommand
  rw [List.take_take, Nat.min_eq_left hlt] at hwhole
  exact ⟨command, told, s, hcommand, htold.trans hheard, hwhole, hreplies⟩

/-- In whatever order things happen, the service works on as long as the calendar does. The commands
that came in first have been carried out as a whole, one at a time, and no other command has had an
effect. A reply is read off all that the dashboard has heard by the end of its command: the state
that the last fetch left and each field of the selection as it was set last, or the log that was
loaded last. An answer stays, and every command has one when the service has taken four more steps
for each command in line and four for the one at hand. A status says that there is data or why there
is none. After one that says there is, a chart is there at any time, and none that was drawn before
the latest of that moment. -/
theorem whole_commands_in_order {initial : Selection} {style : ChartStyle} {sampling : Sampling}
    {capacity : Nat} {service : Service}
    (hservice : Service.ofDashboard (.start initial style sampling) capacity = .ok service) :
    (∀ moves, (∀ fetched now, .work fetched now ∈ moves →
      ∀ selection, Nonempty (Window selection now)) → ∃ t, (start service).run moves = .ok t) ∧
    ∀ moves t, (start service).run moves = .ok t →
      ∃ replies, t.Orderly initial service t.stage replies ∧
      (∀ place reply, t.answers place = some (.ok reply) → ∃ command told s,
        t.asked[place]? = some command ∧ told <+: t.journal ∧
        service.Served initial told (t.asked.take (place + 1)) (replies.take (place + 1)) s ∧
        History.Replies initial (.ofHeard told) command reply) ∧
      ∀ more u, t.run more = .ok u →
        (∃ further, u.Orderly initial service u.stage (replies ++ further)) ∧
        (∀ place answer, t.answers place = some answer → u.answers place = some answer) ∧
        (4 * (t.line.length + 1) ≤ more.countP Move.isWork →
          ∀ place < t.asked.length, u.answers place ≠ none) ∧
        ∀ place status, t.answers place = some (.ok (.status status)) →
          (status.state = .ready ∧ ∃ chart, u.service.charts.latest = some chart ∧
            t.service.charts.published ≤ u.service.charts.published ∧
            (start service).Drew (moves ++ more) u.service.charts.published chart ∧
            Http.chartResponse status u.service.charts.latest = .full 200 (.chart chart)) ∨
          ∃ reason, status.state = .unavailable reason ∧
            Http.chartResponse status u.service.charts.latest = Http.unavailable reason := by
  have hnew : service.IsNew initial := ⟨style, sampling, capacity, hservice⟩
  refine ⟨fun moves hcal => (start service).exists_run hcal, ?_⟩
  intro moves t hrun
  obtain ⟨replies, ht⟩ := orderly_run hrun (orderly_start hnew)
  rw [List.nil_append] at ht
  refine ⟨replies, ht, fun place reply hanswer => ht.exists_of_reply hanswer, ?_⟩
  intro more u hmore
  obtain ⟨further, hu⟩ := orderly_run hmore ht
  refine ⟨⟨further, hu⟩, ?_, ?_, ?_⟩
  · intro place answer hanswer
    exact answers_run hmore ht hanswer
  · intro hworks place hplace
    exact answered_of_works ht hmore hworks hplace
  · intro place status hanswer
    obtain ⟨hloaded, hchart⟩ := hu.of_status (answers_run hmore ht hanswer)
    cases hstate : status.state with
    | loading => exact absurd hstate hloaded
    | unavailable reason =>
      refine .inr ⟨reason, rfl, ?_⟩
      simp only [Http.chartResponse, hstate]
    | ready =>
      obtain ⟨chart, hlatest⟩ := Option.isSome_iff_exists.mp (hchart hstate)
      refine .inl ⟨rfl, chart, hlatest, published_run hmore, ?_, ?_⟩
      · exact drew_latest (run_append_iff.mpr ⟨t, hrun, hmore⟩) hnew.fresh.1 hlatest
      · simp only [Http.chartResponse, hstate, hlatest]

section Midway

private def unopened : Service :=
  ⟨.start .standard .standard .pointInTime, .empty, true, 1⟩

private def noonLog : Log :=
  ⟨[⟨1720179000, 0, by decide⟩], [⟨.connections, .series [7]⟩], by decide⟩

private def noonSnapshot : Snapshot :=
  ⟨none, ["2024-07-05T11:30:00+00:00"], [7], []⟩

private def workAtNoon : Move :=
  .work (.ok noonLog) ⟨1720180800, 0, by decide⟩

/-- The signal to stop comes while the first of four commands is at hand, and is not heeded until
the second one is done. -/
private def untilReply : List Move :=
  [workAtNoon, .ask (.select (some .minute) none), .ask .snapshot, .ask .status, .ask .reload,
    workAtNoon, .signal, .close, workAtNoon, workAtNoon, workAtNoon, .close, workAtNoon]

private def afterReply : List Move :=
  [.close, .ask .snapshot]

theorem whole_commands_in_order_midway :
    ∃ t u told chart, (start unopened).run untilReply = .ok t ∧ t.run afterReply = .ok u ∧
      u.answers 0 = some (.ok (.status ⟨.ready, ⟨.minute, .oneHour⟩⟩)) ∧
      u.answers 1 = some (.ok (.snapshot (some noonSnapshot))) ∧
      u.answers 2 = some (.error .dropped) ∧ u.answers 3 = some (.error .stopped) ∧
      u.answers 4 = some (.error .stopped) ∧ told <+: t.journal ∧
      History.Replies .standard (.ofHeard told) .snapshot (.snapshot (some noonSnapshot)) ∧
      u.service.charts.latest = some chart ∧
      (start unopened).Drew (untilReply ++ afterReply) 2 chart := by
  have hservice :
      Service.ofDashboard (.start .standard .standard .pointInTime) 1 = .ok unopened := by
    decide
  have hreplies : ((start unopened).run untilReply).map (fun t =>
      (t.answers 0, t.answers 1, t.asked[1]?)) =
      .ok (some (.ok (.status ⟨.ready, ⟨.minute, .oneHour⟩⟩)),
        some (.ok (.snapshot (some noonSnapshot))), some .snapshot) := by
    decide +kernel
  have hrest : ((start unopened).run (untilReply ++ afterReply)).map (fun u =>
      (u.answers 2, u.answers 3, u.answers 4, u.service.charts.published)) =
      .ok (some (.error .dropped), some (.error .stopped), some (.error .stopped), 2) := by
    decide +kernel
  obtain ⟨t, ht, hanswers⟩ := exists_of_map_eq_ok hreplies
  obtain ⟨hstatus, hsnapshot, hasked⟩ : t.answers 0 =
      some (.ok (.status ⟨.ready, ⟨.minute, .oneHour⟩⟩)) ∧
        t.answers 1 = some (.ok (.snapshot (some noonSnapshot))) ∧
        t.asked[1]? = some .snapshot := by
    simpa using hanswers
  obtain ⟨u, hu, hrefused⟩ := exists_of_map_eq_ok hrest
  obtain ⟨hsecond, hthird, hfourth, hpublished⟩ :
      u.answers 2 = some (.error .dropped) ∧ u.answers 3 = some (.error .stopped) ∧
        u.answers 4 = some (.error .stopped) ∧ u.service.charts.published = 2 := by
    simpa using hrefused
  obtain ⟨between, hbetween, hmore⟩ := run_append_iff.mp hu
  cases ht.symm.trans hbetween
  obtain ⟨replies, -, hreply, hlater⟩ := (whole_commands_in_order hservice).2 untilReply t ht
  obtain ⟨command, told, s, hcommand, htold, -, hread⟩ := hreply 1 _ hsnapshot
  cases hasked.symm.trans hcommand
  obtain ⟨-, hkept, -, hdrawn⟩ := hlater afterReply u hmore
  rcases hdrawn 0 _ hstatus with ⟨-, chart, hchart, -, hdrew, -⟩ | ⟨reason, hreason, -⟩
  · rw [hpublished] at hdrew
    exact ⟨t, u, told, chart, ht, hmore, hkept 0 _ hstatus, hkept 1 _ hsnapshot, hsecond, hthird,
      hfourth, htold, hread, hchart, hdrew⟩
  · cases hreason

end Midway

end CounterBoard.Desk
