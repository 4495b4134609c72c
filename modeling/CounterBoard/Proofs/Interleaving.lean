import CounterBoard.Proofs.Answering
import CounterBoard.Traffic

/-!
Clients of a service at work, with everybody's moves in any order. A client looks at the charts some
moves after the reply to its command was given, and the chart that it sees was drawn for the service
as it stood at some moment in between. That need not be the moment of the reply: others may have
selected since.
-/

set_option autoImplicit false
set_option relaxedAutoImplicit false

namespace CounterBoard.Traffic

open CounterBoard.Time

@[simp]
theorem put_self (clients : Nat → Client) (client : Nat) (standing : Client) :
    put clients client standing client = standing :=
  if_pos rfl

theorem put_of_ne (clients : Nat → Client) {client other : Nat} (standing : Client)
    (h : other ≠ client) : put clients client standing other = clients other :=
  if_neg h

theorem eq_of_put_eq {clients : Nat → Client} {client other : Nat} {standing target : Client}
    (h : put clients client standing other = target) (hne : standing ≠ target) :
    clients other = target := by
  by_cases hother : other = client
  · subst hother
    exact absurd ((put_self ..).symm.trans h) hne
  · exact (put_of_ne _ _ hother).symm.trans h

variable {t next : Traffic} {move : Move} {moves : List Move}

inductive Step (t : Traffic) : Move → Traffic → Prop
  | served {move : Desk.Move} {desk : Desk} (hstep : t.desk.step move = .ok desk) :
      Step t (.service move) { t with desk }
  | asked {client : Nat} {command : Command} (hfree : ∀ place, t.clients client ≠ .waiting place) :
      Step t (.ask client command)
        ⟨t.desk.ask command, put t.clients client (.waiting t.desk.asked.length)⟩
  | heard {client place : Nat} {reply : Reply} (hwaiting : t.clients client = .waiting place)
      (hanswer : t.desk.answers place = some (.ok reply)) :
      Step t (.hear client) { t with clients := put t.clients client (.told reply) }
  | refused {client place : Nat} {cause : Interruption}
      (hwaiting : t.clients client = .waiting place)
      (hanswer : t.desk.answers place = some (.error cause)) :
      Step t (.hear client) { t with clients := put t.clients client (.refused cause) }
  | looked {client : Nat} {reply : Reply} (htold : t.clients client = .told reply) :
      Step t (.look client) { t with
        clients := put t.clients client (.served reply t.desk.service.charts.latest) }
  | skipped (move : Move) : Step t move t

theorem Step.of_step (h : t.step move = .ok next) : Step t move next := by
  cases move with
  | service move =>
    obtain ⟨desk, hstep, hnext⟩ := exists_of_bind_eq_ok h
    cases hnext
    exact .served hstep
  | ask client command =>
    cases h
    simp only [ask]
    split
    · exact .skipped _
    · next hfree => exact .asked hfree
  | hear client =>
    cases h
    simp only [hear]
    split
    · next hwaiting =>
      split
      · next hanswer => exact .heard hwaiting hanswer
      · next hanswer => exact .refused hwaiting hanswer
      · exact .skipped _
    · exact .skipped _
  | look client =>
    cases h
    simp only [look]
    split
    · next htold => exact .looked htold
    · exact .skipped _

namespace Step

theorem desk_cases (h : Step t move next) : next.desk = t.desk ∨
    (∃ made, move = .service made ∧ t.desk.step made = .ok next.desk) ∨
    ∃ command, next.desk = t.desk.ask command := by
  cases h with
  | served hstep => exact .inr (.inl ⟨_, rfl, hstep⟩)
  | @asked _ command => exact .inr (.inr ⟨command, rfl⟩)
  | heard | refused | looked | skipped => exact .inl rfl

theorem waiting_cases (h : Step t move next) {client place : Nat}
    (hwaiting : next.clients client = .waiting place) :
    t.clients client = .waiting place ∨
      place = t.desk.asked.length ∧ ∃ command, next.desk = t.desk.ask command := by
  cases h with
  | served | skipped => exact .inl hwaiting
  | heard | refused | looked => exact .inl (eq_of_put_eq hwaiting (by simp))
  | @asked other command =>
    by_cases hclient : client = other
    · subst hclient
      cases (put_self ..).symm.trans hwaiting
      exact .inr ⟨rfl, command, rfl⟩
    · exact .inl ((put_of_ne _ _ hclient).symm.trans hwaiting)

theorem told_cases (h : Step t move next) {client : Nat} {reply : Reply}
    (htold : next.clients client = .told reply) :
    t.clients client = .told reply ∨ next.desk = t.desk ∧ ∃ place,
      t.clients client = .waiting place ∧ t.desk.answers place = some (.ok reply) := by
  cases h with
  | served | skipped => exact .inl htold
  | asked | refused | looked => exact .inl (eq_of_put_eq htold (by simp))
  | @heard other place given hwaiting hanswer =>
    by_cases hclient : client = other
    · subst hclient
      cases (put_self ..).symm.trans htold
      exact .inr ⟨rfl, place, hwaiting, hanswer⟩
    · exact .inl ((put_of_ne _ _ hclient).symm.trans htold)

end Step

theorem run_append_single : t.run (moves ++ [move]) = .ok next ↔
    ∃ last, t.run moves = .ok last ∧ last.step move = .ok next := by
  rw [run, List.foldlM_append]
  constructor
  · intro h
    obtain ⟨last, hlast, hstep⟩ := exists_of_bind_eq_ok h
    obtain ⟨_, hnext, hnil⟩ := exists_of_bind_eq_ok hstep
    cases hnil
    exact ⟨last, hlast, hnext⟩
  · rintro ⟨last, hlast, hnext⟩
    rw [← run, hlast]
    exact (bind_pure _).trans hnext

/-- Whatever the clients do, the desk makes moves of its own. -/
theorem exists_desk_run (h : t.run moves = .ok next) :
    ∃ made, t.desk.run made = .ok next.desk := by
  induction moves using List.reverseRecOn generalizing next with
  | nil =>
    cases h
    exact ⟨[], rfl⟩
  | append_singleton moves move ih =>
    obtain ⟨last, hlast, hstep⟩ := run_append_single.mp h
    obtain ⟨made, hmade⟩ := ih hlast
    have hmore : ∀ more, last.desk.step more = .ok next.desk →
        ∃ made, t.desk.run made = .ok next.desk := by
      intro more hmore
      refine ⟨made ++ [more], Desk.run_append_iff.mpr ⟨last.desk, hmade, ?_⟩⟩
      rwa [Desk.run_single]
    rcases (Step.of_step hstep).desk_cases with hdesk | ⟨more, -, hdesk⟩ | ⟨command, hdesk⟩
    · exact ⟨made, hdesk ▸ hmade⟩
    · exact hmore more hdesk
    · exact hmore (.ask command) (hdesk ▸ rfl)

/-- After some moves a client waits for its reply, and one more move of the service gives it. -/
structure Gives (s : Traffic) (before : List Move) (move : Desk.Move) (client place : Nat)
    (reply : Reply) (replied : Traffic) : Prop where
  asked : ∃ asked, s.run before = .ok asked ∧ asked.desk.answers place = none ∧
    asked.step (.service move) = .ok replied
  waiting : replied.clients client = .waiting place
  answer : replied.desk.answers place = some (.ok reply)
  current : ∃ command, reply = replied.desk.service.reply command

/-- In the course of moves a client was given a reply that it waited for. -/
def WasGiven (s : Traffic) (moves : List Move) (client : Nat) (reply : Reply) (t : Traffic) :
    Prop :=
  ∃ before move between place replied, moves = before ++ .service move :: between ∧
    s.Gives before move client place reply replied ∧ replied.run between = .ok t

theorem WasGiven.append_single {s : Traffic} {client : Nat} {reply : Reply}
    (h : s.WasGiven moves client reply t) (hstep : t.step move = .ok next) :
    s.WasGiven (moves ++ [move]) client reply next := by
  obtain ⟨before, gave, between, place, replied, rfl, hgives, hbetween⟩ := h
  exact ⟨before, gave, between ++ [move], place, replied, by simp, hgives,
    run_append_single.mpr ⟨t, hbetween, hstep⟩⟩

section

variable {initial : Selection} {service : Service} {client : Nat} {reply : Reply}

theorem exists_orderly (hnew : service.IsNew initial) (h : (start service).run moves = .ok t) :
    ∃ replies, t.desk.Orderly initial service t.desk.stage replies := by
  obtain ⟨made, hmade⟩ := exists_desk_run h
  obtain ⟨replies, horderly⟩ := Desk.orderly_run hmade (Desk.orderly_start hnew)
  exact ⟨_, horderly⟩

theorem wasGiven_of_waiting (hnew : service.IsNew initial)
    (h : (start service).run moves = .ok t) {place : Nat}
    (hwaiting : t.clients client = .waiting place)
    (hanswer : t.desk.answers place = some (.ok reply)) :
    (start service).WasGiven moves client reply t := by
  induction moves using List.reverseRecOn generalizing t with
  | nil =>
    cases h
    cases hwaiting
  | append_singleton moves move ih =>
    obtain ⟨last, hlast, hstep⟩ := run_append_single.mp h
    obtain ⟨replies, horderly⟩ := exists_orderly hnew hlast
    have hmove := Step.of_step hstep
    -- A command that comes in has no reply at first, and leaves the replies to others as they are.
    have hasked : ∀ {command}, t.desk = last.desk.ask command →
        last.desk.answers place = some (.ok reply) := by
      intro command hdesk
      have hask : Desk.Step last.desk (.ask command) t.desk := .of_step (hdesk ▸ rfl)
      rcases hask.reply_cases hanswer with hanswered | ⟨_, _, _, hwork, -⟩
      · exact hanswered
      · cases hwork
    rcases hmove.waiting_cases hwaiting with hwaited | ⟨rfl, command, hdesk⟩
    · rcases hmove.desk_cases with hdesk | ⟨made, rfl, hmade⟩ | ⟨command, hdesk⟩
      · exact (ih hlast hwaited (hdesk ▸ hanswer)).append_single hstep
      · rcases (Desk.Step.of_step hmade).reply_cases hanswer with
          hanswered | ⟨fetched, now, command, rfl, hstage, hservice, hreply⟩
        · exact (ih hlast hwaited hanswered).append_single hstep
        · rw [hstage] at horderly
          exact ⟨moves, _, [], place, t, rfl,
            ⟨⟨last, hlast, horderly.answers_of_busy, hstep⟩, hwaiting, hanswer,
              command, hservice ▸ hreply⟩, rfl⟩
      · exact (ih hlast hwaited (hasked hdesk)).append_single hstep
    · cases (hasked hdesk).symm.trans (horderly.answers_of_le (Nat.le_refl _))

theorem wasGiven_of_told (hnew : service.IsNew initial) (h : (start service).run moves = .ok t)
    (htold : t.clients client = .told reply) : (start service).WasGiven moves client reply t := by
  induction moves using List.reverseRecOn generalizing t with
  | nil =>
    cases h
    cases htold
  | append_singleton moves move ih =>
    obtain ⟨last, hlast, hstep⟩ := run_append_single.mp h
    rcases (Step.of_step hstep).told_cases htold with
      hbefore | ⟨hdesk, place, hwaiting, hanswer⟩
    · exact (ih hlast hbefore).append_single hstep
    · exact (wasGiven_of_waiting hnew hlast hwaiting hanswer).append_single hstep

theorem follows_of_step (h : t.step move = .ok next) :
    t.desk.service.Follows next.desk.service := by
  rcases (Step.of_step h).desk_cases with hdesk | ⟨made, -, hmade⟩ | ⟨command, hdesk⟩
  · exact .same (by rw [hdesk]) (by rw [hdesk])
  · exact (Desk.Step.of_step hmade).follows
  · have hask : Desk.Step t.desk (.ask command) next.desk := .of_step (hdesk ▸ rfl)
    exact hask.follows

theorem isCurrent_run (h : t.run moves = .ok next) (ht : t.desk.service.IsCurrent) :
    next.desk.service.IsCurrent := by
  refine of_foldlM (P := fun u => u.desk.service.IsCurrent) ?_ h ht
  intro u after move hstep hu
  exact hu.follows (follows_of_step hstep)

/-- The latest chart at the end of a run that begins with a drawn service was drawn for the service
as it stood at some moment of the run. -/
theorem exists_drawn_of_run (h : t.run moves = .ok next) (ht : t.desk.service.IsDrawn) :
    ∃ within drawn, within <+: moves ∧ t.run within = .ok drawn ∧ drawn.desk.service.IsDrawn ∧
      next.desk.service.charts.latest = drawn.desk.service.charts.latest := by
  induction moves using List.reverseRecOn generalizing next with
  | nil =>
    cases h
    exact ⟨[], t, List.prefix_rfl, rfl, ht, rfl⟩
  | append_singleton moves move ih =>
    obtain ⟨last, hlast, hstep⟩ := run_append_single.mp h
    -- A chart that the last move leaves in place is the one that was drawn before it.
    obtain ⟨within, drawn, hwithin, hrun, hdrawn, hlatest⟩ := ih hlast
    have hkept : next.desk.service.charts = last.desk.service.charts →
        ∃ within drawn, within <+: moves ++ [move] ∧ t.run within = .ok drawn ∧
          drawn.desk.service.IsDrawn ∧
          next.desk.service.charts.latest = drawn.desk.service.charts.latest := by
      intro hcharts
      exact ⟨within, drawn, hwithin.trans (List.prefix_append _ _), hrun, hdrawn, hcharts ▸ hlatest⟩
    cases follows_of_step hstep with
    | same _ hcharts => exact hkept hcharts
    | undrawn _ hcharts => exact hkept hcharts
    | drawn hnext => exact ⟨_, next, List.prefix_rfl, h, hnext, rfl⟩

end

/-- A client that was told that there is data sees a chart when it looks. It was drawn for the
selection of the service at some moment from the reply up to the look. -/
theorem chart_since_reply {initial : Selection} {style : ChartStyle} {sampling : Sampling}
    {capacity : Nat} {service : Service}
    (hservice : Service.ofDashboard (.start initial style sampling) capacity = .ok service)
    {moves : List Move} {t : Traffic} (hrun : (start service).run moves = .ok t) {client : Nat}
    {status : Status} (htold : t.clients client = .told (.status status))
    (hready : status.state = .ready) :
    ∃ before move between place replied within drawn now chart,
      moves = before ++ .service move :: between ∧
      (start service).Gives before move client place (.status status) replied ∧
      replied.desk.service.status = status ∧ replied.run between = .ok t ∧
      within <+: between ∧ replied.run within = .ok drawn ∧
      drawn.desk.service.dashboard.state = .ready ∧
      drawn.desk.service.dashboard.chart now = .ok chart ∧
      chart.labels.length = drawn.desk.service.dashboard.selection.gridLength ∧
      (t.look client).clients client = .served (.status status) (some chart) ∧
      Http.replyResponse .selection (.status status) (some chart) = .full 200 (.chart chart) := by
  have hnew : service.IsNew initial := ⟨style, sampling, capacity, hservice⟩
  obtain ⟨before, move, between, place, replied, hmoves, hgives, hbetween⟩ :=
    wasGiven_of_told hnew hrun htold
  obtain ⟨asked, hasked, -, hmove⟩ := hgives.asked
  have hstatus : replied.desk.service.status = status := by
    obtain ⟨command, hreply⟩ := hgives.current
    cases command <;> cases hreply
    all_goals rfl
  have hdrawn : replied.desk.service.IsDrawn := by
    refine isCurrent_run (run_append_single.mpr ⟨asked, hasked, hmove⟩) hnew.isCurrent ?_
    rw [← hready, ← hstatus]
    rfl
  obtain ⟨within, drawn, hwithin, hdrawnRun, ⟨hstate, now, chart, hchart, hshown⟩, hlatest⟩ :=
    exists_drawn_of_run hbetween hdrawn
  refine ⟨before, move, between, place, replied, within, drawn, now, chart, hmoves, hgives, hstatus,
    hbetween, hwithin, hdrawnRun, hstate, hchart, Dashboard.length_labels_of_chart hchart, ?_, ?_⟩
  · simp only [look, htold]
    rw [put_self, hlatest, hshown]
  · simp only [Http.replyResponse, Http.chartResponse, hready]

section Race

private def loadedAtNoon : Log :=
  ⟨[⟨1720004400, 0, by decide⟩], [⟨.connections, .series [9]⟩], by decide⟩

private def workAtNoonDay : Move :=
  .service (.work (.ok loadedAtNoon) ⟨1720008000, 0, by decide⟩)

private def newService : Service :=
  ⟨.start .standard .standard .pointInTime, .empty, true, 2⟩

/-- Two clients select. The first one is told its reply, and the command of the second one is
carried out before the first one looks. -/
private def race : List Move :=
  [workAtNoonDay, .ask 0 (.select (some .minute) none), .ask 1 (.select (some .hour) none),
    workAtNoonDay, workAtNoonDay, workAtNoonDay, .hear 0, workAtNoonDay, workAtNoonDay,
    workAtNoonDay]

private def hourChart : Chart :=
  ⟨[⟨1720004400, 0, by decide⟩],
    [⟨"Active connections", "rgba(0,0,255,1)", "rgba(0,0,255,0.3)", [9]⟩]⟩

private theorem newService_eq :
    Service.ofDashboard (.start .standard .standard .pointInTime) 2 = .ok newService :=
  if_pos (by decide)

theorem chart_since_reply_race :
    ∃ t, (start newService).run race = .ok t ∧
      t.clients 0 = .told (.status ⟨.ready, ⟨.minute, .oneHour⟩⟩) ∧
      ∃ chart, (t.look 0).clients 0 =
        .served (.status ⟨.ready, ⟨.minute, .oneHour⟩⟩) (some chart) := by
  have htold : ((start newService).run race).map (fun t => t.clients 0) =
      .ok (.told (.status ⟨.ready, ⟨.minute, .oneHour⟩⟩)) := by
    decide +kernel
  obtain ⟨t, hrun, htold⟩ := exists_of_map_eq_ok htold
  obtain ⟨_, _, _, _, _, _, _, _, chart, -, -, -, -, -, -, -, -, -, hserved, -⟩ :=
    chart_since_reply newService_eq hrun htold rfl
  exact ⟨t, hrun, htold, chart, hserved⟩

/-- The first client is told of minutes and sees the chart of the hours that the second one
selected. -/
theorem look_after_race :
    ∃ t chart, Service.ofDashboard (.start .standard .standard .pointInTime) 2 = .ok newService ∧
      (start newService).run (race ++ [.look 0]) = .ok t ∧
      t.clients 0 = .served (.status ⟨.ready, ⟨.minute, .oneHour⟩⟩) (some chart) ∧
      Http.replyResponse .selection (.status ⟨.ready, ⟨.minute, .oneHour⟩⟩) (some chart) =
        .full 200 (.chart chart) ∧
      chart.labels.length = 1 ∧ (⟨.minute, .oneHour⟩ : Selection).gridLength = 60 := by
  have hserved : ((start newService).run (race ++ [.look 0])).map (fun t => t.clients 0) =
      .ok (.served (.status ⟨.ready, ⟨.minute, .oneHour⟩⟩) (some hourChart)) := by
    decide +kernel
  obtain ⟨t, hrun, hserved⟩ := exists_of_map_eq_ok hserved
  exact ⟨t, hourChart, newService_eq, hrun, hserved, rfl, rfl, by decide⟩

end Race

end CounterBoard.Traffic
