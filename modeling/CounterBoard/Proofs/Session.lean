import CounterBoard.Proofs.Performing
import CounterBoard.Proofs.Standing

/-!
A service answers a session as its standing says. Each exchange brings the service from one
standing to the next, with the latest chart drawn as of the time at which one was last due, and so
it answers with nothing but what the session has come to.
-/

set_option autoImplicit false
set_option relaxedAutoImplicit false

namespace CounterBoard

open CounterBoard.Time

def Service.serve (s : Service) : Session → Except Fault (Service × List Http.Response)
  | [] => .ok (s, [])
  | x :: session => do
    let (s, response) ← Http.respond s x.request x.around
    let (s, responses) ← s.serve session
    .ok (s, response :: responses)

def Standing.dashboard (st : Standing) (style : ChartStyle) (sampling : Sampling) : Dashboard :=
  ⟨⟨st.stock.log?.getD .empty, st.selection, st.stock.log?.isSome⟩, style, sampling,
    st.stock.state⟩

namespace Standing

variable {st : Standing} {style : ChartStyle} {sampling : Sampling} {x : Exchange} {code : Nat}

theorem respond_of_answer {content : Http.Content}
    (h : st.answer style sampling x.ask = .ok (code, content)) : st.respond style sampling x =
      .ok ⟨code, content, x.request.method == "HEAD" && content != .nothing⟩ := by
  rw [respond, h]
  rfl

theorem respond_nothing (h : st.answer style sampling x.ask = .ok (code, .nothing)) :
    st.respond style sampling x = .ok (.full code .nothing) := by
  rw [respond_of_answer h, bne_self_eq_false, Bool.and_false]
  rfl

theorem respond_content {content : Http.Content}
    (h : st.answer style sampling x.ask = .ok (code, content)) (hcontent : content ≠ .nothing) :
    st.respond style sampling x = .ok ⟨code, content, x.request.method == "HEAD"⟩ := by
  rw [respond_of_answer h, bne_iff_ne.mpr hcontent, Bool.and_true]

end Standing

namespace Http

/-- The route and the command of what is asked, if it takes a command to answer. -/
def Ask.command? : Ask → Option (Route × Command)
  | .snapshot => some (.snapshot, .snapshot)
  | .status => some (.status, .status)
  | .chart => some (.chart, .status)
  | .select labels => some (.selection, labels.command)
  | .reload => some (.reload, .reload)
  | _ => none

theorem commandOf_cases (route : Route) (request : Request) :
    (∃ code content, commandOf route request = .error (.full code content) ∧
      content ≠ .nothing ∧ (request.routeAsk route).command? = none ∧
      ∀ (st : Standing) (style : ChartStyle) (sampling : Sampling),
        st.answer style sampling (request.routeAsk route) = .ok (code, content)) ∨
    ∃ command, commandOf route request = .ok command ∧
      (request.routeAsk route).command? = some (route, command) := by
  cases route with
  | root => exact .inl ⟨_, _, rfl, by simp, rfl, fun _ _ _ => rfl⟩
  | version => exact .inl ⟨_, _, rfl, by simp, rfl, fun _ _ _ => rfl⟩
  | snapshot => exact .inr ⟨_, rfl, rfl⟩
  | status => exact .inr ⟨_, rfl, rfl⟩
  | chart => exact .inr ⟨_, rfl, rfl⟩
  | reload => exact .inr ⟨_, rfl, rfl⟩
  | selection =>
    simp only [commandOf, selectionCommand, Request.routeAsk, Request.selectionAsk]
    split
    · split
      · cases Json.whole SelectionRequest.read (Text.decodeUtf8 request.body) with
        | ok labels => exact .inr ⟨_, rfl, rfl⟩
        | error refusal =>
          cases refusal with
          | malformed => exact .inl ⟨_, _, rfl, by simp, rfl, fun _ _ _ => rfl⟩
          | mismatch => exact .inl ⟨_, _, rfl, by simp, rfl, fun _ _ _ => rfl⟩
      · exact .inl ⟨_, _, rfl, by simp, rfl, fun _ _ _ => rfl⟩
    · exact .inl ⟨_, _, rfl, by simp, rfl, fun _ _ _ => rfl⟩

theorem bare_of_answer {x : Exchange} {ask : Ask} {code : Nat} (hask : x.request.ask = ask)
    (hcommand : ask.command? = none)
    (hanswer : ∀ (st : Standing) (style : ChartStyle) (sampling : Sampling),
      st.answer style sampling ask = .ok (code, .nothing)) :
    x.ask.command? = none ∧ ∀ (st : Standing) (style : ChartStyle) (sampling : Sampling),
      st.respond style sampling x = .ok (.full code .nothing) := by
  obtain rfl := (Request.asks_iff.mp x.asks).symm.trans hask
  exact ⟨hcommand, fun st style sampling => Standing.respond_nothing (hanswer st style sampling)⟩

theorem respond_cases (x : Exchange) :
    (∃ response, (x.ask.command? = none ∧
      ∀ (st : Standing) (style : ChartStyle) (sampling : Sampling),
        st.respond style sampling x = .ok response) ∧
      ∀ service, respond service x.request x.around = .ok (service, response)) ∨
    ∃ route command, x.ask.command? = some (route, command) ∧
      ∀ service, respond service x.request x.around = (do
        let (service, response) ← answer service route command x.around
        .ok (service, { response with headerOnly := x.request.method == "HEAD" })) := by
  unfold respond
  by_cases hoptions : x.request.method = "OPTIONS"
  · simp only [if_pos hoptions]
    have hask : x.request.ask = .options := if_pos hoptions
    exact .inl ⟨_, bare_of_answer hask rfl fun _ _ _ => rfl, fun _ => rfl⟩
  simp only [if_neg hoptions]
  cases hroute : Route.ofTarget? x.request.target with
  | none =>
    have hask : x.request.ask = .elsewhere := by
      rw [Request.ask, if_neg hoptions, hroute]
    exact .inl ⟨_, bare_of_answer hask rfl fun _ _ _ => rfl, fun _ => rfl⟩
  | some route =>
    have hask := Request.ask_of_route route (Route.ofTarget?_eq_some_iff.mp hroute) hoptions
    by_cases hadmits : route.admits x.request.method = true
    · rw [if_pos hadmits, Request.asks_iff.mp x.asks] at hask
      simp only [if_pos hadmits, hask]
      obtain ⟨code, content, hcommand, hcontent, hfixed, hanswer⟩ | ⟨command, hcommand, hfound⟩ :=
        commandOf_cases route x.request
      · refine .inl ⟨_, ⟨hfixed, ?_⟩, fun _ => by rw [hcommand]⟩
        intro st style sampling
        exact Standing.respond_content (hask ▸ hanswer st style sampling) hcontent
      · exact .inr ⟨route, command, hfound, fun _ => by rw [hcommand]⟩
    · rw [if_neg hadmits] at hask
      simp only [if_neg hadmits]
      exact .inl ⟨_, bare_of_answer hask rfl fun _ _ _ => rfl, fun _ => rfl⟩

theorem chartResponse_content_ne_nothing (status : Status) (chart : Option Chart) :
    (chartResponse status chart).content ≠ .nothing := by
  unfold chartResponse unavailable Response.full
  split
  · split <;> simp
  · simp
  · simp

theorem replyResponse_content_ne_nothing (route : Route) (reply : Reply) (chart : Option Chart) :
    (replyResponse route reply chart).content ≠ .nothing := by
  cases reply with
  | snapshot stored =>
    cases stored <;> simp [replyResponse, snapshotResponse, unavailable, Response.full]
  | status status =>
    cases route with
    | status => simp [replyResponse, Response.full]
    | reload => simp [replyResponse, reloadResponse, Response.full]
    | _ => exact chartResponse_content_ne_nothing status chart

end Http

/-- A service to which all that a session has come to can be seen. -/
structure Service.Shows (s : Service) (st : Standing) (style : ChartStyle) (sampling : Sampling) :
    Prop where
  isRunning : s.isRunning = true
  dashboard_eq : s.dashboard = st.dashboard style sampling
  latest_eq : st.stock.state = .ready → ∃ chart, s.charts.latest = some chart ∧
    (st.dashboard style sampling).chart st.asOf = .ok chart

namespace Service

variable {s : Service} {st : Standing} {style : ChartStyle} {sampling : Sampling}

theorem exists_hear {event : Event} {now : Instant} (hrunning : s.isRunning = true)
    (hevent : s.dashboard.apply event = st.dashboard style sampling)
    (hready : st.stock.state = .ready → Nonempty (Window st.selection now) ∧ st.asOf = now) :
    ∃ after, s.hear event now = .ok after ∧ after.Shows st style sampling := by
  by_cases hstate : st.stock.state = .ready
  · obtain ⟨⟨w⟩, hnow⟩ := hready hstate
    have hafter : (s.dashboard.apply event).state = .ready := by
      rw [hevent]
      exact hstate
    have hselection : (s.dashboard.apply event).selection = st.selection := by
      rw [hevent]
      rfl
    rw [← hselection] at w
    refine ⟨_, hear_of_ready hafter w, hrunning, hevent, fun _ => ⟨_, rfl, ?_⟩⟩
    rw [hnow, ← hevent]
    exact Dashboard.chart_eq w
  · have hafter : (s.dashboard.apply event).state ≠ .ready := by
      rw [hevent]
      exact hstate
    exact ⟨_, hear_of_not_ready hafter, hrunning, hevent, fun hready => absurd hready hstate⟩

end Service

namespace Service.Shows

variable {s : Service} {st : Standing} {style : ChartStyle} {sampling : Sampling}

theorem status_eq (h : s.Shows st style sampling) : s.status = st.status := by
  rw [status, h.dashboard_eq]
  rfl

theorem snapshot?_eq (h : s.Shows st style sampling) :
    s.snapshot? = st.stock.log?.map Snapshot.ofLog := by
  rw [snapshot?, h.dashboard_eq]
  cases hlog : st.stock.log? <;> simp [Standing.dashboard, hlog]

theorem hear_fetch (h : s.Shows st style sampling) (around : Surroundings)
    (hwindow : ∀ log, around.fetched = .ok log → Nonempty (Window st.selection around.now)) :
    ∃ after, s.hear (.ofFetch around.fetched) around.now = .ok after ∧
      after.Shows ⟨st.selection, st.stock.fetch around.fetched,
        around.fetched.toOption.elim st.asOf fun _ => around.now⟩ style sampling := by
  cases hfetched : around.fetched with
  | ok log =>
    exact exists_hear h.isRunning (h.dashboard_eq ▸ rfl) fun _ => ⟨hwindow log hfetched, rfl⟩
  | error cause =>
    refine exists_hear h.isRunning (h.dashboard_eq ▸ rfl) ?_
    intro hready
    cases hready

theorem hear_choice (h : s.Shows st style sampling) (selection : Selection) {event : Event}
    {now : Instant}
    (hevent : (st.dashboard style sampling).apply event =
      ({ st with selection } : Standing).dashboard style sampling)
    (hwindow : st.stock.state = .ready → Nonempty (Window selection now)) :
    ∃ after, s.hear event now = .ok after ∧
      after.Shows ⟨selection, st.stock, if st.stock.state = .ready then now else st.asOf⟩
        style sampling := by
  refine exists_hear h.isRunning (h.dashboard_eq ▸ hevent) ?_
  intro hready
  exact ⟨hwindow hready, if_pos hready⟩

theorem hearAny_granularity (h : s.Shows st style sampling) (label : Option String) (now : Instant)
    (hwindow : ∀ text, label = some text → st.stock.state = .ready →
      Nonempty (Window ⟨.ofLabel text, st.selection.lookback⟩ now)) :
    ∃ after, s.hearAny ((label.map .ofLabel).map .granularityChanged) now = .ok after ∧
      after.Shows ⟨⟨label.elim st.selection.granularity .ofLabel, st.selection.lookback⟩, st.stock,
        if st.stock.state = .ready then label.elim st.asOf fun _ => now else st.asOf⟩
          style sampling := by
  cases label with
  | none =>
    refine ⟨s, rfl, ?_⟩
    simpa using h
  | some text =>
    simp only [Option.map_some, Option.elim_some, hearAny]
    exact h.hear_choice ⟨.ofLabel text, st.selection.lookback⟩ rfl (hwindow text rfl)

theorem hearAny_lookback (h : s.Shows st style sampling) (label : Option String) (now : Instant)
    (hwindow : ∀ text, label = some text → st.stock.state = .ready →
      Nonempty (Window ⟨st.selection.granularity, .ofLabel text⟩ now)) :
    ∃ after, s.hearAny ((label.map .ofLabel).map .lookbackChanged) now = .ok after ∧
      after.Shows ⟨⟨st.selection.granularity, label.elim st.selection.lookback .ofLabel⟩, st.stock,
        if st.stock.state = .ready then label.elim st.asOf fun _ => now else st.asOf⟩
          style sampling := by
  cases label with
  | none =>
    refine ⟨s, rfl, ?_⟩
    simpa using h
  | some text =>
    simp only [Option.map_some, Option.elim_some, hearAny]
    exact h.hear_choice ⟨st.selection.granularity, .ofLabel text⟩ rfl (hwindow text rfl)

/-- The granularity is chosen before the lookback, and what is due last is due as of the clock that
was read last. -/
theorem hearAll_selection (h : s.Shows st style sampling) (labels : SelectionRequest)
    (around : Surroundings)
    (hwindow : st.stock.state = .ready →
      ∀ chart ∈ labels.due st.selection around, Nonempty (Window chart.1 chart.2)) :
    ∃ after, s.hearAll (labels.command.heard around) = .ok after ∧
      after.Shows ⟨labels.choose st.selection, st.stock,
        (if st.stock.state = .ready then labels.due st.selection around else []).getLast?.elim
          st.asOf Prod.snd⟩ style sampling := by
  obtain ⟨between, hbetween, hshowsBetween⟩ := h.hearAny_granularity labels.granularity around.now
    (by
      intro text htext hready
      exact hwindow hready (_, around.now) (by simp [SelectionRequest.due, htext]))
  obtain ⟨after, hafter, hshows⟩ := hshowsBetween.hearAny_lookback labels.lookback around.later
    (by
      intro text htext hready
      exact hwindow hready (_, around.later)
        (by simp [SelectionRequest.due, SelectionRequest.choose, htext]))
  refine ⟨after, ?_, ?_⟩
  · -- The command draws once for each field, from the standing in between.
    rw [SelectionRequest.command, Command.heard, hearAll_append, hearAll_toList, hbetween]
    exact (hearAll_toList _ _ _ _).trans hafter
  · -- Whichever field was given last is the last one due.
    have hasOf : (if st.stock.state = .ready then
          labels.due st.selection around else []).getLast?.elim st.asOf Prod.snd =
        if st.stock.state = .ready then
          labels.lookback.elim (labels.granularity.elim st.asOf fun _ => around.now) fun _ =>
            around.later
        else st.asOf := by
      split <;> cases hgranularity : labels.granularity <;> cases hlookback : labels.lookback <;>
        simp [SelectionRequest.due, hgranularity, hlookback]
    rw [hasOf]
    by_cases hready : st.stock.state = .ready <;>
      simpa [SelectionRequest.choose, hready] using hshows

theorem chartAnswer_eq (h : s.Shows st style sampling) : st.chartAnswer style sampling =
    .ok ((Http.chartResponse s.status s.charts.latest).code,
      (Http.chartResponse s.status s.charts.latest).content) := by
  rw [h.status_eq, Standing.chartAnswer]
  cases hstock : st.stock with
  | fresh log =>
    obtain ⟨chart, hlatest, hchart⟩ := h.latest_eq (by rw [hstock]; rfl)
    have hdrawn : (resample log st.selection st.asOf sampling >>= fun series =>
        Chart.ofSeries series style) = .ok chart := by
      simpa [Standing.dashboard, Dashboard.chart, Dashboard.selection, hstock, Stock.log?]
        using hchart
    simp only [← bind_assoc]
    rw [hdrawn, hlatest]
    rw [Standing.status, hstock]
    rfl
  | stale cause kept =>
    rw [Standing.status, hstock]
    rfl

theorem answer_eq (h : s.Shows st style sampling) {ask : Http.Ask} {route : Http.Route}
    {command : Command} (hcommand : ask.command? = some (route, command)) :
    st.answer style sampling ask =
      .ok ((Http.replyResponse route (s.reply command) s.charts.latest).code,
        (Http.replyResponse route (s.reply command) s.charts.latest).content) := by
  cases ask with
  | snapshot =>
    cases hcommand
    rw [Service.reply, h.snapshot?_eq]
    cases hlog : st.stock.log? with
    | none => simp [Standing.answer, hlog, Http.replyResponse, Http.snapshotResponse,
        Http.unavailable, Http.Response.full]
    | some log => simp [Standing.answer, hlog, Http.replyResponse, Http.snapshotResponse,
        Http.Response.full]
  | status =>
    cases hcommand
    change _ = Except.ok (200, Http.Content.status s.status)
    rw [h.status_eq]
    rfl
  | reload =>
    cases hcommand
    change _ = Except.ok
      ((Http.reloadResponse s.status).code, (Http.reloadResponse s.status).content)
    rw [h.status_eq]
    cases hstock : st.stock <;>
      simp [Standing.answer, hstock, Http.reloadResponse, Standing.status, Stock.state,
        Http.Response.full]
  | chart =>
    cases hcommand
    exact h.chartAnswer_eq
  | select labels =>
    cases hcommand
    exact h.chartAnswer_eq
  | _ => cases hcommand

theorem hearAll_noted (h : s.Shows st style sampling) {x : Exchange} {route : Http.Route}
    {command : Command} (hcommand : x.ask.command? = some (route, command))
    (hwindow : ∀ chart ∈ st.due x, Nonempty (Window chart.1 chart.2)) :
    ∃ after, s.hearAll (command.heard x.around) = .ok after ∧
      after.Shows (st.note x) style sampling := by
  cases hask : x.ask with
  | snapshot | status | chart =>
    rw [hask] at hcommand
    cases hcommand
    refine ⟨s, rfl, ?_⟩
    rwa [Standing.note_eq_self (by simp [hask]) (by simp [hask])]
  | select labels =>
    rw [hask] at hcommand
    cases hcommand
    simp only [Standing.due, hask] at hwindow
    simp only [Standing.note, Standing.due, Exchange.labels, Exchange.fetched?, hask]
    refine h.hearAll_selection labels x.around ?_
    intro hready
    rwa [if_pos hready] at hwindow
  | reload =>
    rw [hask] at hcommand
    cases hcommand
    simp only [Standing.due, hask] at hwindow
    obtain ⟨after, hafter, hshows⟩ := h.hear_fetch x.around (by
      intro log hfetched
      rw [hfetched] at hwindow
      exact hwindow _ List.mem_cons_self)
    have hnote : st.note x = ⟨st.selection, st.stock.fetch x.around.fetched,
        x.around.fetched.toOption.elim st.asOf fun _ => x.around.now⟩ := by
      simp only [Standing.note, Standing.due, Exchange.labels, Exchange.fetched?, hask]
      cases x.around.fetched <;> rfl
    exact ⟨after, (s.hearAll_single _).trans hafter, hnote ▸ hshows⟩
  | _ =>
    rw [hask] at hcommand
    cases hcommand

theorem respond (h : s.Shows st style sampling) (x : Exchange)
    (hwindow : ∀ chart ∈ st.due x, Nonempty (Window chart.1 chart.2)) :
    ∃ after response, Http.respond s x.request x.around = .ok (after, response) ∧
      (st.note x).respond style sampling x = .ok response ∧
      after.Shows (st.note x) style sampling := by
  rcases Http.respond_cases x with
    ⟨response, ⟨hfixed, hresponse⟩, hrespond⟩ | ⟨route, command, hcommand, hrespond⟩
  · refine ⟨s, response, hrespond s, hresponse _ _ _, ?_⟩
    have hselect : ∀ labels, x.ask ≠ .select labels := by
      rintro labels hask
      rw [hask] at hfixed
      cases hfixed
    have hreload : x.ask ≠ .reload := by
      intro hask
      rw [hask] at hfixed
      cases hfixed
    rwa [Standing.note_eq_self hselect hreload]
  · obtain ⟨after, hafter, hshows⟩ := h.hearAll_noted hcommand hwindow
    have hanswer : Http.answer s route command x.around =
        .ok (after, Http.replyResponse route (after.reply command) after.charts.latest) := by
      simp only [Http.answer, if_pos h.isRunning, perform_eq_hearAll, hafter]
      rfl
    have hresponse := Standing.respond_content (hshows.answer_eq hcommand)
      (Http.replyResponse_content_ne_nothing _ _ _)
    refine ⟨after, _, ?_, hresponse, hshows⟩
    rw [hrespond, hanswer]
    rfl

theorem serve (h : s.Shows st style sampling) (session : Session) (hcal : st.InCalendar session) :
    ∃ after responses, s.serve session = .ok (after, responses) ∧
      st.answers style sampling session = .ok responses ∧
      after.Shows (st.after session) style sampling := by
  induction session generalizing s st with
  | nil => exact ⟨s, [], rfl, rfl, h⟩
  | cons x session ih =>
    obtain ⟨hdue, hlater⟩ := List.forall_mem_append.mp hcal
    obtain ⟨next, response, hrespond, hanswer, hnext⟩ := h.respond x hdue
    obtain ⟨after, responses, hserve, hanswers, hafter⟩ := ih hnext hlater
    refine ⟨after, response :: responses, ?_, ?_, hafter⟩
    · rw [Service.serve, hrespond]
      change (next.serve session >>= _) = _
      rw [hserve]
      rfl
    · rw [Standing.answers, hanswer]
      change ((st.note x).answers style sampling session >>= _) = _
      rw [hanswers]
      rfl

end Service.Shows

namespace Service

section Outage

private def get (target : String) : Http.Request :=
  ⟨"GET", target, none, []⟩

private def choose (body : String) : Http.Request :=
  ⟨"POST", "/api/selection", some "Application/JSON; charset=utf-8", body.toUTF8.data.toList⟩

end Outage

end Service

end CounterBoard
