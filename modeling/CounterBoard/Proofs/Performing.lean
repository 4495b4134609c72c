import CounterBoard.Desk
import CounterBoard.Proofs.Publishing
import CounterBoard.Proofs.RunHistory

/-!
What commands do to a service that carries them out one at a time. A command is done when the
dashboard has heard of all its pieces, and the reply is read off all that was heard up to then. From
the first fetch on no reply says that nothing was loaded, and a reply that says there is data has a
chart behind it, which only another chart can replace.
-/

set_option autoImplicit false
set_option relaxedAutoImplicit false

namespace CounterBoard

open CounterBoard.Time

theorem exists_of_map_eq_ok {ε α β : Type} {x : Except ε α} {f : α → β} {b : β}
    (h : x.map f = .ok b) : ∃ a, x = .ok a ∧ f a = b := by
  cases x with
  | error fault => cases h
  | ok a => exact ⟨a, rfl, Except.ok.inj h⟩

theorem of_foldlM {ε σ α : Type} {f : σ → α → Except ε σ} {P : σ → Prop}
    (hkept : ∀ {s next : σ} {a : α}, f s a = .ok next → P s → P next) {l : List α} {s after : σ}
    (h : l.foldlM f s = .ok after) (hs : P s) : P after := by
  induction l generalizing s with
  | nil =>
    cases h
    exact hs
  | cons a l ih =>
    rw [List.foldlM_cons] at h
    obtain ⟨next, hnext, hrest⟩ := exists_of_bind_eq_ok h
    exact ih hrest (hkept hnext hs)

/-- The dashboard has heard of a piece. -/
def Piece.IsDone (piece : Piece) (told : Event × Instant) : Prop :=
  ∃ fetched, told.1 = piece.event fetched

namespace Command

def heard (around : Surroundings) : Command → List (Event × Instant)
  | .select granularity lookback =>
    (granularity.map fun g => (.granularityChanged g, around.now)).toList ++
      (lookback.map fun l => (.lookbackChanged l, around.later)).toList
  | .reload => [(.ofFetch around.fetched, around.now)]
  | .status => []
  | .snapshot => []

theorem length_pieces_le (command : Command) : command.pieces.length ≤ 2 := by
  rcases command with ⟨_ | _, _ | _⟩ | _ | _ | _ <;> simp [pieces]

private theorem exists_told_of_choice {α : Type} {choice : Option α} {piece : α → Piece}
    {event : α → Event} (hevent : ∀ fetched a, (piece a).event fetched = event a)
    {pieces : List Piece} {part : List (Event × Instant)}
    (h : List.Forall₂ Piece.IsDone ((choice.map piece).toList ++ pieces) part) :
    ∃ now rest, part = (choice.map fun a => (event a, now)).toList ++ rest ∧
      List.Forall₂ Piece.IsDone pieces rest := by
  cases choice with
  | none => exact ⟨⟨0, 0, by decide⟩, part, rfl, h⟩
  | some a =>
    cases h with
    | @cons _ told _ rest hdone hrest =>
      obtain ⟨fetched, htold⟩ := hdone
      refine ⟨told.2, rest, ?_, hrest⟩
      rw [hevent] at htold
      rw [Option.map_some, ← htold]
      rfl

theorem exists_heard {command : Command} {part : List (Event × Instant)}
    (h : List.Forall₂ Piece.IsDone command.pieces part) :
    ∃ around, command.heard around = part := by
  cases command with
  | select granularity lookback =>
    obtain ⟨now, rest, rfl, hrest⟩ := exists_told_of_choice (fun _ _ => rfl) h
    rw [← List.append_nil (Option.toList _)] at hrest
    obtain ⟨later, none, rfl, hnone⟩ := exists_told_of_choice (fun _ _ => rfl) hrest
    cases hnone
    exact ⟨⟨.ok .empty, now, later⟩, by rw [List.append_nil]; rfl⟩
  | reload =>
    cases h with
    | @cons _ told _ rest hdone hrest =>
      obtain ⟨fetched, htold⟩ := hdone
      cases hrest
      exact ⟨⟨fetched, told.2, told.2⟩, by rw [heard, ← Piece.event, ← htold]⟩
  | status | snapshot =>
    cases h
    exact ⟨⟨.ok .empty, ⟨0, 0, by decide⟩, ⟨0, 0, by decide⟩⟩, rfl⟩

end Command

namespace History

def ofHeard (heard : List (Event × Instant)) : History :=
  heard.map fun told => (.event told.1, told.2)

theorem ofHeard_append_single (heard : List (Event × Instant)) (told : Event × Instant) :
    ofHeard (heard ++ [told]) = ofHeard heard ++ [(.event told.1, told.2)] :=
  List.map_append

/-- The reply to a command when so much was heard: whether there is data and what is selected, or
the log that was loaded last, as a snapshot, if any was. -/
inductive Replies (initial : Selection) (h : History) : Command → Reply → Prop
  | status {command : Command} (hcommand : command ≠ .snapshot) :
      Replies initial h command (.status ⟨h.state, h.selection initial⟩)
  | snapshot {log : Log} (hlog : h.last? RunStep.log? = some log) :
      Replies initial h .snapshot (.snapshot (some (.ofLog log)))
  | nothing (hlog : h.last? RunStep.log? = none) : Replies initial h .snapshot (.snapshot none)

end History

namespace Service

def hearAll (s : Service) (heard : List (Event × Instant)) : Except Fault Service :=
  heard.foldlM (fun s told => s.hear told.1 told.2) s

theorem hearAll_append (s : Service) (part rest : List (Event × Instant)) :
    s.hearAll (part ++ rest) = s.hearAll part >>= fun after => after.hearAll rest :=
  List.foldlM_append

theorem hearAll_single (s : Service) (told : Event × Instant) :
    s.hearAll [told] = s.hear told.1 told.2 := by
  rw [hearAll, List.foldlM_cons]
  exact bind_pure _

theorem hearAll_toList {α : Type} (s : Service) (choice : Option α) (event : α → Event)
    (now : Instant) : s.hearAll (choice.map fun a => (event a, now)).toList =
      s.hearAny (choice.map event) now := by
  cases choice with
  | none => rfl
  | some a => exact hearAll_single s (event a, now)

/-- To carry out a command is to have the dashboard hear of all its pieces and then to reply. -/
theorem perform_eq_hearAll (s : Service) (command : Command) (around : Surroundings) :
    s.perform command around =
      (s.hearAll (command.heard around)).map fun after => (after, after.reply command) := by
  cases command with
  | select granularity lookback =>
    rw [Command.heard, hearAll_append, hearAll_toList, perform]
    simp only [hearAll_toList]
    cases s.hearAny (granularity.map .granularityChanged) around.now with
    | error fault => rfl
    | ok between =>
      change (between.hearAny _ _ >>= _) = (between.hearAny _ _).map _
      cases between.hearAny (lookback.map .lookbackChanged) around.later <;> rfl
  | reload =>
    rw [Command.heard, hearAll_single, perform]
    cases s.hear (.ofFetch around.fetched) around.now <;> rfl
  | status | snapshot => rfl

theorem of_hearAll {P : Service → Prop}
    (hkept : ∀ {s after : Service} {event now}, s.hear event now = .ok after → P s → P after)
    {s after : Service} {part : List (Event × Instant)} (h : s.hearAll part = .ok after)
    (hs : P s) : P after :=
  of_foldlM (fun hheard => hkept hheard) h hs

variable {s after : Service} {event : Event} {now : Instant}

theorem charts_of_hear (h : s.hear event now = .ok after) :
    after.charts = s.charts ∨ ∃ chart, after.charts = s.charts.publish chart ∧
      after.dashboard.state = .ready ∧ after.dashboard.chart now = .ok chart := by
  by_cases hready : (s.dashboard.apply event).state = .ready
  · simp only [hear, Dashboard.handle, Dashboard.frame?, if_pos hready] at h
    cases hchart : (s.dashboard.apply event).chart now with
    | error fault =>
      rw [hchart] at h
      cases h
    | ok chart =>
      rw [hchart] at h
      cases h
      exact .inr ⟨chart, rfl, hready, hchart⟩
  · rw [hear_of_not_ready hready] at h
    cases h
    exact .inl rfl

theorem latest_isSome_of_hear (h : s.hear event now = .ok after)
    (hs : s.charts.latest.isSome = true) : after.charts.latest.isSome = true := by
  rcases charts_of_hear h with hcharts | ⟨chart, hcharts, -⟩
  · rwa [hcharts]
  · rw [hcharts]
    rfl

theorem state_ne_loading_of_hear (h : s.hear event now = .ok after)
    (hs : s.dashboard.state ≠ .loading) : after.dashboard.state ≠ .loading := by
  obtain ⟨hafter, -⟩ := hear_cases h
  rw [hafter]
  cases event with
  | loaded | unavailable => simp [Dashboard.apply]
  | granularityChanged | lookbackChanged => exact hs

theorem dashboard_of_hearAll {initial : Selection} {style : ChartStyle} {sampling : Sampling}
    {heard part : List (Event × Instant)} (h : s.hearAll part = .ok after)
    (hs : s.dashboard = History.dashboard initial style sampling (.ofHeard heard)) :
    after.dashboard = History.dashboard initial style sampling (.ofHeard (heard ++ part)) := by
  induction part generalizing s heard with
  | nil =>
    cases h
    rwa [List.append_nil]
  | cons told part ih =>
    rw [hearAll, List.foldlM_cons] at h
    obtain ⟨next, hnext, hrest⟩ := exists_of_bind_eq_ok h
    obtain ⟨hdashboard, -⟩ := hear_cases hnext
    have hheard : next.dashboard =
        History.dashboard initial style sampling (.ofHeard (heard ++ [told])) := by
      rw [hdashboard, hs, History.ofHeard_append_single, History.dashboard_append_event]
    have hlast := ih hrest hheard
    rwa [List.append_assoc] at hlast

theorem replies_reply {initial : Selection} {style : ChartStyle} {sampling : Sampling} {h : History}
    (hs : s.dashboard = History.dashboard initial style sampling h) (command : Command) :
    h.Replies initial command (s.reply command) := by
  have hstatus : s.status = ⟨h.state, h.selection initial⟩ := by
    rw [status, hs]
    rfl
  cases command with
  | snapshot =>
    change h.Replies initial .snapshot (.snapshot s.snapshot?)
    cases hlog : h.last? RunStep.log? with
    | none =>
      have hnone : s.snapshot? = none := by
        rw [snapshot?, hs]
        simp [History.dashboard, History.isLoaded, hlog]
      rw [hnone]
      exact .nothing hlog
    | some log =>
      have hsome : s.snapshot? = some (.ofLog log) := by
        rw [snapshot?, hs]
        simp [History.dashboard, History.isLoaded, History.log, hlog]
      rw [hsome]
      exact .snapshot hlog
  | select | reload | status =>
    change h.Replies initial _ (.status s.status)
    rw [hstatus]
    exact .status (by simp)

/-- A service that was made for a dashboard with the selection, and has done nothing. -/
def IsNew (s : Service) (initial : Selection) : Prop :=
  ∃ style sampling capacity, ofDashboard (.start initial style sampling) capacity = .ok s

theorem IsNew.fresh {initial : Selection} (h : s.IsNew initial) : s.charts.latest = none ∧
    ∃ style sampling, s.dashboard = History.dashboard initial style sampling (.ofHeard []) := by
  obtain ⟨style, sampling, capacity, hmade⟩ := h
  rw [ofDashboard] at hmade
  split at hmade
  · cases hmade
    exact ⟨rfl, style, sampling, rfl⟩
  · cases hmade

theorem IsNew.isCurrent {initial : Selection} (h : s.IsNew initial) : s.IsCurrent := by
  obtain ⟨-, style, sampling, hfresh⟩ := h.fresh
  intro hready
  rw [hfresh] at hready
  cases hready

/-- A new service makes its first fetch and then carries out commands, one at a time and each as a
whole. The reply to a command is read off all that was heard by then. -/
inductive Served (initial : Selection) (first : Service) :
    List (Event × Instant) → List Command → List Reply → Service → Prop
  | opened {around : Surroundings} {s : Service} (hnew : first.IsNew initial)
      (hstart : first.start around = .ok s) :
      Served initial first [(.ofFetch around.fetched, around.now)] [] [] s
  | next {heard : List (Event × Instant)} {commands : List Command} {replies : List Reply}
      {s after : Service} {command : Command} {around : Surroundings} {reply : Reply}
      (hserved : Served initial first heard commands replies s)
      (hheard : s.hearAll (command.heard around) = .ok after)
      (hreply : History.Replies initial (.ofHeard (heard ++ command.heard around)) command reply) :
      Served initial first (heard ++ command.heard around) (commands ++ [command])
        (replies ++ [reply]) after

namespace Served

variable {initial : Selection} {first : Service} {heard : List (Event × Instant)}
  {commands : List Command} {replies : List Reply}

theorem length_eq (h : Served initial first heard commands replies s) :
    commands.length = replies.length := by
  induction h with
  | opened => rfl
  | next _ _ _ ih => rw [List.length_append, List.length_append, ih]; rfl

theorem dashboard_eq (h : Served initial first heard commands replies s) :
    ∃ style sampling, s.dashboard = History.dashboard initial style sampling (.ofHeard heard) := by
  induction h with
  | @opened around s hnew hstart =>
    obtain ⟨-, style, sampling, hfirst⟩ := hnew.fresh
    have hheard : first.hearAll [(.ofFetch around.fetched, around.now)] = .ok s :=
      (hearAll_single first _).trans hstart
    exact ⟨style, sampling, dashboard_of_hearAll hheard hfirst⟩
  | next _ hheard _ ih =>
    obtain ⟨style, sampling, hdashboard⟩ := ih
    exact ⟨style, sampling, dashboard_of_hearAll hheard hdashboard⟩

theorem exists_of_getElem? (h : Served initial first heard commands replies s) {place : Nat}
    {reply : Reply} (hreply : replies[place]? = some reply) :
    ∃ command told between, commands[place]? = some command ∧ told <+: heard ∧
      Served initial first told (commands.take (place + 1)) (replies.take (place + 1)) between ∧
      History.Replies initial (.ofHeard told) command reply := by
  induction h with
  | opened => cases hreply
  | @next heard commands replies s after command around last hserved hheard hlast ih =>
    have hlength := hserved.length_eq
    rcases Nat.lt_or_ge place replies.length with hlt | hge
    · rw [List.getElem?_append_left hlt] at hreply
      obtain ⟨asked, told, between, hasked, htold, hbetween, hreplies⟩ := ih hreply
      refine ⟨asked, told, between, ?_, htold.trans (List.prefix_append _ _), ?_, hreplies⟩
      · rwa [List.getElem?_append_left (hlength ▸ hlt)]
      · rwa [List.take_append_of_le_length (hlength ▸ hlt), List.take_append_of_le_length hlt]
    · obtain ⟨hplace, -⟩ := List.getElem?_eq_some_iff.mp hreply
      obtain rfl : place = replies.length := by
        rw [List.length_append, List.length_singleton] at hplace
        omega
      rw [List.getElem?_concat_length] at hreply
      cases hreply
      refine ⟨command, _, after, ?_, List.prefix_rfl, ?_, hlast⟩
      · rw [← hlength, List.getElem?_concat_length]
      · have hwhole := hserved.next hheard hlast
        rwa [← List.take_of_length_le (l := commands ++ [command]) (i := replies.length + 1)
          (by simp [hlength]), ← List.take_of_length_le (l := replies ++ [reply])
          (i := replies.length + 1) (by simp)] at hwhole

theorem isCurrent (h : Served initial first heard commands replies s) : s.IsCurrent := by
  induction h with
  | opened hnew hstart => exact hnew.isCurrent.follows (follows_of_hear hstart)
  | next _ hheard _ ih =>
    exact of_hearAll (fun hnext hs => hs.follows (follows_of_hear hnext)) hheard ih

theorem state_ne_loading (h : Served initial first heard commands replies s) :
    s.dashboard.state ≠ .loading := by
  induction h with
  | @opened around s _ hstart =>
    obtain ⟨hdashboard, -⟩ := hear_cases hstart
    rw [hdashboard]
    cases around.fetched <;> simp [Event.ofFetch, Dashboard.apply]
  | next _ hheard _ ih => exact of_hearAll state_ne_loading_of_hear hheard ih

theorem of_mem_replies (h : Served initial first heard commands replies s)
    {status : Status} (hreply : .status status ∈ replies) :
    status.state ≠ .loading ∧ (status.state = .ready → s.charts.latest.isSome = true) := by
  induction h with
  | opened => cases hreply
  | next hserved hheard hlast ih =>
    rcases List.mem_append.mp hreply with hbefore | hnew
    · obtain ⟨hloaded, hchart⟩ := ih hbefore
      exact ⟨hloaded, fun hready => of_hearAll latest_isSome_of_hear hheard (hchart hready)⟩
    · obtain rfl := List.mem_singleton.mp hnew
      have hafter := hserved.next hheard hlast
      obtain ⟨style, sampling, hdashboard⟩ := hafter.dashboard_eq
      cases hlast with
      | status =>
        refine ⟨?_, fun hready => ?_⟩
        · have hloaded := hafter.state_ne_loading
          rwa [hdashboard] at hloaded
        · obtain ⟨-, now, chart, -, hlatest⟩ := hafter.isCurrent (by rw [hdashboard]; exact hready)
          rw [hlatest]
          rfl

end Served

end Service

end CounterBoard
