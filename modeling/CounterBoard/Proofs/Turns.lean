import CounterBoard.Proofs.Performing
import Mathlib.Data.List.Forall2

/-!
The moves of a desk, one at a time. Commands are taken from the line in the order in which they
came in, and one that was taken is done as a whole before anything else is. So at any moment the
service is what it would be if the commands with replies had been all, but for the pieces already
done of the one at hand; and an answer that was given stays.
-/

set_option autoImplicit false
set_option relaxedAutoImplicit false

namespace CounterBoard.Desk

open CounterBoard.Time

variable {t next : Desk} {move : Move}

@[simp]
theorem give_self (answers : Nat → Option (Except Interruption Reply)) (place : Nat)
    (answer : Except Interruption Reply) : give answers place answer place = some answer :=
  if_pos rfl

theorem give_of_ne (answers : Nat → Option (Except Interruption Reply)) {place other : Nat}
    (answer : Except Interruption Reply) (h : other ≠ place) :
    give answers place answer other = answers other :=
  if_neg h

theorem give_reply {answers : Nat → Option (Except Interruption Reply)} {replies : List Reply}
    (h : ∀ place, answers place = replies[place]?.map .ok) (reply : Reply) (place : Nat) :
    give answers replies.length (.ok reply) place = (replies ++ [reply])[place]?.map .ok := by
  rcases Nat.lt_trichotomy place replies.length with hlt | rfl | hgt
  · rw [give_of_ne _ _ (Nat.ne_of_lt hlt), h, List.getElem?_append_left hlt]
  · rw [give_self, List.getElem?_concat_length]
    rfl
  · have hlength : (replies ++ [reply]).length ≤ place := by
      rw [List.length_append, List.length_singleton]
      exact hgt
    rw [give_of_ne _ _ (Nat.ne_of_gt hgt), h, List.getElem?_eq_none (Nat.le_of_lt hgt),
      List.getElem?_eq_none hlength]

theorem close_answers_of_lt {place : Nat} (h : place < t.asked.length) :
    t.close.answers place = (t.answers place).or (some (.error (t.interruption place))) :=
  if_pos h

theorem close_answers_of_le {place : Nat} (h : t.asked.length ≤ place) :
    t.close.answers place = t.answers place :=
  if_neg (Nat.not_lt.mpr h)

inductive Step (t : Desk) : Move → Desk → Prop
  | opened {fetched : Except SourceError Log} {now : Instant} {service : Service}
      (hstage : t.stage = .opening)
      (hheard : t.service.hear (.ofFetch fetched) now = .ok service) :
      Step t (.work fetched now)
        { t with service, journal := t.journal ++ [(.ofFetch fetched, now)], stage := .free }
  | idle {fetched : Except SourceError Log} {now : Instant} (hstage : t.stage = .free)
      (hline : t.line = []) : Step t (.work fetched now) t
  | taken {fetched : Except SourceError Log} {now : Instant} {command : Command} {place : Nat}
      {line : List (Command × Nat)} (hstage : t.stage = .free)
      (hline : t.line = (command, place) :: line) :
      Step t (.work fetched now) { t with line, stage := .busy place command command.pieces }
  | worked {fetched : Except SourceError Log} {now : Instant} {service : Service} {place : Nat}
      {command : Command} {piece : Piece} {left : List Piece}
      (hstage : t.stage = .busy place command (piece :: left))
      (hheard : t.service.hear (piece.event fetched) now = .ok service) :
      Step t (.work fetched now) { t with
        service
        journal := t.journal ++ [(piece.event fetched, now)]
        stage := .busy place command left }
  | replied {fetched : Except SourceError Log} {now : Instant} {place : Nat} {command : Command}
      (hstage : t.stage = .busy place command []) :
      Step t (.work fetched now) { t with
        stage := .free
        answers := give t.answers place (.ok (t.service.reply command)) }
  | ended {fetched : Except SourceError Log} {now : Instant} (hstage : t.stage = .closed) :
      Step t (.work fetched now) t
  | queued {command : Command} (hstage : t.stage ≠ .closed) :
      Step t (.ask command) { t with
        line := t.line ++ [(command, t.asked.length)]
        asked := t.asked ++ [command] }
  | refused {command : Command} (hstage : t.stage = .closed) :
      Step t (.ask command) { t with
        asked := t.asked ++ [command]
        answers := give t.answers t.asked.length (.error .stopped) }
  | signalled : Step t .signal { t with isSignalled := true }
  | closed (hstage : t.stage = .free) (hsignal : t.isSignalled = true) : Step t .close t.close
  | passed (hbusy : ¬ (t.stage = .free ∧ t.isSignalled = true)) : Step t .close t

theorem Step.of_step (h : t.step move = .ok next) : Step t move next := by
  cases move with
  | work fetched now =>
    simp only [step, work] at h
    split at h
    · next hstage =>
      obtain ⟨service, hheard, hnext⟩ := exists_of_bind_eq_ok h
      cases hnext
      exact .opened hstage hheard
    · next hstage =>
      split at h
      · next hline =>
        cases h
        exact .idle hstage hline
      · next command place line hline =>
        cases h
        exact .taken hstage hline
    · next place command piece left hstage =>
      obtain ⟨service, hheard, hnext⟩ := exists_of_bind_eq_ok h
      cases hnext
      exact .worked hstage hheard
    · next place command hstage =>
      cases h
      exact .replied hstage
    · next hstage =>
      cases h
      exact .ended hstage
  | ask command =>
    simp only [step, ask] at h
    split at h
    · next hstage =>
      cases h
      exact .refused hstage
    · next hstage =>
      cases h
      exact .queued hstage
  | signal =>
    cases h
    exact .signalled
  | close =>
    simp only [step] at h
    split at h
    · next hheeded =>
      cases h
      exact .closed hheeded.1 hheeded.2
    · next hbusy =>
      cases h
      exact .passed hbusy

theorem Step.follows (h : Step t move next) : t.service.Follows next.service := by
  cases h with
  | opened _ hheard | worked _ hheard => exact Service.follows_of_hear hheard
  | _ => exact .same rfl rfl

theorem Step.reply_cases (h : Step t move next) {place : Nat} {reply : Reply}
    (hanswer : next.answers place = some (.ok reply)) :
    t.answers place = some (.ok reply) ∨ ∃ fetched now command, move = .work fetched now ∧
      t.stage = .busy place command [] ∧ next.service = t.service ∧
      reply = t.service.reply command := by
  cases h with
  | opened | idle | taken | worked | ended | queued | signalled | passed => exact .inl hanswer
  | @replied fetched now other command hstage =>
    by_cases hplace : place = other
    · subst hplace
      cases (give_self ..).symm.trans hanswer
      exact .inr ⟨fetched, now, command, rfl, hstage, rfl, rfl⟩
    · exact .inl ((give_of_ne _ _ hplace).symm.trans hanswer)
  | refused =>
    by_cases hplace : place = t.asked.length
    · subst hplace
      cases (give_self ..).symm.trans hanswer
    · exact .inl ((give_of_ne _ _ hplace).symm.trans hanswer)
  | closed =>
    rcases Nat.lt_or_ge place t.asked.length with hlt | hge
    · rw [close_answers_of_lt hlt] at hanswer
      cases hbefore : t.answers place with
      | none =>
        rw [hbefore] at hanswer
        cases hanswer
      | some answer =>
        rw [hbefore] at hanswer
        exact .inl hanswer
    · exact .inl ((close_answers_of_le hge).symm.trans hanswer)

/-- So many commands were taken from the line, and those with replies are answered. -/
structure Waits (t : Desk) (replies : List Reply) (taken : Nat) : Prop where
  line : t.line = t.asked.zipIdx.drop taken
  answers : ∀ place, t.answers place = replies[place]?.map .ok

/-- Every command is answered: those with replies by these, and the others have none. -/
structure Settled (t : Desk) (replies : List Reply) : Prop where
  replied : ∀ place reply, replies[place]? = some reply → t.answers place = some (.ok reply)
  refused : ∀ place, replies.length ≤ place → place < t.asked.length →
    ∃ cause, t.answers place = some (.error cause)
  rest : ∀ place, t.asked.length ≤ place → t.answers place = none

/-- The commands that came in first have replies, and no other has had an effect, except that some
pieces may be done of the one at hand. All that the dashboard has heard of belongs to them. -/
inductive Orderly (initial : Selection) (first : Service) (t : Desk) : Stage → List Reply → Prop
  | opening (hnew : first.IsNew initial) (hservice : t.service = first) (hjournal : t.journal = [])
      (hwaits : t.Waits [] 0) : Orderly initial first t .opening []
  | free {replies : List Reply}
      (hserved : first.Served initial t.journal (t.asked.take replies.length) replies t.service)
      (hwaits : t.Waits replies replies.length) : Orderly initial first t .free replies
  | busy {replies : List Reply} {heard part : List (Event × Instant)} {s : Service}
      {command : Command} {done left : List Piece}
      (hcommand : t.asked[replies.length]? = some command)
      (hserved : first.Served initial heard (t.asked.take replies.length) replies s)
      (hpieces : command.pieces = done ++ left) (hdone : List.Forall₂ Piece.IsDone done part)
      (hheard : s.hearAll part = .ok t.service) (hjournal : t.journal = heard ++ part)
      (hwaits : t.Waits replies (replies.length + 1)) :
      Orderly initial first t (.busy replies.length command left) replies
  | closed {replies : List Reply} {s : Service}
      (hserved : first.Served initial t.journal (t.asked.take replies.length) replies s)
      (hservice : t.service = s.stop) (hline : t.line = []) (hsettled : t.Settled replies) :
      Orderly initial first t .closed replies

theorem orderly_start {initial : Selection} {service : Service} (h : service.IsNew initial) :
    (start service).Orderly initial service .opening [] :=
  .opening h rfl rfl ⟨rfl, fun _ => rfl⟩

theorem length_le_of_served {initial : Selection} {first s : Service}
    {heard : List (Event × Instant)}
    {asked : List Command} {replies : List Reply}
    (h : first.Served initial heard (asked.take replies.length) replies s) :
    replies.length ≤ asked.length := by
  have hlength := h.length_eq
  rw [List.length_take] at hlength
  omega

namespace Waits

variable {replies : List Reply} {taken : Nat}

theorem answers_eq_none (h : t.Waits replies taken) {place : Nat}
    (hplace : replies.length ≤ place) : t.answers place = none := by
  rw [h.answers, List.getElem?_eq_none hplace]
  rfl

theorem of_cons (h : t.Waits replies taken) {command : Command} {place : Nat}
    {line : List (Command × Nat)} (hline : t.line = (command, place) :: line) :
    place = taken ∧ t.asked[taken]? = some command ∧ line = t.asked.zipIdx.drop (taken + 1) := by
  have hdrop : t.asked.zipIdx.drop taken = (command, place) :: line := h.line.symm.trans hline
  have hhead := congrArg List.head? hdrop
  rw [List.head?_drop, List.getElem?_zipIdx, List.head?_cons, Nat.zero_add] at hhead
  obtain ⟨asked, hasked, hpair⟩ := Option.map_eq_some_iff.mp hhead
  cases hpair
  refine ⟨rfl, hasked, ?_⟩
  rw [← List.tail_drop, hdrop, List.tail_cons]

theorem zipIdx_drop_append_single {asked : List Command} (htaken : taken ≤ asked.length)
    (command : Command) : (asked ++ [command]).zipIdx.drop taken =
      asked.zipIdx.drop taken ++ [(command, asked.length)] := by
  rw [List.zipIdx_append, List.drop_append_of_le_length (by rwa [List.length_zipIdx]),
    Nat.zero_add]
  rfl

end Waits

namespace Orderly

variable {initial : Selection} {first : Service} {stage : Stage} {replies : List Reply}

theorem queued (h : t.Orderly initial first stage replies) (hstage : stage ≠ .closed)
    (command : Command) :
    Orderly initial first { t with
      line := t.line ++ [(command, t.asked.length)]
      asked := t.asked ++ [command] } stage replies := by
  cases h with
  | opening hnew hservice hjournal hwaits =>
    refine .opening hnew hservice hjournal ⟨?_, hwaits.answers⟩
    rw [hwaits.line, Waits.zipIdx_drop_append_single (Nat.zero_le _)]
  | free hserved hwaits =>
    have hlength := length_le_of_served hserved
    refine .free ?_ ⟨?_, hwaits.answers⟩
    · rwa [List.take_append_of_le_length hlength]
    · rw [hwaits.line, Waits.zipIdx_drop_append_single hlength]
  | busy hcommand hserved hpieces hdone hheard hjournal hwaits =>
    have hlength := length_le_of_served hserved
    obtain ⟨hlt, -⟩ := List.getElem?_eq_some_iff.mp hcommand
    refine .busy ?_ ?_ hpieces hdone hheard hjournal ⟨?_, hwaits.answers⟩
    · rwa [List.getElem?_append_left hlt]
    · rwa [List.take_append_of_le_length hlength]
    · rw [hwaits.line, Waits.zipIdx_drop_append_single hlt]
  | closed => exact absurd rfl hstage

theorem opened (h : t.Orderly initial first .opening replies) {fetched : Except SourceError Log}
    {now : Instant} {service : Service}
    (hheard : t.service.hear (.ofFetch fetched) now = .ok service) :
    Orderly initial first
      { t with service, journal := t.journal ++ [(.ofFetch fetched, now)], stage := .free }
      .free replies := by
  cases h with
  | opening hnew hservice hjournal hwaits =>
    have hstart : first.start ⟨fetched, now, now⟩ = .ok service := by
      rw [← hservice]
      exact hheard
    have hserved := Service.Served.opened hnew hstart
    refine .free ?_ ⟨hwaits.line, hwaits.answers⟩
    rw [hjournal]
    exact hserved

theorem taken (h : t.Orderly initial first .free replies) {command : Command} {place : Nat}
    {line : List (Command × Nat)} (hline : t.line = (command, place) :: line) :
    Orderly initial first { t with line, stage := .busy place command command.pieces }
      (.busy place command command.pieces) replies := by
  cases h with
  | free hserved hwaits =>
    obtain ⟨rfl, hcommand, rfl⟩ := hwaits.of_cons hline
    exact .busy hcommand hserved (List.nil_append _).symm .nil rfl (List.append_nil _).symm
      ⟨rfl, hwaits.answers⟩

theorem worked {place : Nat} {command : Command} {piece : Piece} {left : List Piece}
    (h : t.Orderly initial first (.busy place command (piece :: left)) replies)
    {fetched : Except SourceError Log} {now : Instant} {service : Service}
    (hheard : t.service.hear (piece.event fetched) now = .ok service) :
    Orderly initial first { t with
      service
      journal := t.journal ++ [(piece.event fetched, now)]
      stage := .busy place command left } (.busy place command left) replies := by
  cases h with
  | @busy _ heard part s _ done _ hcommand hserved hpieces hdone hbefore hjournal hwaits =>
    have hmore : List.Forall₂ Piece.IsDone (done ++ [piece])
        (part ++ [(piece.event fetched, now)]) :=
      List.rel_append hdone (.cons ⟨fetched, rfl⟩ .nil)
    have hafter : s.hearAll (part ++ [(piece.event fetched, now)]) = .ok service := by
      rw [Service.hearAll_append, hbefore]
      change t.service.hearAll _ = _
      rw [Service.hearAll_single]
      exact hheard
    refine .busy hcommand hserved ?_ hmore hafter ?_ ⟨hwaits.line, hwaits.answers⟩
    · rw [hpieces, List.append_assoc]
      rfl
    · rw [hjournal, List.append_assoc]

theorem replied {place : Nat} {command : Command}
    (h : t.Orderly initial first (.busy place command []) replies) :
    Orderly initial first { t with
      stage := .free
      answers := give t.answers place (.ok (t.service.reply command)) }
      .free (replies ++ [t.service.reply command]) := by
  cases h with
  | @busy _ heard part s _ done _ hcommand hserved hpieces hdone hheard hjournal hwaits =>
    rw [List.append_nil] at hpieces
    subst hpieces
    obtain ⟨around, rfl⟩ := Command.exists_heard hdone
    obtain ⟨style, sampling, hbefore⟩ := hserved.dashboard_eq
    have hdashboard := Service.dashboard_of_hearAll hheard hbefore
    have hnext := hserved.next hheard (Service.replies_reply hdashboard command)
    rw [← hjournal] at hnext
    refine .free ?_ ⟨?_, ?_⟩
    · rwa [List.length_append, List.length_singleton, List.take_add_one, hcommand]
    · rw [hwaits.line, List.length_append, List.length_singleton]
    · exact give_reply hwaits.answers _

theorem closed_of_free (h : t.Orderly initial first .free replies) :
    t.close.Orderly initial first .closed replies := by
  cases h with
  | free hserved hwaits =>
    have hlength := length_le_of_served hserved
    refine .closed hserved rfl rfl ⟨?_, ?_, ?_⟩
    · intro place reply hreply
      obtain ⟨hlt, -⟩ := List.getElem?_eq_some_iff.mp hreply
      rw [close_answers_of_lt (Nat.lt_of_lt_of_le hlt hlength), hwaits.answers, hreply]
      rfl
    · intro place hplace hasked
      refine ⟨t.interruption place, ?_⟩
      rw [close_answers_of_lt (t := t) hasked, hwaits.answers_eq_none hplace]
      rfl
    · intro place hplace
      rw [close_answers_of_le (t := t) hplace]
      exact hwaits.answers_eq_none (Nat.le_trans hlength hplace)

theorem refused (h : t.Orderly initial first stage replies) (hstage : stage = .closed)
    (command : Command) :
    Orderly initial first { t with
      asked := t.asked ++ [command]
      answers := give t.answers t.asked.length (.error .stopped) } stage replies := by
  subst hstage
  cases h with
  | closed hserved hservice hline hsettled =>
    have hlength := length_le_of_served hserved
    have hasked : (t.asked ++ [command]).length = t.asked.length + 1 := List.length_append
    refine .closed ?_ hservice hline ⟨?_, ?_, ?_⟩
    · rwa [List.take_append_of_le_length hlength]
    · intro place reply hreply
      obtain ⟨hlt, -⟩ := List.getElem?_eq_some_iff.mp hreply
      exact (give_of_ne _ _ (by omega)).trans (hsettled.replied place reply hreply)
    · intro place hplace hlt
      rcases Nat.lt_or_eq_of_le (Nat.le_of_lt_succ (hasked ▸ hlt)) with hbefore | rfl
      · obtain ⟨cause, hcause⟩ := hsettled.refused place hplace hbefore
        exact ⟨cause, (give_of_ne _ _ (Nat.ne_of_lt hbefore)).trans hcause⟩
      · exact ⟨_, give_self ..⟩
    · intro place hplace
      have hbehind : t.asked.length < place := Nat.le_trans (Nat.le_of_eq hasked.symm) hplace
      exact (give_of_ne _ _ (Nat.ne_of_gt hbehind)).trans
        (hsettled.rest place (Nat.le_of_lt hbehind))

theorem signalled (h : t.Orderly initial first stage replies) :
    Orderly initial first { t with isSignalled := true } stage replies := by
  cases h with
  | opening hnew hservice hjournal hwaits =>
    exact .opening hnew hservice hjournal ⟨hwaits.line, hwaits.answers⟩
  | free hserved hwaits => exact .free hserved ⟨hwaits.line, hwaits.answers⟩
  | busy hcommand hserved hpieces hdone hheard hjournal hwaits =>
    exact .busy hcommand hserved hpieces hdone hheard hjournal ⟨hwaits.line, hwaits.answers⟩
  | closed hserved hservice hline hsettled =>
    exact .closed hserved hservice hline ⟨hsettled.replied, hsettled.refused, hsettled.rest⟩

/-- A move keeps the order. The one that ends a command adds the reply, and no other adds any. -/
theorem step (h : t.Orderly initial first t.stage replies) (hstep : Step t move next) :
    ∃ more, next.Orderly initial first next.stage (replies ++ more) := by
  have hkept : ∀ {after : Desk}, after.Orderly initial first after.stage replies →
      ∃ more, after.Orderly initial first after.stage (replies ++ more) :=
    fun hafter => ⟨[], by rwa [List.append_nil]⟩
  cases hstep with
  | idle | ended | passed => exact hkept h
  | signalled => exact hkept h.signalled
  | queued hstage => exact hkept (h.queued hstage _)
  | refused hstage => exact hkept (h.refused hstage _)
  | opened hstage hheard =>
    rw [hstage] at h
    exact hkept (h.opened hheard)
  | taken hstage hline =>
    rw [hstage] at h
    exact hkept (h.taken hline)
  | worked hstage hheard =>
    rw [hstage] at h
    exact hkept (h.worked hheard)
  | replied hstage =>
    rw [hstage] at h
    exact ⟨_, h.replied⟩
  | closed hstage =>
    rw [hstage] at h
    exact hkept h.closed_of_free

theorem exists_waits (h : t.Orderly initial first stage replies) (hstage : stage ≠ .closed) :
    ∃ taken, t.Waits replies taken ∧ replies.length ≤ taken ∧ taken ≤ t.asked.length ∧
      (stage = .free → taken = replies.length) := by
  cases h with
  | opening _ _ _ hwaits => exact ⟨0, hwaits, Nat.le_refl _, Nat.zero_le _, fun _ => rfl⟩
  | free hserved hwaits =>
    exact ⟨_, hwaits, Nat.le_refl _, length_le_of_served hserved, fun _ => rfl⟩
  | busy hcommand _ _ _ _ _ hwaits =>
    obtain ⟨hlt, -⟩ := List.getElem?_eq_some_iff.mp hcommand
    exact ⟨_, hwaits, Nat.le_succ _, hlt, by simp⟩
  | closed => exact absurd rfl hstage

theorem settled (h : t.Orderly initial first .closed replies) : t.Settled replies := by
  cases h with
  | closed _ _ _ hsettled => exact hsettled

theorem answers_of_le (h : t.Orderly initial first stage replies) {place : Nat}
    (hplace : t.asked.length ≤ place) : t.answers place = none := by
  by_cases hstage : stage = .closed
  · subst hstage
    exact h.settled.rest place hplace
  · obtain ⟨taken, hwaits, hreplies, htaken, -⟩ := h.exists_waits hstage
    exact hwaits.answers_eq_none (by omega)

theorem answers_ne_none_of_lt (h : t.Orderly initial first stage replies) {place : Nat}
    (hplace : place < replies.length) : t.answers place ≠ none := by
  have hreply := List.getElem?_eq_getElem hplace
  by_cases hstage : stage = .closed
  · subst hstage
    rw [h.settled.replied place _ hreply]
    exact Option.some_ne_none _
  · obtain ⟨taken, hwaits, -⟩ := h.exists_waits hstage
    rw [hwaits.answers, hreply]
    exact Option.some_ne_none _

theorem answers_ne_none_of_closed (h : t.Orderly initial first .closed replies) {place : Nat}
    (hplace : place < t.asked.length) : t.answers place ≠ none := by
  rcases Nat.lt_or_ge place replies.length with hlt | hge
  · exact h.answers_ne_none_of_lt hlt
  · obtain ⟨cause, hcause⟩ := h.settled.refused place hge hplace
    rw [hcause]
    exact Option.some_ne_none _

theorem getElem?_of_answer (h : t.Orderly initial first stage replies) {place : Nat}
    {reply : Reply} (hanswer : t.answers place = some (.ok reply)) :
    replies[place]? = some reply := by
  by_cases hstage : stage = .closed
  · subst hstage
    have hsettled := h.settled
    rcases Nat.lt_or_ge place replies.length with hlt | hge
    · have hreply := List.getElem?_eq_getElem hlt
      cases hanswer.symm.trans (hsettled.replied place _ hreply)
      exact hreply
    · rcases Nat.lt_or_ge place t.asked.length with hasked | hasked
      · obtain ⟨cause, hcause⟩ := hsettled.refused place hge hasked
        cases hanswer.symm.trans hcause
      · cases hanswer.symm.trans (hsettled.rest place hasked)
  · obtain ⟨taken, hwaits, -⟩ := h.exists_waits hstage
    rw [hwaits.answers] at hanswer
    obtain ⟨other, hother, hsame⟩ := Option.map_eq_some_iff.mp hanswer
    cases hsame
    exact hother

theorem exists_served (h : t.Orderly initial first stage replies) {place : Nat}
    (hplace : place < replies.length) : ∃ heard s,
      first.Served initial heard (t.asked.take replies.length) replies s ∧ heard <+: t.journal := by
  cases h with
  | opening => exact absurd hplace (Nat.not_lt_zero _)
  | free hserved => exact ⟨_, _, hserved, List.prefix_rfl⟩
  | busy _ hserved _ _ _ hjournal => exact ⟨_, _, hserved, hjournal ▸ List.prefix_append _ _⟩
  | closed hserved => exact ⟨_, _, hserved, List.prefix_rfl⟩

theorem answers_of_busy {place : Nat} {command : Command} {left : List Piece}
    (h : t.Orderly initial first (.busy place command left) replies) : t.answers place = none := by
  cases h with
  | busy _ _ _ _ _ _ hwaits => exact hwaits.answers_eq_none (Nat.le_refl _)

theorem answers_step (h : t.Orderly initial first t.stage replies) (hstep : Step t move next)
    {place : Nat}
    {answer : Except Interruption Reply} (hanswer : t.answers place = some answer) :
    next.answers place = some answer := by
  cases hstep with
  | opened | idle | taken | worked | ended | queued | signalled | passed => exact hanswer
  | replied hstage =>
    rw [hstage] at h
    refine (give_of_ne _ _ ?_).trans hanswer
    rintro rfl
    cases hanswer.symm.trans h.answers_of_busy
  | refused =>
    refine (give_of_ne _ _ ?_).trans hanswer
    rintro rfl
    cases hanswer.symm.trans (h.answers_of_le (Nat.le_refl _))
  | closed =>
    have hasked : place < t.asked.length := by
      by_contra hge
      cases hanswer.symm.trans (h.answers_of_le (Nat.not_lt.mp hge))
    rw [close_answers_of_lt hasked, hanswer]
    rfl

end Orderly

end CounterBoard.Desk
