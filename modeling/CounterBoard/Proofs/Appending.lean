import CounterBoard.Proofs.Carrying
import Mathlib.Data.List.Forall2

/-!
Logs to which entries were appended, at instants in any order. In the old log and in the longer one
the cursor is at the same place until, in the longer one, it has passed all old entries. It stops in
front of the first appended entry until a point takes that entry in, so points that are settled
before it show the same values in both logs.
-/

set_option autoImplicit false
set_option relaxedAutoImplicit false

namespace CounterBoard

open CounterBoard.Time

/-- A counter with more entries: a column goes on, and a gauge is as it was. -/
inductive Counter.Continues : Counter → Counter → Prop
  | series (kind : CounterKind) (column more : List UInt64) :
      Continues ⟨kind, .series column⟩ ⟨kind, .series (column ++ more)⟩
  | constant (kind : CounterKind) (value : UInt64) :
      Continues ⟨kind, .constant value⟩ ⟨kind, .constant value⟩

/-- A log to which entries at some instants were appended. As the columns of both logs fit, each of
them has gone on by as many values. -/
structure Log.Appended (old new : Log) (added : List Instant) : Prop where
  times_eq : new.times = old.times ++ added
  counters : List.Forall₂ Counter.Continues old.counters new.counters

/-- No entry from an instant on can change what a point shows. -/
def Sampling.IsSettled (mode : Sampling) (granularity : Granularity) (point t : Instant) : Prop :=
  match mode with
  | .pointInTime => point < t
  | .bucketClose => ∃ stop, point.later granularity.step = .ok stop ∧ stop ≤ t

theorem map_eq_map_of_forall₂ {α β γ : Type} {R : α → β → Prop} {f : α → γ} {g : β → γ}
    {l : List α} {m : List β} (h : List.Forall₂ R l m)
    (heq : ∀ a ∈ l, ∀ b, R a b → f a = g b) : l.map f = m.map g := by
  induction h with
  | nil => rfl
  | @cons a b l m hab hlm ih =>
    have htail : l.map f = m.map g := by
      apply ih
      intro c hc
      exact heq c (List.mem_cons_of_mem a hc)
    rw [List.map_cons, List.map_cons, heq a List.mem_cons_self b hab, htail]

theorem Counter.Continues.after_eq {c d : Counter} (h : c.Continues d) {entries n : Nat}
    (hfits : c.Fits entries) (hn : n ≤ entries) : d.after n = c.after n := by
  cases n with
  | zero =>
    cases h with
    | series | constant => rfl
  | succ n =>
    cases h with
    | constant => rfl
    | series kind column more =>
      have hlength : column.length = entries := hfits column.length rfl
      have hvalue : (column ++ more)[n]? = column[n]? :=
        List.getElem?_append_left (by omega)
      simp [Counter.after, Counter.valueAt, Counter.initial, hvalue]

theorem Log.Appended.rowAfter_eq {old new : Log} {added : List Instant}
    (h : old.Appended new added) {n : Nat} (hn : n ≤ old.length) :
    new.rowAfter n = old.rowAfter n := by
  symm
  apply map_eq_map_of_forall₂ h.counters
  intro c hc d hcd
  exact (hcd.after_eq (old.aligned c hc) hn).symm

theorem takeWhile_append_of_not {α : Type} {p : α → Bool} {a : α} (ha : p a = false)
    (l rest : List α) : (l ++ a :: rest).takeWhile p = l.takeWhile p := by
  rw [List.takeWhile_append]
  split
  · next hall =>
    rw [List.takeWhile_cons_of_neg (by simp [ha]), List.append_nil]
    exact (List.takeWhile_prefix p |>.eq_of_length hall).symm
  · rfl

theorem takeWhile_append_cases {α : Type} (p : α → Bool) (l rest : List α) :
    (l ++ rest).takeWhile p = l.takeWhile p ∨ l.length ≤ ((l ++ rest).takeWhile p).length := by
  rw [List.takeWhile_append]
  split
  · right
    rw [List.length_append]
    omega
  · exact .inl rfl

namespace Window

variable {selection : Selection} {now : Instant} (w : Window selection now)

variable {old new : Log} {added : List Instant}

theorem reach_appended_cases (h : old.Appended new added) (mode : Sampling) (k : Nat) :
    w.reach new mode k = w.reach old mode k ∨ old.length ≤ w.reach new mode k := by
  induction k with
  | zero =>
    rw [reach, reach, Log.leading_eq_length_takeWhile, Log.leading_eq_length_takeWhile, h.times_eq]
    rcases takeWhile_append_cases (fun t => decide (t < w.start)) old.times added with
      hsame | hpast
    · exact .inl (congrArg List.length hsame)
    · exact .inr hpast
  | succ k ih =>
    rcases ih with hsame | hpast
    · have hle := w.reach_le_length old mode k
      rw [reach, reach, hsame, h.times_eq, List.drop_append_of_le_length hle]
      rcases takeWhile_append_cases (mode.absorbs (w.bucket k))
        (old.times.drop (w.reach old mode k)) added with hrun | hrun
      · exact .inl (congrArg (w.reach old mode k + List.length ·) hrun)
      · right
        rw [List.length_drop] at hrun
        rw [Log.length] at hle ⊢
        omega
    · right
      rw [reach]
      omega

theorem reach_le_appended (h : old.Appended new added) (mode : Sampling) (k : Nat) :
    w.reach old mode k ≤ w.reach new mode k := by
  rcases w.reach_appended_cases h mode k with hsame | hpast
  · exact Nat.le_of_eq hsame.symm
  · exact Nat.le_trans (w.reach_le_length old mode k) hpast

theorem reach_appended_of_not_absorbs {first : Instant} {rest : List Instant}
    (h : old.Appended new (first :: rest)) {mode : Sampling} (hstart : ¬ first < w.start) {k : Nat}
    (habsorbs : ∀ j < k, mode.absorbs (w.bucket j) first = false) :
    w.reach new mode k = w.reach old mode k := by
  induction k with
  | zero =>
    have hseek : decide (first < w.start) = false := decide_eq_false hstart
    rw [reach, reach, Log.leading_eq_length_takeWhile, Log.leading_eq_length_takeWhile, h.times_eq,
      takeWhile_append_of_not (p := fun t => decide (t < w.start)) hseek]
  | succ k ih =>
    have hbefore := ih fun j hj => habsorbs j (Nat.lt_succ_of_lt hj)
    have hle := w.reach_le_length old mode k
    rw [reach, reach, hbefore, h.times_eq, List.drop_append_of_le_length hle,
      takeWhile_append_of_not (habsorbs k (Nat.lt_succ_self k))]

theorem not_absorbs_of_isSettled {mode : Sampling} {k : Nat} (hk : k < selection.gridLength)
    {t : Instant} (h : mode.IsSettled selection.granularity (w.point k) t) :
    ¬ t < w.start ∧ ∀ j < k + 1, mode.absorbs (w.bucket j) t = false := by
  cases mode with
  | pointInTime =>
    constructor
    · intro hearly
      have hzero := w.point_le_point (Nat.zero_le k)
      rw [w.point_zero] at hzero
      have hlate := Instant.lt_of_le_of_lt hzero h
      exact Instant.not_le.mpr hearly (Instant.le_of_lt hlate)
    · intro j hj
      apply decide_eq_false
      intro hle
      have hpoint := w.point_le_point (Nat.le_of_lt_succ hj)
      exact Instant.not_le.mpr h (Instant.le_trans hle hpoint)
  | bucketClose =>
    obtain ⟨stop, hstop, hle⟩ := h
    rw [w.later_point hk] at hstop
    cases hstop
    constructor
    · intro hearly
      have hzero := w.point_le_point (Nat.zero_le (k + 1))
      rw [w.point_zero] at hzero
      exact Instant.not_le.mpr hearly (Instant.le_trans hzero hle)
    · intro j hj
      have hend : ¬ t < w.point (j + 1) := by
        intro hlt
        have hpoint := w.point_le_point (show j + 1 ≤ k + 1 from hj)
        exact Instant.not_le.mpr hlt (Instant.le_trans hpoint hle)
      change (decide (w.point j ≤ t) && decide (t < w.point (j + 1))) = false
      rw [decide_eq_false hend, Bool.and_false]

end Window

/-- Appending entries leaves every settled point as it was, and uses up no fewer entries. -/
theorem resample_of_appended {old new : Log} {first : Instant} {rest : List Instant}
    (h : old.Appended new (first :: rest)) {selection : Selection} {now : Instant}
    {mode : Sampling} {series : Series} (hold : resample old selection now mode = .ok series) :
    ∃ longer, resample new selection now mode = .ok longer ∧
      longer.timestamps = series.timestamps ∧ series.consumed ≤ longer.consumed ∧
      ∀ (k : Nat) (p : GridPoint), series.points[k]? = some p →
        mode.IsSettled selection.granularity p.timestamp first → longer.points[k]? = some p := by
  obtain ⟨w⟩ := (Window.resample_isOk_iff old selection now mode).mp ⟨series, hold⟩
  rw [w.resample_eq old mode] at hold
  cases hold
  refine ⟨w.series new mode, w.resample_eq new mode, ?_, w.reach_le_appended h mode _, ?_⟩
  · simp [Series.timestamps, Window.series]
  · intro k p hp hsettled
    obtain ⟨j, hj, rfl⟩ := Option.map_eq_some_iff.mp ((List.getElem?_map ..).symm.trans hp)
    obtain ⟨hk, rfl⟩ := List.getElem?_eq_some_iff.mp hj
    rw [List.length_range] at hk
    simp only [List.getElem_range] at hsettled ⊢
    obtain ⟨hstart, habsorbs⟩ := w.not_absorbs_of_isSettled hk hsettled
    have hreach := w.reach_appended_of_not_absorbs h hstart habsorbs
    have hrow := h.rowAfter_eq (w.reach_le_length old mode (k + 1))
    simp only [Window.series, List.getElem?_map, List.getElem?_range hk, Option.map_some, hreach,
      hrow]

private def forenoon : Window ⟨.minute, .oneHour⟩ ⟨1720008000, 5, by decide⟩ where
  start := ⟨1720004400, 5, by decide⟩
  stop := ⟨1720008000, 5, by decide⟩
  earlier_eq := Instant.earlier_eq_ok_iff.mpr (by decide)
  later_eq := Instant.later_eq_ok_iff.mpr (by decide)

private def morningLog : Log where
  times := [⟨1720004000, 0, by decide⟩, ⟨1720004460, 0, by decide⟩]
  counters := [⟨.connections, .series [4, 5]⟩, ⟨.torrents, .constant 2⟩]
  aligned := by decide

/-- The same log with an entry that comes as the eleventh minute ends, and an earlier one behind
it. -/
private def noonwardLog : Log where
  times := [⟨1720004000, 0, by decide⟩, ⟨1720004460, 0, by decide⟩, ⟨1720005060, 5, by decide⟩,
    ⟨1720004500, 0, by decide⟩]
  counters := [⟨.connections, .series [4, 5, 6, 7]⟩, ⟨.torrents, .constant 2⟩]
  aligned := by decide

theorem resample_of_appended_noonward :
    morningLog.Appended noonwardLog
        [⟨1720005060, 5, by decide⟩, ⟨1720004500, 0, by decide⟩] ∧
      Sampling.bucketClose.IsSettled .minute (forenoon.point 10) ⟨1720005060, 5, by decide⟩ ∧
      ∃ series longer p,
        resample morningLog ⟨.minute, .oneHour⟩ ⟨1720008000, 5, by decide⟩ .bucketClose =
          .ok series ∧
        resample noonwardLog ⟨.minute, .oneHour⟩ ⟨1720008000, 5, by decide⟩ .bucketClose =
          .ok longer ∧
        series.points[10]? = some p ∧ longer.points[10]? = some p ∧
        series.consumed ≤ longer.consumed := by
  have happended : morningLog.Appended noonwardLog
      [⟨1720005060, 5, by decide⟩, ⟨1720004500, 0, by decide⟩] :=
    ⟨rfl, .cons (.series .connections [4, 5] [6, 7]) (.cons (.constant .torrents 2) .nil)⟩
  have hsettled : Sampling.bucketClose.IsSettled .minute (forenoon.point 10)
      ⟨1720005060, 5, by decide⟩ :=
    ⟨⟨1720005060, 5, by decide⟩, Instant.later_eq_ok_iff.mpr (by decide), Instant.le_refl _⟩
  have hseries := forenoon.resample_eq morningLog .bucketClose
  obtain ⟨longer, hlonger, -, hconsumed, hpoints⟩ := resample_of_appended happended hseries
  have hpoint : (forenoon.series morningLog .bucketClose).points[10]? =
      some ⟨forenoon.point 10, morningLog.rowAfter (forenoon.reach morningLog .bucketClose 11)⟩ :=
    rfl
  exact ⟨happended, hsettled, _, longer, _, hseries, hlonger, hpoint,
    hpoints 10 _ hpoint hsettled, hconsumed⟩

end CounterBoard
