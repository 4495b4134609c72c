import CounterBoard.Proofs.Agreement

/-!
A log cut down to what a series needs of it: the entries that were used up, without those before the
window but for the last of them, which sets what is shown until the first entry of the window. The
cut log leads to the same points. Of an instant that is no leap second, what was used up lies before
it, so what entries from then on hold shows nowhere.
-/

set_option autoImplicit false
set_option relaxedAutoImplicit false

namespace CounterBoard

open CounterBoard.Time

/-- The values at the places from one on up to another; a gauge holds there too. -/
def Values.between (first last : Nat) : Values → Values
  | .series column => .series ((column.drop first).take (last - first))
  | .constant value => .constant value

def Counter.between (first last : Nat) (c : Counter) : Counter :=
  ⟨c.kind, c.values.between first last⟩

namespace Log

def between (log : Log) (first last : Nat) : Log where
  times := (log.times.drop first).take (last - first)
  counters := log.counters.map (Counter.between first last)
  aligned := by
    intro c hc length hlength
    obtain ⟨⟨kind, column | value⟩, hmem, rfl⟩ := List.mem_map.mp hc
    · cases hlength
      have hfit : column.length = log.times.length := log.aligned _ hmem column.length rfl
      simp [hfit]
    · cases hlength

theorem times_between (log : Log) (first last : Nat) :
    (log.between first last).times = (log.times.drop first).take (last - first) := rfl

@[simp]
theorem kinds_between (log : Log) (first last : Nat) :
    (log.between first last).kinds = log.kinds := by
  simp [kinds, between, Counter.between]

/-- Another log has the same entries before an instant, in the same places. The entries from the
instant on may be others, and there may be more of them or fewer. -/
structure SameBefore (now : Instant) (log other : Log) : Prop where
  kinds : other.kinds = log.kinds
  initialRow : other.initialRow = log.initialRow
  times : ∀ (place : Nat) (t : Instant), t < now →
    (other.times[place]? = some t ↔ log.times[place]? = some t)
  values : ∀ (place : Nat) (t : Instant), t < now → log.times[place]? = some t →
    other.counters.map (fun c => c.valueAt place) = log.counters.map fun c => c.valueAt place

end Log

theorem Counter.after_between (c : Counter) {first last n : Nat} (hn : first + n < last) :
    (c.between first last).after (n + 1) = c.after (first + n + 1) := by
  rcases c with ⟨kind, column | value⟩
  · have hvalue : ((column.drop first).take (last - first))[n]? = column[first + n]? := by
      rw [List.getElem?_take_of_lt (by omega), List.getElem?_drop]
    simp [after, valueAt, initial, between, Values.between, hvalue]
  · rfl

theorem Counter.initial_between (c : Counter) (first last : Nat) :
    (c.between first last).initial = c.initial := by
  rcases c with ⟨kind, column | value⟩ <;> rfl

theorem Log.rowAfter_between (log : Log) {first last n : Nat} (hn : first + n ≤ last)
    (hfront : first = 0 ∨ 0 < n) :
    (log.between first last).rowAfter n = log.rowAfter (first + n) := by
  rw [rowAfter, rowAfter, between, List.map_map]
  refine List.map_congr_left fun c _ => ?_
  cases n with
  | zero =>
    obtain rfl : first = 0 := by omega
    exact c.initial_between 0 last
  | succ n => exact c.after_between (by omega)

theorem Log.rowAfter_eq_of_valueAt {log other : Log} {place : Nat} (hplace : place < log.length)
    (hother : place < other.length)
    (h : other.counters.map (fun c => c.valueAt place) =
      log.counters.map fun c => c.valueAt place) :
    other.rowAfter (place + 1) = log.rowAfter (place + 1) := by
  rw [← Log.map_some_rowAfter hplace, ← Log.map_some_rowAfter hother] at h
  exact (List.map_inj_right fun _ _ => Option.some.inj).mp h

theorem takeWhile_drop {α : Type} {p : α → Bool} {l : List α} {n : Nat}
    (h : n ≤ (l.takeWhile p).length) : (l.drop n).takeWhile p = (l.takeWhile p).drop n := by
  induction l generalizing n with
  | nil => simp
  | cons a l ih =>
    cases n with
    | zero => rfl
    | succ n =>
      by_cases ha : p a
      · rw [List.takeWhile_cons_of_pos ha] at h ⊢
        exact ih (Nat.le_of_succ_le_succ h)
      · rw [List.takeWhile_cons_of_neg ha] at h
        cases h

theorem takeWhile_congr_getElem? {α : Type} {p : α → Bool} {l m : List α}
    (h : ∀ (place : Nat) (a : α), p a = true → (m[place]? = some a ↔ l[place]? = some a)) :
    m.takeWhile p = l.takeWhile p := by
  induction l generalizing m with
  | nil =>
    cases m with
    | nil => rfl
    | cons b m =>
      have hb : ¬ p b = true := fun hb => by simpa using (h 0 b hb).mp rfl
      exact List.takeWhile_cons_of_neg hb
  | cons a l ih =>
    by_cases ha : p a = true
    · cases m with
      | nil => simpa using (h 0 a ha).mpr rfl
      | cons b m =>
        obtain rfl : b = a := by simpa using (h 0 a ha).mpr rfl
        rw [List.takeWhile_cons_of_pos ha, List.takeWhile_cons_of_pos ha]
        exact congrArg (b :: ·) (ih fun place => h (place + 1))
    · rw [List.takeWhile_cons_of_neg ha]
      cases m with
      | nil => rfl
      | cons b m =>
        refine List.takeWhile_cons_of_neg fun hb => ?_
        obtain rfl : a = b := by simpa using (h 0 b hb).mp rfl
        exact ha hb

namespace Window

variable {selection : Selection} {now : Instant} (w : Window selection now)

/-- A log without some entries before the window, and without entries that no point comes to, is
passed through as before. -/
theorem reach_between (log : Log) (mode : Sampling) {first last k : Nat}
    (hfirst : first ≤ w.reach log mode 0) (hlast : w.reach log mode k ≤ last) :
    first + w.reach (log.between first last) mode k = w.reach log mode k := by
  induction k with
  | zero =>
    have hle : first ≤ (log.times.takeWhile fun t => decide (t < w.start)).length := by
      rwa [← log.leading_eq_length_takeWhile]
    rw [reach, log.leading_eq_length_takeWhile] at hlast
    rw [reach, reach, Log.leading_eq_length_takeWhile, log.leading_eq_length_takeWhile,
      log.times_between, ← List.take_takeWhile, takeWhile_drop hle, List.length_take, List.length_drop]
    omega
  | succ k ih =>
    have hstep := w.reach_le_reach log mode (Nat.le_succ k)
    have hbefore := ih (Nat.le_trans hstep hlast)
    have hahead : (log.between first last).times.drop (w.reach (log.between first last) mode k) =
        (log.times.drop (w.reach log mode k)).take (last - w.reach log mode k) := by
      rw [log.times_between, List.drop_take, List.drop_drop, hbefore]
      congr 1
      omega
    rw [reach] at hlast
    rw [reach, reach, hahead, ← List.take_takeWhile, List.length_take, ← Nat.add_assoc, hbefore]
    omega

theorem series_between (log : Log) (mode : Sampling) {first : Nat}
    (hfirst : first < w.reach log mode 0 ∨ first = 0) :
    w.series (log.between first (w.reach log mode selection.gridLength)) mode =
      { w.series log mode with
        consumed := w.reach log mode selection.gridLength - first } := by
  have hfront : first ≤ w.reach log mode 0 := by omega
  have hreach : ∀ k ≤ selection.gridLength,
      first + w.reach (log.between first (w.reach log mode selection.gridLength)) mode k =
        w.reach log mode k :=
    fun k hk => w.reach_between log mode hfront (w.reach_le_reach log mode hk)
  have hconsumed := hreach _ (Nat.le_refl _)
  simp only [series, Log.kinds_between, Series.mk.injEq, true_and]
  refine ⟨?_, by omega⟩
  refine List.map_congr_left fun k hk => ?_
  have hplace := hreach (k + 1) (List.mem_range.mp hk)
  have hstart := w.reach_le_reach log mode (Nat.zero_le (k + 1))
  have hend := w.reach_le_reach log mode (show k + 1 ≤ selection.gridLength from
    List.mem_range.mp hk)
  rw [log.rowAfter_between (by omega) (by omega), hplace]

theorem mem_take_reach {log : Log} {mode : Sampling} {k : Nat} {t : Instant}
    (h : t ∈ log.times.take (w.reach log mode k)) :
    t < w.start ∨ ∃ j < k, mode.absorbs (w.bucket j) t = true := by
  induction k with
  | zero =>
    left
    rw [reach, log.leading_eq_length_takeWhile,
      ← List.prefix_iff_eq_take.mp (List.takeWhile_prefix _)] at h
    simpa using List.mem_takeWhile_imp h
  | succ k ih =>
    rw [reach, List.take_add, List.mem_append,
      ← List.prefix_iff_eq_take.mp (List.takeWhile_prefix _)] at h
    rcases h with h | h
    · rcases ih h with hearly | ⟨j, hj, habsorbs⟩
      · exact .inl hearly
      · exact .inr ⟨j, Nat.lt_succ_of_lt hj, habsorbs⟩
    · exact .inr ⟨k, Nat.lt_succ_self k, List.mem_takeWhile_imp h⟩

theorem stop_eq_now (hleap : now.isLeap = false) : w.stop = now := by
  obtain ⟨hseconds, hnanos⟩ := w.now_seconds
  rw [hleap] at hseconds
  apply Instant.ext
  · simpa using hseconds.symm
  · rw [← hnanos, Instant.fraction_eq_nanos hleap]

theorem earlier_step_eq :
    now.earlier selection.granularity.step = .ok (w.point (selection.gridLength - 1)) := by
  obtain ⟨hseconds, hnanos⟩ := w.now_seconds
  have hlast : selection.gridLength - 1 + 1 = selection.gridLength :=
    Nat.sub_add_cancel selection.gridLength_pos
  have hspan := selection.gridLength_mul_step
  rw [← hlast, Nat.add_mul, Nat.one_mul] at hspan
  rw [w.stop_seconds] at hseconds
  rw [w.stop_nanos] at hnanos
  rw [Instant.earlier_eq_ok_iff, w.point_seconds (Nat.sub_le _ _), hseconds]
  exact ⟨by omega, hnanos.symm⟩

theorem point_lt_stop {k : Nat} (hk : k < selection.gridLength) : w.point k < w.stop := by
  have hseconds := (Instant.later_eq_ok_iff.mp (w.later_point hk)).1
  have hstep := selection.granularity.step_pos
  have hlt : w.point k < w.point (k + 1) := by
    rw [Instant.lt_iff]
    omega
  rw [← w.point_gridLength]
  exact Instant.lt_of_lt_of_le hlt (w.point_le_point hk)

theorem lt_stop_of_absorbs {mode : Sampling} {k : Nat} (hk : k < selection.gridLength)
    {t : Instant} (h : mode.absorbs (w.bucket k) t = true) : t < w.stop := by
  cases mode with
  | pointInTime => exact Instant.lt_of_le_of_lt (of_decide_eq_true h) (w.point_lt_stop hk)
  | bucketClose =>
    obtain ⟨-, hbelow⟩ := (Bool.and_eq_true _ _).mp h
    rw [← w.point_gridLength]
    exact Instant.lt_of_lt_of_le (of_decide_eq_true hbelow) (w.point_le_point hk)

theorem lt_now_of_mem_take (hleap : now.isLeap = false) {log : Log} {mode : Sampling} {t : Instant}
    (h : t ∈ log.times.take (w.reach log mode selection.gridLength)) :
    t < now ∧ (mode = .pointInTime →
      ∃ last, now.earlier selection.granularity.step = .ok last ∧ t ≤ last) := by
  have hlast := w.point_lt_now (Nat.sub_lt selection.gridLength_pos Nat.one_pos)
  rcases w.mem_take_reach h with hearly | ⟨j, hj, habsorbs⟩
  · rw [← w.point_zero] at hearly
    have hle := Instant.le_of_lt (Instant.lt_of_lt_of_le hearly
      (w.point_le_point (Nat.zero_le (selection.gridLength - 1))))
    exact ⟨Instant.lt_of_le_of_lt hle hlast, fun _ => ⟨_, w.earlier_step_eq, hle⟩⟩
  · refine ⟨w.stop_eq_now hleap ▸ w.lt_stop_of_absorbs hj habsorbs, ?_⟩
    rintro rfl
    exact ⟨_, w.earlier_step_eq,
      Instant.le_trans (of_decide_eq_true habsorbs) (w.point_le_point (Nat.le_sub_one_of_lt hj))⟩

theorem reach_congr {log other : Log}
    (h : ∀ (place : Nat) (t : Instant), t < w.stop →
      (other.times[place]? = some t ↔ log.times[place]? = some t))
    (mode : Sampling) {k : Nat} (hk : k ≤ selection.gridLength) :
    w.reach other mode k = w.reach log mode k := by
  induction k with
  | zero =>
    rw [reach, reach, Log.leading_eq_length_takeWhile, Log.leading_eq_length_takeWhile]
    refine congrArg List.length (takeWhile_congr_getElem? fun place t ht => h place t ?_)
    have hstart := w.point_lt_stop selection.gridLength_pos
    rw [w.point_zero] at hstart
    exact Instant.lt_of_lt_of_le (of_decide_eq_true ht) (Instant.le_of_lt hstart)
  | succ k ih =>
    rw [reach, reach, ih (Nat.le_of_succ_le hk)]
    congr 2
    refine takeWhile_congr_getElem? fun place t ht => ?_
    rw [List.getElem?_drop, List.getElem?_drop]
    exact h _ t (w.lt_stop_of_absorbs hk ht)

theorem series_congr (hleap : now.isLeap = false) {log other : Log}
    (h : log.SameBefore now other) (mode : Sampling) : w.series other mode = w.series log mode := by
  have hreach : ∀ k ≤ selection.gridLength, w.reach other mode k = w.reach log mode k :=
    fun k hk => w.reach_congr (fun place t ht => h.times place t (w.stop_eq_now hleap ▸ ht)) mode hk
  have hrows : ∀ n ≤ w.reach log mode selection.gridLength,
      other.rowAfter n = log.rowAfter n := by
    rintro (_ | place) hn
    · exact h.initialRow
    · have hplace : place < log.length :=
        Nat.lt_of_lt_of_le hn (w.reach_le_length log mode selection.gridLength)
      have htime : log.times[place]? = some log.times[place] := List.getElem?_eq_getElem hplace
      have htaken : log.times[place] ∈ log.times.take (w.reach log mode selection.gridLength) :=
        List.mem_take_iff_getElem.mpr ⟨place, Nat.lt_min.mpr ⟨hn, hplace⟩, rfl⟩
      have hbefore : log.times[place] < now := (w.lt_now_of_mem_take hleap htaken).1
      have hother : place < other.length :=
        (List.getElem?_eq_some_iff.mp ((h.times place _ hbefore).mpr htime)).1
      exact Log.rowAfter_eq_of_valueAt hplace hother (h.values place _ hbefore htime)
  simp only [series, h.kinds, hreach _ (Nat.le_refl _), Series.mk.injEq, and_true, true_and]
  refine List.map_congr_left fun k hk => ?_
  have hk : k + 1 ≤ selection.gridLength := List.mem_range.mp hk
  rw [hreach _ hk, hrows _ (w.reach_le_reach log mode hk)]

end Window

/-- A series needs of its log the entries that it used up, and of those before the window the last
one only. For an instant that is no leap second, these entries lie before it, and what else is in the
log from then on has no part in the series. -/
theorem resample_trimmed {log : Log} {selection : Selection} {now start : Instant}
    {mode : Sampling} {series : Series}
    (hstart : now.earlier selection.lookback.span = .ok start)
    (hseries : resample log selection now mode = .ok series) :
    log.leading (· < start) ≤ series.consumed ∧ series.consumed ≤ log.length ∧
    resample (log.between (log.leading (· < start) - 1) series.consumed) selection now mode =
      .ok { series with consumed := series.consumed - (log.leading (· < start) - 1) } ∧
    (now.isLeap = false →
      (∀ t ∈ log.times.take series.consumed, t < now ∧ (mode = .pointInTime →
        ∃ last, now.earlier selection.granularity.step = .ok last ∧ t ≤ last)) ∧
      ∀ other, log.SameBefore now other → resample other selection now mode = .ok series) := by
  obtain ⟨w, rfl⟩ := Window.exists_of_resample_eq_ok hseries
  obtain rfl : w.start = start := Except.ok.inj (w.earlier_eq.symm.trans hstart)
  refine ⟨w.reach_le_reach log mode (Nat.zero_le _), w.reach_le_length log mode _, ?_, ?_⟩
  · have hfirst : w.reach log mode 0 - 1 < w.reach log mode 0 ∨ w.reach log mode 0 - 1 = 0 := by
      omega
    rw [w.resample_eq]
    exact congrArg Except.ok (w.series_between log mode hfirst)
  · intro hleap
    refine ⟨fun t ht => w.lt_now_of_mem_take hleap ht, ?_⟩
    intro other hsame
    rw [w.resample_eq, w.series_congr hleap hsame]

private def elevenToNoon : Window ⟨.minute, .oneHour⟩ ⟨1720094400, 5, by decide⟩ where
  start := ⟨1720090800, 5, by decide⟩
  stop := ⟨1720094400, 5, by decide⟩
  earlier_eq := Instant.earlier_eq_ok_iff.mpr (by decide)
  later_eq := Instant.later_eq_ok_iff.mpr (by decide)

/-- Two entries before the hour and one in it; then one to choose, and one that it may keep the
cursor from. -/
private def blockedLog (later : Instant) (value : UInt64) : Log where
  times := [⟨1720080000, 0, by decide⟩, ⟨1720090000, 0, by decide⟩, ⟨1720092000, 0, by decide⟩,
    later, ⟨1720093000, 0, by decide⟩]
  counters := [⟨.connections, .series [4, 5, 6, value, 8]⟩, ⟨.torrents, .constant 2⟩]
  aligned := by
    intro c hc length hlength
    simp only [List.mem_cons, List.not_mem_nil, or_false] at hc
    rcases hc with rfl | rfl <;> cases hlength
    rfl

private theorem sameBefore_blockedLog {now later other : Instant} (hlater : ¬ later < now)
    (hother : ¬ other < now) (value changed : UInt64) :
    (blockedLog later value).SameBefore now (blockedLog other changed) := by
  refine ⟨rfl, rfl, ?_, ?_⟩
  · intro place t ht
    rcases place with _ | _ | _ | _ | place
    · rfl
    · rfl
    · rfl
    · refine iff_of_false ?_ ?_
      · rintro ⟨⟩
        exact hother ht
      · rintro ⟨⟩
        exact hlater ht
    · rfl
  · intro place t ht hplace
    rcases place with _ | _ | _ | _ | place
    · rfl
    · rfl
    · rfl
    · cases hplace
      exact absurd ht hlater
    · rfl

/-- An entry at the end of the hour takes no part in it, nor does another one put in its place. -/
theorem resample_trimmed_toNoon :
    ∃ series, resample (blockedLog ⟨1720094400, 5, by decide⟩ 7) ⟨.minute, .oneHour⟩
        ⟨1720094400, 5, by decide⟩ .bucketClose = .ok series ∧ series.consumed = 3 ∧
      resample ((blockedLog ⟨1720094400, 5, by decide⟩ 7).between 1 3) ⟨.minute, .oneHour⟩
        ⟨1720094400, 5, by decide⟩ .bucketClose = .ok { series with consumed := 2 } ∧
      (∀ t ∈ (blockedLog ⟨1720094400, 5, by decide⟩ 7).times.take 3,
        t < ⟨1720094400, 5, by decide⟩) ∧
      resample (blockedLog ⟨1720098000, 0, by decide⟩ 99) ⟨.minute, .oneHour⟩
        ⟨1720094400, 5, by decide⟩ .bucketClose = .ok series := by
  have hseries :=
    elevenToNoon.resample_eq (blockedLog ⟨1720094400, 5, by decide⟩ 7) .bucketClose
  have hlead : (blockedLog ⟨1720094400, 5, by decide⟩ 7).leading (· < elevenToNoon.start) = 2 := by
    decide +kernel
  have hconsumed : (elevenToNoon.series (blockedLog ⟨1720094400, 5, by decide⟩ 7)
      .bucketClose).consumed = 3 := by
    decide +kernel
  obtain ⟨-, -, hcut, hnow⟩ := resample_trimmed elevenToNoon.earlier_eq hseries
  rw [hlead, hconsumed] at hcut
  obtain ⟨hbefore, hothers⟩ := hnow (by decide)
  rw [hconsumed] at hbefore
  exact ⟨_, hseries, hconsumed, hcut, fun t ht => (hbefore t ht).1,
    hothers _ (sameBefore_blockedLog (by decide) (by decide) 7 99)⟩

end CounterBoard
