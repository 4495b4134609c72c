import CounterBoard.Proofs.Window
import Mathlib.Data.List.TakeWhile
import Mathlib.Data.Nat.Find

/-!
What the one pass of resampling carries from entry to entry. A cursor is told by the number of
entries it has taken in, and a window fixes how far the cursor reaches at each of its points. On a
log in the order of time, the entries that a downward closed test leads with are all that pass it.
-/

set_option autoImplicit false
set_option relaxedAutoImplicit false

namespace CounterBoard

open CounterBoard.Time

/-- The length of the longest prefix of a list that has a property. -/
def longestPrefix {α : Type} (P : List α → Prop) [DecidablePred P] (l : List α) : Nat :=
  Nat.findGreatest (fun n => P (l.take n)) l.length

theorem longestPrefix_eq {α : Type} {P : List α → Prop} [DecidablePred P] {l : List α} {n : Nat}
    (hn : n ≤ l.length) (hfront : P (l.take n))
    (hclosed : ∀ m, P (l.take (m + 1)) → P (l.take m))
    (hmax : n < l.length → ¬ P (l.take (n + 1))) : longestPrefix P l = n := by
  rw [longestPrefix, Nat.findGreatest_eq_iff]
  refine ⟨hn, fun _ => hfront, ?_⟩
  intro m hlt hm hlong
  have hshorten : ∀ d, P (l.take (n + 1 + d)) → P (l.take (n + 1)) := by
    intro d
    induction d with
    | zero => exact id
    | succ d ih => exact fun h => ih (hclosed _ h)
  have hm' : m = n + 1 + (m - (n + 1)) := by omega
  exact hmax (by omega) (hshorten (m - (n + 1)) (hm' ▸ hlong))

theorem longestPrefix_le_length {α : Type} (P : List α → Prop) [DecidablePred P] (l : List α) :
    longestPrefix P l ≤ l.length :=
  Nat.findGreatest_le _

theorem take_longestPrefix {α : Type} {P : List α → Prop} [DecidablePred P] {l : List α}
    (hnil : P []) : P (l.take (longestPrefix P l)) :=
  Nat.findGreatest_spec (P := fun n => P (l.take n)) (Nat.zero_le _) (by simpa using hnil)

theorem not_take_of_longestPrefix_lt {α : Type} {P : List α → Prop} [DecidablePred P]
    {l : List α} {n : Nat} (hlt : longestPrefix P l < n) (hn : n ≤ l.length) : ¬ P (l.take n) :=
  Nat.findGreatest_is_greatest hlt hn

theorem not_of_dropWhile_eq_cons {α : Type} {p : α → Prop} [DecidablePred p] {l rest : List α}
    {a : α} (h : l.dropWhile p = a :: rest) : ¬ p a := by
  have hhead := List.head?_dropWhile_not (fun a => decide (p a)) l
  rw [h] at hhead
  simpa using hhead

theorem longestPrefix_forall {α : Type} (p : α → Prop) [DecidablePred p] (l : List α) :
    longestPrefix (fun front => ∀ t ∈ front, p t) l = (l.takeWhile p).length := by
  have hfront : l.takeWhile p <+: l := List.takeWhile_prefix _
  have hsplit : l.takeWhile p ++ l.dropWhile p = l := List.takeWhile_append_dropWhile
  apply longestPrefix_eq
  · exact hfront.length_le
  · rw [← List.prefix_iff_eq_take.mp hfront]
    intro t ht
    simpa using List.mem_takeWhile_imp ht
  · intro m h t ht
    exact h t ((List.take_sublist_take_left (Nat.le_succ m)).subset ht)
  · intro hlt hlong
    cases hrest : l.dropWhile p with
    | nil =>
      rw [hrest, List.append_nil] at hsplit
      rw [hsplit] at hlt
      exact Nat.lt_irrefl _ hlt
    | cons t rest =>
      have hmem : t ∈ (l.takeWhile p ++ t :: rest).take ((l.takeWhile p).length + 1) := by
        rw [List.take_length_add_append]
        simp
      rw [← hrest, hsplit] at hmem
      exact not_of_dropWhile_eq_cons hrest (hlong t hmem)

/-- The value that a counter shows after a number of entries: its initial value before the first
entry, and then the value at the last of the entries. -/
def Counter.after (c : Counter) : Nat → UInt64
  | 0 => c.initial
  | n + 1 => (c.valueAt n).getD c.initial

/-- The value of a column at a place; zero where a column has none. -/
def Values.nth (v : Values) (place : Nat) : UInt64 :=
  match v with
  | .series column => column[place]?.getD 0
  | .constant value => value

theorem Values.first_eq_nth (v : Values) : v.first = v.nth 0 := by
  rcases v with (_ | ⟨x, column⟩) | value <;> rfl

theorem Values.nth_rest (v : Values) (place : Nat) : v.rest.nth place = v.nth (place + 1) := by
  rcases v with (_ | ⟨x, column⟩) | value <;> rfl

theorem Counter.nth_values (c : Counter) (place : Nat) :
    c.values.nth place = c.after (place + 1) := by
  rcases c with ⟨kind, column | value⟩ <;> rfl

namespace Log

def rowAfter (log : Log) (entries : Nat) : List UInt64 :=
  log.counters.map fun c => c.after entries

/-- The number of entries that lead a log and all pass a test. -/
def leading (log : Log) (passes : Instant → Prop) [DecidablePred passes] : Nat :=
  longestPrefix (fun times => ∀ t ∈ times, passes t) log.times

/-- The values at the last entry that passes a test, found by a scan of the whole log; the initial
values if the scan finds none. -/
def scan (log : Log) (passes : Instant → Prop) [DecidablePred passes] : List UInt64 :=
  log.times.zipIdx.foldl (fun row (t, place) => if passes t then log.rowAfter (place + 1) else row)
    log.initialRow

/-- The row of the latest entry that passes a test. Of entries at one instant, the one that stands
last in the log is the latest. -/
inductive IsLatest (log : Log) (passes : Instant → Prop) : List UInt64 → Prop
  | initial : (∀ t ∈ log.times, ¬ passes t) → IsLatest log passes log.initialRow
  | entry (place : Nat) (t : Instant) : log.times[place]? = some t → passes t →
      (∀ other u, log.times[other]? = some u → passes u → u < t ∨ u = t ∧ other ≤ place) →
      IsLatest log passes (log.rowAfter (place + 1))

@[simp]
theorem rowAfter_zero (log : Log) : log.rowAfter 0 = log.initialRow := rfl

theorem valueAt_eq_some {log : Log} {c : Counter} (hc : c ∈ log.counters) {place : Nat}
    (hplace : place < log.length) : c.valueAt place = some (c.after (place + 1)) := by
  rcases c with ⟨kind, column | value⟩
  · have hfit : column.length = log.times.length := log.aligned _ hc column.length rfl
    have hlt : place < column.length := by rw [hfit]; exact hplace
    simp [Counter.after, Counter.valueAt, List.getElem?_eq_getElem hlt]
  · rfl

theorem map_some_rowAfter {log : Log} {place : Nat} (hplace : place < log.length) :
    (log.rowAfter (place + 1)).map some = log.counters.map fun c => c.valueAt place := by
  rw [rowAfter, List.map_map]
  exact List.map_congr_left fun c hc => (valueAt_eq_some hc hplace).symm

private theorem getElem?_entriesOf (times : List Instant) (columns : List Values) (place : Nat) :
    (entriesOf times columns)[place]? =
      times[place]?.map fun t => ⟨t, columns.map fun v => v.nth place⟩ := by
  induction times generalizing columns place with
  | nil => rfl
  | cons t times ih =>
    cases place with
    | zero =>
      have hfirst : columns.map Values.first = columns.map fun v => v.nth 0 :=
        List.map_congr_left fun v _ => v.first_eq_nth
      simp [entriesOf, hfirst]
    | succ place =>
      have hrest : (columns.map Values.rest).map (fun v => v.nth place) =
          columns.map fun v => v.nth (place + 1) := by
        rw [List.map_map]
        exact List.map_congr_left fun v _ => v.nth_rest place
      rw [entriesOf, List.getElem?_cons_succ, List.getElem?_cons_succ, ih, hrest]

theorem getElem?_entries (log : Log) (place : Nat) :
    log.entries[place]? = log.times[place]?.map fun t => ⟨t, log.rowAfter (place + 1)⟩ := by
  have hrow : (log.counters.map Counter.values).map (fun v => v.nth place) =
      log.rowAfter (place + 1) := by
    rw [List.map_map]
    exact List.map_congr_left fun c _ => c.nth_values place
  rw [entries, getElem?_entriesOf, hrow]

theorem leading_eq_length_takeWhile (log : Log) (passes : Instant → Prop)
    [DecidablePred passes] : log.leading passes = (log.times.takeWhile passes).length := by
  exact longestPrefix_forall passes log.times

theorem leading_congr (log : Log) {p q : Instant → Prop} [DecidablePred p] [DecidablePred q]
    (h : ∀ t, p t ↔ q t) : log.leading p = log.leading q := by
  have htests : (fun t => decide (p t)) = fun t => decide (q t) :=
    funext fun t => decide_eq_decide.mpr (h t)
  rw [leading_eq_length_takeWhile, leading_eq_length_takeWhile, htests]

theorem leading_le_length (log : Log) (passes : Instant → Prop) [DecidablePred passes] :
    log.leading passes ≤ log.length :=
  longestPrefix_le_length _ _

theorem isSortedFrom_iff (times : List Instant) :
    isSortedFrom times = true ↔ times.Pairwise (· ≤ ·) := by
  induction times with
  | nil => simp [isSortedFrom]
  | cons s rest ih =>
    cases rest with
    | nil => simp [isSortedFrom]
    | cons t rest =>
      rw [isSortedFrom, Bool.and_eq_true, ih, decide_eq_true_eq]
      constructor
      · rintro ⟨hst, hrest⟩
        refine List.pairwise_cons.mpr ⟨?_, hrest⟩
        intro u hu
        rcases List.mem_cons.mp hu with rfl | hu
        · exact hst
        · exact Instant.le_trans hst (List.rel_of_pairwise_cons hrest hu)
      · intro h
        exact ⟨List.rel_of_pairwise_cons h List.mem_cons_self, List.Pairwise.of_cons h⟩

theorem passes_iff_lt_leading {log : Log} (hsorted : log.isSorted = true)
    {passes : Instant → Prop} [DecidablePred passes]
    (hdown : ∀ t u, t ≤ u → passes u → passes t) {place : Nat} {t : Instant}
    (ht : log.times[place]? = some t) : passes t ↔ place < log.leading passes := by
  obtain ⟨hplace, rfl⟩ := List.getElem?_eq_some_iff.mp ht
  have hpairwise := (isSortedFrom_iff log.times).mp hsorted
  constructor
  · intro hpass
    by_contra hle
    have hlong : ¬ ∀ t ∈ log.times.take (place + 1), passes t :=
      not_take_of_longestPrefix_lt (P := fun times => ∀ t ∈ times, passes t)
        (Nat.lt_succ_of_le (Nat.not_lt.mp hle)) hplace
    apply hlong
    intro s hs
    obtain ⟨i, hi, rfl⟩ := List.mem_take_iff_getElem.mp hs
    rcases Nat.lt_or_eq_of_le (Nat.le_of_lt_succ (Nat.lt_of_lt_of_le hi (Nat.min_le_left _ _)))
      with hlt | rfl
    · exact hdown _ _ (List.pairwise_iff_getElem.mp hpairwise i place _ _ hlt) hpass
    · exact hpass
  · intro hlt
    have hall := take_longestPrefix (P := fun times => ∀ t ∈ times, passes t) (l := log.times)
      (by simp)
    exact hall _ (List.mem_take_iff_getElem.mpr ⟨place, Nat.lt_min.mpr ⟨hlt, hplace⟩, rfl⟩)

theorem isLatest_rowAfter_leading {log : Log} (hsorted : log.isSorted = true)
    {passes : Instant → Prop} [DecidablePred passes]
    (hdown : ∀ t u, t ≤ u → passes u → passes t) :
    log.IsLatest passes (log.rowAfter (log.leading passes)) := by
  have hpairwise := (isSortedFrom_iff log.times).mp hsorted
  cases hlead : log.leading passes with
  | zero =>
    refine .initial fun t ht hpass => ?_
    obtain ⟨i, hi⟩ := List.mem_iff_getElem?.mp ht
    have hlt := (passes_iff_lt_leading hsorted hdown hi).mp hpass
    rw [hlead] at hlt
    exact Nat.not_lt_zero i hlt
  | succ place =>
    have hplace : place < log.times.length := by
      have hle := log.leading_le_length passes
      rw [hlead] at hle
      exact hle
    have hentry := List.getElem?_eq_getElem hplace
    refine .entry place _ hentry ?_ ?_
    · exact (passes_iff_lt_leading hsorted hdown hentry).mpr (by omega)
    · intro other u hu hpass
      have hother := (passes_iff_lt_leading hsorted hdown hu).mp hpass
      obtain ⟨hlt, rfl⟩ := List.getElem?_eq_some_iff.mp hu
      rcases Nat.lt_or_eq_of_le (Nat.le_of_lt_succ (hlead ▸ hother)) with hbefore | rfl
      · have hle := List.pairwise_iff_getElem.mp hpairwise other place hlt hplace hbefore
        rw [Instant.le_iff] at hle
        by_cases heq : log.times[other] = log.times[place]
        · exact .inr ⟨heq, Nat.le_of_lt hbefore⟩
        · refine .inl (Instant.not_le.mp fun hge => heq ?_)
          exact Instant.le_antisymm (Instant.le_iff.mpr hle) hge
      · exact .inr ⟨rfl, Nat.le_refl _⟩

private theorem foldl_scan (log : Log) (passes : Instant → Prop) [DecidablePred passes]
    (row : List UInt64) (bound shift : Nat) (times : List Instant)
    (hpass : ∀ i t, times[i]? = some t → (passes t ↔ shift + i < bound))
    (hbound : bound ≤ shift + times.length) :
    (times.zipIdx shift).foldl
        (fun row (t, place) => if passes t then log.rowAfter (place + 1) else row) row =
      if shift < bound then log.rowAfter bound else row := by
  induction times generalizing row shift with
  | nil =>
    rw [List.length_nil] at hbound
    rw [if_neg (by omega)]
    rfl
  | cons t times ih =>
    have hhead : passes t ↔ shift < bound := by simpa using hpass 0 t rfl
    have htail : ∀ i u, times[i]? = some u → (passes u ↔ shift + 1 + i < bound) := by
      intro i u hu
      rw [hpass (i + 1) u hu]
      omega
    rw [List.length_cons] at hbound
    rw [List.zipIdx_cons, List.foldl_cons, ih _ (shift + 1) htail (by omega)]
    by_cases hlt : shift + 1 < bound
    · rw [if_pos hlt, if_pos (by omega)]
    · rw [if_neg hlt]
      change (if passes t then log.rowAfter (shift + 1) else row) = _
      by_cases hlast : shift < bound
      · rw [if_pos hlast, if_pos (hhead.mpr hlast), show bound = shift + 1 by omega]
      · rw [if_neg hlast, if_neg (mt hhead.mp hlast)]

/-- In a sorted log, a scan of the whole log finds what leads up to a downward closed test. -/
theorem scan_eq_rowAfter_leading {log : Log} (hsorted : log.isSorted = true)
    {passes : Instant → Prop} [DecidablePred passes]
    (hdown : ∀ t u, t ≤ u → passes u → passes t) :
    log.scan passes = log.rowAfter (log.leading passes) := by
  have hlength : log.leading passes ≤ 0 + log.times.length := by
    rw [Nat.zero_add]
    exact log.leading_le_length passes
  rw [scan, foldl_scan log passes _ (log.leading passes) 0 log.times
    (fun i t ht => by rw [Nat.zero_add]; exact passes_iff_lt_leading hsorted hdown ht) hlength]
  split
  · rfl
  · next hnone => rw [Nat.eq_zero_of_not_pos hnone, rowAfter_zero]

end Log

namespace Cursor

def atPlace (log : Log) (taken : Nat) : Cursor :=
  ⟨taken, log.rowAfter taken, log.entries.drop taken⟩

theorem start_eq_atPlace (log : Log) : start log = atPlace log 0 := rfl

private theorem takeWhile_eq_atPlace (log : Log) (passes : Instant → Bool) (ahead : List Entry)
    (taken : Nat) (h : log.entries.drop taken = ahead) :
    takeWhile passes taken (log.rowAfter taken) ahead =
      atPlace log (taken + ((ahead.map Entry.time).takeWhile passes).length) := by
  induction ahead generalizing taken with
  | nil => simp [takeWhile, atPlace, h]
  | cons e ahead ih =>
    have hentry : log.entries[taken]? = some e := by
      rw [← List.head?_drop, h]
      rfl
    have hahead : log.entries.drop (taken + 1) = ahead := by
      rw [← List.tail_drop, h]
      rfl
    by_cases hpass : passes e.time
    · have hrow : e.row = log.rowAfter (taken + 1) := by
        rw [log.getElem?_entries] at hentry
        obtain ⟨t, -, rfl⟩ := Option.map_eq_some_iff.mp hentry
        rfl
      rw [takeWhile, if_pos hpass, hrow, ih (taken + 1) hahead, List.map_cons,
        List.takeWhile_cons_of_pos hpass, List.length_cons]
      congr 1
      omega
    · rw [takeWhile, if_neg hpass, List.map_cons, List.takeWhile_cons_of_neg hpass]
      simp [atPlace, h]

theorem advance_atPlace (log : Log) (taken : Nat) (passes : Instant → Bool) :
    (atPlace log taken).advance passes =
      atPlace log (taken + ((log.times.drop taken).takeWhile passes).length) := by
  have htimes : (log.entries.drop taken).map Entry.time = log.times.drop taken := by
    rw [List.map_drop, log.map_time_entries]
  rw [← htimes]
  exact takeWhile_eq_atPlace log passes _ taken rfl

theorem sample_atPlace (log : Log) (mode : Sampling) (buckets : List Bucket) (places : Nat → Nat)
    (hplaces : ∀ k bucket, buckets[k]? = some bucket → places (k + 1) =
      places k + ((log.times.drop (places k)).takeWhile (mode.absorbs bucket)).length) :
    sample mode (atPlace log (places 0)) buckets =
      (buckets.mapIdx fun k bucket => ⟨bucket.start, log.rowAfter (places (k + 1))⟩,
        atPlace log (places buckets.length)) := by
  induction buckets generalizing places with
  | nil => rfl
  | cons bucket buckets ih =>
    have htail := ih (fun k => places (k + 1)) fun k b hb => hplaces (k + 1) b hb
    rw [sample, advance_atPlace, ← hplaces 0 bucket rfl, htail, List.mapIdx_cons]
    rfl

end Cursor

namespace Window

variable {selection : Selection} {now : Instant} (w : Window selection now)

/-- The number of entries that resampling has taken in when it comes to the `k`-th point: at first
those before the window, then at each point those that the point absorbs. -/
def reach (log : Log) (mode : Sampling) : Nat → Nat
  | 0 => log.leading (· < w.start)
  | k + 1 => reach log mode k +
      ((log.times.drop (reach log mode k)).takeWhile (mode.absorbs (w.bucket k))).length

theorem reach_le_length (log : Log) (mode : Sampling) (k : Nat) :
    w.reach log mode k ≤ log.length := by
  induction k with
  | zero => exact log.leading_le_length _
  | succ k ih =>
    have hrun := (List.takeWhile_prefix (mode.absorbs (w.bucket k))
      (l := log.times.drop (w.reach log mode k))).length_le
    rw [List.length_drop] at hrun
    rw [Log.length] at ih ⊢
    rw [reach]
    omega

theorem reach_le_reach (log : Log) (mode : Sampling) {j k : Nat} (h : j ≤ k) :
    w.reach log mode j ≤ w.reach log mode k := by
  induction h with
  | refl => exact Nat.le_refl _
  | @step k _ ih =>
    rw [reach]
    omega

def series (log : Log) (mode : Sampling) : Series where
  selection := selection
  kinds := log.kinds
  points := (List.range selection.gridLength).map fun k =>
    ⟨w.point k, log.rowAfter (w.reach log mode (k + 1))⟩
  consumed := w.reach log mode selection.gridLength

/-- Resampling does not fail over a window of the calendar, and its points hold what the cursor has
reached. -/
theorem resample_eq (log : Log) (mode : Sampling) :
    resample log selection now mode = .ok (w.series log mode) := by
  have hseek : (Cursor.start log).advance (· < w.start) =
      Cursor.atPlace log (w.reach log mode 0) := by
    rw [Cursor.start_eq_atPlace, Cursor.advance_atPlace, reach, log.leading_eq_length_takeWhile]
    simp
  have hsample := Cursor.sample_atPlace log mode w.buckets (w.reach log mode) (by
    intro k bucket hbucket
    obtain ⟨hk, rfl⟩ := List.getElem?_eq_some_iff.mp hbucket
    simp [buckets, reach])
  have hpoints : (w.buckets.mapIdx fun k bucket =>
      (⟨bucket.start, log.rowAfter (w.reach log mode (k + 1))⟩ : GridPoint)) =
        (w.series log mode).points := by
    apply List.ext_getElem
    · simp [series]
    · intro k hk hk'
      simp [series, buckets, bucket]
  rw [resample, w.earlier_eq]
  change (grid selection.granularity now w.start >>= fun buckets => _) = _
  rw [w.grid_eq]
  change Except.ok _ = _
  simp only [hseek, hsample, hpoints, length_buckets]
  rfl

theorem resample_isOk_iff (log : Log) (selection : Selection) (now : Instant) (mode : Sampling) :
    (∃ series, resample log selection now mode = .ok series) ↔
      Nonempty (Window selection now) := by
  constructor
  · rintro ⟨series, h⟩
    obtain ⟨start, hstart, hrest⟩ := exists_of_bind_eq_ok h
    obtain ⟨buckets, hgrid, -⟩ := exists_of_bind_eq_ok hrest
    exact nonempty_of_grid hstart hgrid
  · rintro ⟨w⟩
    exact ⟨w.series log mode, w.resample_eq log mode⟩

end Window

end CounterBoard
