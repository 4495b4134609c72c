import CounterBoard.Proofs.Appending
import CounterBoard.Proofs.NormalForm
import CounterBoard.Proofs.Overrun

/-!
Counters apart from each other. The cursor goes by the times of a log, and the row that it carries
holds each counter in a place of its own, so resampling some counters of a log shows what those
counters show in the whole log. A gauge and a column of its one value differ until the first entry
is taken in: the gauge holds from the start, and the column starts at zero.
-/

set_option autoImplicit false
set_option relaxedAutoImplicit false

namespace CounterBoard

open CounterBoard.Time

/-- The members of a list at given places, in the order and as often as the places are given; a
place beyond the list has none. -/
def pickFrom {α : Type} (places : List Nat) (l : List α) : List α :=
  places.filterMap (l[·]?)

theorem mem_of_mem_pickFrom {α : Type} {places : List Nat} {l : List α} {a : α}
    (h : a ∈ pickFrom places l) : a ∈ l := by
  obtain ⟨place, -, hplace⟩ := List.mem_filterMap.mp h
  exact List.mem_of_getElem? hplace

theorem map_pickFrom {α β : Type} (f : α → β) (places : List Nat) (l : List α) :
    (pickFrom places l).map f = pickFrom places (l.map f) := by
  simp [pickFrom, List.map_filterMap]

theorem exists_pickFrom_eq {α : Type} {l chosen : List α} (h : chosen ⊆ l) :
    ∃ places, pickFrom places l = chosen := by
  induction chosen with
  | nil => exact ⟨[], rfl⟩
  | cons a chosen ih =>
    obtain ⟨ha, hrest⟩ := List.cons_subset.mp h
    obtain ⟨place, hplace⟩ := List.mem_iff_getElem?.mp ha
    obtain ⟨places, hplaces⟩ := ih hrest
    refine ⟨place :: places, ?_⟩
    rw [pickFrom, List.filterMap_cons_some hplace]
    exact congrArg (a :: ·) hplaces

theorem length_takeWhile_eq_zero_iff {α : Type} {p : α → Bool} {l : List α} :
    (l.takeWhile p).length = 0 ↔ ∀ a ∈ l.head?, p a = false := by
  cases l with
  | nil => simp
  | cons a l => cases ha : p a <;> simp [ha]

/-- The counter that has the column which a snapshot of so many entries serves for it. -/
def Counter.spread (entries : Nat) (c : Counter) : Counter :=
  ⟨c.kind, .series (Snapshot.column entries c.values)⟩

theorem Counter.after_spread {c : Counter} {entries n : Nat} (hn : n < entries) :
    (c.spread entries).after (n + 1) = c.after (n + 1) := by
  have hvalue : (c.spread entries).valueAt n = c.valueAt n := Snapshot.getElem?_column c hn
  rw [after, after, hvalue]
  rcases c with ⟨kind, column | value⟩ <;> rfl

namespace Log

def pick (log : Log) (places : List Nat) : Log where
  times := log.times
  counters := pickFrom places log.counters
  aligned := fun c hc => log.aligned c (mem_of_mem_pickFrom hc)

def spread (log : Log) (place : Nat) : Log where
  times := log.times
  counters := log.counters.modify place (Counter.spread log.length)
  aligned := by
    intro c hc
    obtain ⟨other, hother⟩ := List.mem_iff_getElem?.mp hc
    rw [List.getElem?_modify] at hother
    obtain ⟨d, hd, rfl⟩ := Option.map_eq_some_iff.mp hother
    have hfits := log.aligned d (List.mem_of_getElem? hd)
    split
    · intro length hlength
      cases hlength
      exact Snapshot.length_column hfits
    · exact hfits

/-- No entry of the log has a part in a point: there is none, or the first one comes too late. Those
behind the first wait until it has been taken in. -/
def IsUntouched (log : Log) (mode : Sampling) (granularity : Granularity) (point : Instant) :
    Prop :=
  ∀ t ∈ log.times.head?, mode.IsSettled granularity point t

theorem rowAfter_pick (log : Log) (places : List Nat) (n : Nat) :
    (log.pick places).rowAfter n = pickFrom places (log.rowAfter n) := by
  rw [rowAfter, rowAfter, pick, map_pickFrom]

theorem initialRow_spread (log : Log) (place : Nat) :
    (log.spread place).initialRow = log.initialRow.set place 0 := by
  apply List.ext_getElem?
  intro i
  rw [initialRow, initialRow, spread, List.getElem?_map, List.getElem?_modify, List.getElem?_set,
    List.length_map, List.getElem?_map]
  by_cases hi : place = i
  · subst hi
    by_cases hplace : place < log.counters.length
    · simp [hplace, Counter.spread, Counter.initial]
    · simp [hplace]
  · simp [hi]

theorem rowAfter_spread (log : Log) (place : Nat) {n : Nat} (hn : n < log.length) :
    (log.spread place).rowAfter (n + 1) = log.rowAfter (n + 1) := by
  apply List.ext_getElem?
  intro i
  rw [rowAfter, rowAfter, spread, List.getElem?_map, List.getElem?_modify, List.getElem?_map]
  cases log.counters[i]? with
  | none => rfl
  | some c =>
    by_cases hi : place = i
    · simp [hi, Counter.after_spread hn]
    · simp [hi]

theorem getElem?_rowAfter_of_constant {log : Log} {place : Nat} {kind : CounterKind} {v : UInt64}
    (h : log.counters[place]? = some ⟨kind, .constant v⟩) (n : Nat) :
    (log.rowAfter n)[place]? = some v := by
  rw [rowAfter, List.getElem?_map, h]
  cases n <;> rfl

theorem rowAfter_spread_ne_iff {log : Log} {place : Nat} {kind : CounterKind} {v : UInt64}
    (h : log.counters[place]? = some ⟨kind, .constant v⟩) {n : Nat} (hn : n ≤ log.length) :
    (log.spread place).rowAfter n ≠ log.rowAfter n ↔ n = 0 ∧ v ≠ 0 := by
  have hvalue := getElem?_rowAfter_of_constant h n
  cases n with
  | zero =>
    obtain ⟨hlt, rfl⟩ := List.getElem?_eq_some_iff.mp hvalue
    rw [rowAfter_zero, initialRow_spread]
    constructor
    · intro hne
      refine ⟨rfl, fun hzero => hne ?_⟩
      rw [← hzero]
      exact List.set_getElem_self hlt
    · rintro ⟨-, hnonzero⟩ hsame
      have hset : (log.initialRow.set place 0)[place]? = some 0 := List.getElem?_set_self hlt
      rw [hsame, hvalue] at hset
      exact hnonzero (Option.some.inj hset)
  | succ n => simp [rowAfter_spread log place hn]

theorem counters_spread {log : Log} {place : Nat} {kind : CounterKind} {v : UInt64}
    (h : log.counters[place]? = some ⟨kind, .constant v⟩) :
    (log.spread place).counters =
      log.counters.set place ⟨kind, .series (List.replicate log.length v)⟩ := by
  change log.counters.modify place (Counter.spread log.length) = _
  rw [List.modify_eq_set_getElem?, h]
  rfl

@[simp]
theorem kinds_spread (log : Log) (place : Nat) : (log.spread place).kinds = log.kinds := by
  apply List.ext_getElem?
  intro i
  rw [kinds, kinds, spread, List.getElem?_map, List.getElem?_modify, List.getElem?_map]
  cases log.counters[i]? with
  | none => rfl
  | some c => by_cases hi : place = i <;> simp [hi, Counter.spread]

end Log

def Series.pick (s : Series) (places : List Nat) : Series where
  selection := s.selection
  kinds := pickFrom places s.kinds
  points := s.points.map fun p => ⟨p.timestamp, pickFrom places p.values⟩
  consumed := s.consumed

namespace Window

variable {selection : Selection} {now : Instant} (w : Window selection now)

theorem reach_of_times_eq {log other : Log} (h : other.times = log.times) (mode : Sampling)
    (k : Nat) : w.reach other mode k = w.reach log mode k := by
  induction k with
  | zero => rw [reach, reach, Log.leading, Log.leading, h]
  | succ k ih => rw [reach, reach, ih, h]

theorem series_pick (log : Log) (places : List Nat) (mode : Sampling) :
    w.series (log.pick places) mode = (w.series log mode).pick places := by
  have htimes : (log.pick places).times = log.times := rfl
  have hreach := w.reach_of_times_eq htimes mode
  have hkinds : (log.pick places).kinds = pickFrom places log.kinds :=
    map_pickFrom Counter.kind places log.counters
  simp only [series, Series.pick, hreach, hkinds, Log.rowAfter_pick, List.map_map]
  rfl

theorem line_of_times_eq {log other : Log} (h : other.times = log.times) (mode : Sampling)
    (c : Counter) : w.line other mode c = w.line log mode c := by
  simp only [line, w.reach_of_times_eq h]

theorem getElem?_points_series {log : Log} {mode : Sampling} {k : Nat} {p : GridPoint}
    (h : (w.series log mode).points[k]? = some p) : k < selection.gridLength ∧
      p = ⟨w.point k, log.rowAfter (w.reach log mode (k + 1))⟩ := by
  obtain ⟨j, hj, rfl⟩ := Option.map_eq_some_iff.mp ((List.getElem?_map ..).symm.trans h)
  obtain ⟨hk, rfl⟩ := List.getElem?_eq_some_iff.mp hj
  rw [List.length_range] at hk
  rw [List.getElem_range]
  exact ⟨hk, rfl⟩

theorem reach_eq_zero_iff {log : Log} {mode : Sampling} {k : Nat} :
    w.reach log mode k = 0 ↔ ∀ t ∈ log.times.head?,
      ¬ t < w.start ∧ ∀ j < k, mode.absorbs (w.bucket j) t = false := by
  induction k with
  | zero =>
    rw [reach, log.leading_eq_length_takeWhile, length_takeWhile_eq_zero_iff]
    simp
  | succ k ih =>
    constructor
    · intro hzero t ht
      have hbefore : w.reach log mode k = 0 :=
        Nat.eq_zero_of_le_zero (hzero ▸ w.reach_le_reach log mode (Nat.le_succ k))
      obtain ⟨hstart, hearlier⟩ := ih.mp hbefore t ht
      rw [reach, hbefore, Nat.zero_add, List.drop_zero, length_takeWhile_eq_zero_iff] at hzero
      refine ⟨hstart, fun j hj => ?_⟩
      rcases Nat.lt_or_eq_of_le (Nat.le_of_lt_succ hj) with hlt | rfl
      · exact hearlier j hlt
      · exact hzero t ht
    · intro h
      have hbefore : w.reach log mode k = 0 :=
        ih.mpr fun t ht => ⟨(h t ht).1, fun j hj => (h t ht).2 j (Nat.lt_succ_of_lt hj)⟩
      rw [reach, hbefore, Nat.zero_add, List.drop_zero, length_takeWhile_eq_zero_iff]
      exact fun t ht => (h t ht).2 k (Nat.lt_succ_self k)

theorem isSettled_of_not_absorbs {mode : Sampling} {k : Nat} (hk : k < selection.gridLength)
    {t : Instant} (hstart : ¬ t < w.start)
    (habsorbs : ∀ j < k + 1, mode.absorbs (w.bucket j) t = false) :
    mode.IsSettled selection.granularity (w.point k) t := by
  cases mode with
  | pointInTime => exact Instant.not_le.mp (of_decide_eq_false (habsorbs k (Nat.lt_succ_self k)))
  | bucketClose =>
    have hlate : ∀ j ≤ k + 1, w.point j ≤ t := by
      intro j
      induction j with
      | zero =>
        intro _
        rw [w.point_zero]
        exact Decidable.not_not.mp fun hearly => hstart (Instant.not_le.mp hearly)
      | succ j ih =>
        intro hj
        have hopen : decide (w.point j ≤ t) = true := decide_eq_true (ih (Nat.le_of_succ_le hj))
        have hclosed := habsorbs j hj
        change (decide (w.point j ≤ t) && decide (t < w.point (j + 1))) = false at hclosed
        rw [hopen, Bool.true_and] at hclosed
        exact Decidable.not_not.mp fun hbefore =>
          of_decide_eq_false hclosed (Instant.not_le.mp hbefore)
    exact ⟨w.point (k + 1), w.later_point hk, hlate (k + 1) (Nat.le_refl _)⟩

theorem reach_eq_zero_iff_isUntouched {log : Log} {mode : Sampling} {k : Nat}
    (hk : k < selection.gridLength) :
    w.reach log mode (k + 1) = 0 ↔
      log.IsUntouched mode selection.granularity (w.point k) := by
  rw [reach_eq_zero_iff]
  constructor
  · intro h t ht
    exact w.isSettled_of_not_absorbs hk (h t ht).1 (h t ht).2
  · intro h t ht
    exact w.not_absorbs_of_isSettled hk (h t ht)

/-- A column in place of a gauge shows what the gauge shows, but at the points in which no entry has
a part. There it shows zero. -/
theorem values_spread {log : Log} {mode : Sampling} {place : Nat} {kind : CounterKind} {v : UInt64}
    (hplace : log.counters[place]? = some ⟨kind, .constant v⟩) {k : Nat} {p q : GridPoint}
    (hp : (w.series log mode).points[k]? = some p)
    (hq : (w.series (log.spread place) mode).points[k]? = some q) :
    p.values[place]? = some v ∧
      (q.values ≠ p.values ↔ log.IsUntouched mode selection.granularity p.timestamp ∧ v ≠ 0) ∧
      (log.IsUntouched mode selection.granularity p.timestamp →
        q.values = p.values.set place 0) := by
  have htimes : (log.spread place).times = log.times := rfl
  obtain ⟨hk, rfl⟩ := w.getElem?_points_series hp
  obtain ⟨-, rfl⟩ := w.getElem?_points_series hq
  rw [w.reach_of_times_eq htimes, ← w.reach_eq_zero_iff_isUntouched hk]
  refine ⟨Log.getElem?_rowAfter_of_constant hplace _,
    Log.rowAfter_spread_ne_iff hplace (w.reach_le_length log mode (k + 1)), ?_⟩
  intro hzero
  simp only [hzero, Log.rowAfter_zero, Log.initialRow_spread]

end Window

theorem resample_pick (log : Log) (selection : Selection) (now : Instant) (mode : Sampling)
    (places : List Nat) : resample (log.pick places) selection now mode =
      (resample log selection now mode).map (·.pick places) := by
  cases hresult : resample log selection now mode with
  | error fault =>
    rw [resample_eq_error_iff] at hresult
    exact (resample_eq_error_iff (log.pick places) mode).mpr hresult
  | ok series =>
    obtain ⟨w, rfl⟩ := Window.exists_of_resample_eq_ok hresult
    rw [w.resample_eq, w.series_pick]
    rfl

theorem exists_chart_of_times_eq {log other : Log} (htimes : other.times = log.times)
    {selection : Selection} {now : Instant} {mode : Sampling} {style : ChartStyle} {i j : Nat}
    {c : Counter} (hi : log.counters[i]? = some c) (hj : other.counters[j]? = some c)
    {chart : Chart} (hchart :
      (resample log selection now mode >>= fun s => Chart.ofSeries s style) = .ok chart) :
    ∃ same, (resample other selection now mode >>= fun s => Chart.ofSeries s style) = .ok same ∧
      same.labels = chart.labels ∧ same.datasets[j]? = chart.datasets[i]? := by
  obtain ⟨series, hseries, hdrawn⟩ := exists_of_bind_eq_ok hchart
  obtain ⟨w, rfl⟩ := Window.exists_of_resample_eq_ok hseries
  rw [w.ofSeries_series] at hdrawn
  cases hdrawn
  refine ⟨w.chart other mode style, ?_, rfl, ?_⟩
  · rw [w.resample_eq]
    exact w.ofSeries_series other mode style
  · simp [Window.chart, hi, hj, w.line_of_times_eq htimes]

/-- Counters do not interfere. Some counters of a log show what they show in the whole log, and the
line of a counter depends on the times and on the counter alone. A gauge and a column of its one
value show the same but at the points in which no entry has a part, where the column shows zero. -/
theorem counters_do_not_interfere (log : Log) (selection : Selection) (now : Instant)
    (mode : Sampling) :
    (∀ places : List Nat, resample (log.pick places) selection now mode =
      (resample log selection now mode).map (·.pick places)) ∧
    (∀ counters : List Counter, counters ⊆ log.counters →
      ∃ places, (log.pick places).counters = counters) ∧
    (∀ (other : Log) (style : ChartStyle) (i j : Nat) (c : Counter), other.times = log.times →
      log.counters[i]? = some c → other.counters[j]? = some c → ∀ chart,
        (resample log selection now mode >>= fun s => Chart.ofSeries s style) = .ok chart →
          ∃ same, (resample other selection now mode >>= fun s => Chart.ofSeries s style) =
            .ok same ∧ same.labels = chart.labels ∧ same.datasets[j]? = chart.datasets[i]?) ∧
    ∀ (place : Nat) (kind : CounterKind) (v : UInt64),
      log.counters[place]? = some ⟨kind, .constant v⟩ →
      (log.spread place).counters =
        log.counters.set place ⟨kind, .series (List.replicate log.length v)⟩ ∧
      ∀ series, resample log selection now mode = .ok series →
        ∃ spread, resample (log.spread place) selection now mode = .ok spread ∧
          spread.timestamps = series.timestamps ∧ spread.kinds = series.kinds ∧
          spread.consumed = series.consumed ∧
          ∀ (k : Nat) (p q : GridPoint), series.points[k]? = some p →
            spread.points[k]? = some q →
            p.values[place]? = some v ∧
            (q.values ≠ p.values ↔
              log.IsUntouched mode selection.granularity p.timestamp ∧ v ≠ 0) ∧
            (log.IsUntouched mode selection.granularity p.timestamp →
              q.values = p.values.set place 0) := by
  refine ⟨resample_pick log selection now mode, fun counters => exists_pickFrom_eq, ?_, ?_⟩
  · intro other style i j c htimes hi hj chart hchart
    exact exists_chart_of_times_eq htimes hi hj hchart
  · intro place kind v hplace
    refine ⟨Log.counters_spread hplace, fun series hseries => ?_⟩
    obtain ⟨w, rfl⟩ := Window.exists_of_resample_eq_ok hseries
    have htimes : (log.spread place).times = log.times := rfl
    refine ⟨w.series (log.spread place) mode, w.resample_eq _ mode, ?_, log.kinds_spread place,
      w.reach_of_times_eq htimes mode _, fun k p q => w.values_spread hplace⟩
    rw [w.timestamps_series, w.timestamps_series]

private def earlyHours : Window ⟨.hour, .fiveHours⟩ ⟨1720166400, 0, by decide⟩ where
  start := ⟨1720148400, 0, by decide⟩
  stop := ⟨1720166400, 0, by decide⟩
  earlier_eq := Instant.earlier_eq_ok_iff.mpr (by decide)
  later_eq := Instant.later_eq_ok_iff.mpr (by decide)

private def lateLog : Log where
  times := [⟨1720157000, 0, by decide⟩, ⟨1720153000, 0, by decide⟩]
  counters := [⟨.connections, .series [4, 5]⟩, ⟨.torrents, .constant 2⟩]
  aligned := by decide

private def lateTorrents : Log where
  times := [⟨1720157000, 0, by decide⟩, ⟨1720153000, 0, by decide⟩]
  counters := [⟨.torrents, .constant 2⟩]
  aligned := by decide

theorem counters_do_not_interfere_lateLog :
    resample (lateLog.pick [1, 0, 1]) ⟨.hour, .fiveHours⟩ ⟨1720166400, 0, by decide⟩ .bucketClose =
      (resample lateLog ⟨.hour, .fiveHours⟩ ⟨1720166400, 0, by decide⟩ .bucketClose).map
        (·.pick [1, 0, 1]) ∧
    (∃ chart same,
      (resample lateLog ⟨.hour, .fiveHours⟩ ⟨1720166400, 0, by decide⟩ .bucketClose >>=
        fun s => Chart.ofSeries s .standard) = .ok chart ∧
      (resample lateTorrents ⟨.hour, .fiveHours⟩ ⟨1720166400, 0, by decide⟩ .bucketClose >>=
        fun s => Chart.ofSeries s .standard) = .ok same ∧
      same.datasets[0]? = chart.datasets[1]?) ∧
    ∃ series spread p q,
      resample lateLog ⟨.hour, .fiveHours⟩ ⟨1720166400, 0, by decide⟩ .bucketClose = .ok series ∧
      resample (lateLog.spread 1) ⟨.hour, .fiveHours⟩ ⟨1720166400, 0, by decide⟩ .bucketClose =
        .ok spread ∧
      series.points[0]? = some p ∧ spread.points[0]? = some q ∧
      lateLog.IsUntouched .bucketClose .hour p.timestamp ∧ q.values ≠ p.values ∧
      q.values = p.values.set 1 0 := by
  obtain ⟨hpick, -, hlines, hgauge⟩ := counters_do_not_interfere lateLog ⟨.hour, .fiveHours⟩
    ⟨1720166400, 0, by decide⟩ .bucketClose
  have hseries := earlyHours.resample_eq lateLog .bucketClose
  have hchart : (resample lateLog ⟨.hour, .fiveHours⟩ ⟨1720166400, 0, by decide⟩ .bucketClose >>=
      fun s => Chart.ofSeries s .standard) =
        .ok (earlyHours.chart lateLog .bucketClose .standard) := by
    rw [hseries]
    exact earlyHours.ofSeries_series lateLog .bucketClose .standard
  obtain ⟨same, hsame, -, hline⟩ :=
    hlines lateTorrents .standard 1 0 ⟨.torrents, .constant 2⟩ rfl rfl rfl _ hchart
  obtain ⟨spread, hspread, -, -, -, hpoints⟩ := (hgauge 1 .torrents 2 rfl).2 _ hseries
  have huntouched : lateLog.IsUntouched .bucketClose .hour (earlyHours.point 0) := by
    rintro t ⟨rfl⟩
    exact ⟨⟨1720152000, 0, by decide⟩, Instant.later_eq_ok_iff.mpr (by decide), by decide⟩
  have hspreadSeries : spread = earlyHours.series (lateLog.spread 1) .bucketClose :=
    Except.ok.inj (hspread.symm.trans (earlyHours.resample_eq (lateLog.spread 1) .bucketClose))
  obtain ⟨-, hdiffer, hzero⟩ := hpoints 0 _ _ rfl (by rw [hspreadSeries]; rfl)
  exact ⟨hpick [1, 0, 1], ⟨_, same, hchart, hsame, hline⟩, _, spread, _, _, hseries, hspread, rfl,
    by rw [hspreadSeries]; rfl, huntouched, hdiffer.mpr ⟨huntouched, by decide⟩, hzero huntouched⟩

end CounterBoard
