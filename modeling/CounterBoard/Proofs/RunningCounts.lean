import CounterBoard.Proofs.Announces
import CounterBoard.Proofs.Appending
import CounterBoard.Proofs.FirstFault

/-!
Lines that never fall. Whatever the order of its entries, a log is passed through once, so the
points of a series show rows of the log at places that only go up. The columns that a recorder keeps
are running counts in the order in which announces came to it, and so they climb along the grid even
where its clock was set back.
-/

set_option autoImplicit false
set_option relaxedAutoImplicit false

namespace CounterBoard

open CounterBoard.Time

/-- Two lines over one axis, of which the second counts some of what the first counts. -/
structure CountsSome (total part : List Nat) : Prop where
  length_eq : part.length = total.length
  total_climbs : total.Pairwise (· ≤ ·)
  part_climbs : part.Pairwise (· ≤ ·)
  part_le_total : ∀ p ∈ total.zip part, p.2 ≤ p.1
  gain_le_gain : (total.zip part).Pairwise fun p q => q.2 - p.2 ≤ q.1 - p.1

theorem countP_take_le {α : Type} (p : α → Bool) (l : List α) {m n : Nat} (h : m ≤ n) :
    (l.take m).countP p ≤ (l.take n).countP p :=
  (List.take_sublist_take_left h).countP_le

theorem countP_take_sub_le {α : Type} (p : α → Bool) (l : List α) {m n : Nat} (h : m ≤ n) :
    (l.take n).countP p - (l.take m).countP p ≤ (l.take n).length - (l.take m).length := by
  have hsplit : l.take n = l.take m ++ (l.drop m).take (n - m) := by
    rw [← List.take_add, Nat.add_sub_cancel' h]
  have hgain := List.countP_le_length (p := p) (l := (l.drop m).take (n - m))
  rw [hsplit, List.countP_append, List.length_append]
  omega

theorem countsSome_of_places {α : Type} (p : α → Bool) (l : List α) {places : List Nat}
    (hplaces : places.Pairwise (· ≤ ·)) :
    CountsSome (places.map fun n => (l.take n).length)
      (places.map fun n => (l.take n).countP p) := by
  have hzip : (places.map fun n => (l.take n).length).zip
      (places.map fun n => (l.take n).countP p) =
        places.map fun n => ((l.take n).length, (l.take n).countP p) :=
    List.zip_map'
  constructor
  · simp
  · rw [List.pairwise_map]
    exact hplaces.imp fun h => (List.take_sublist_take_left h).length_le
  · rw [List.pairwise_map]
    exact hplaces.imp fun h => countP_take_le p l h
  · intro q hq
    rw [hzip] at hq
    obtain ⟨n, -, rfl⟩ := List.mem_map.mp hq
    exact List.countP_le_length
  · rw [hzip, List.pairwise_map]
    exact hplaces.imp fun h => countP_take_sub_le p l h

namespace Window

variable {selection : Selection} {now : Instant} (w : Window selection now)

def places (log : Log) (mode : Sampling) : List Nat :=
  (List.range selection.gridLength).map fun k => w.reach log mode (k + 1)

theorem pairwise_places (log : Log) (mode : Sampling) :
    (w.places log mode).Pairwise (· ≤ ·) := by
  rw [places, List.pairwise_map]
  refine List.pairwise_lt_range.imp ?_
  intro j k hjk
  exact w.reach_le_reach log mode (Nat.succ_le_succ (Nat.le_of_lt hjk))

theorem le_length_of_mem_places {log : Log} {mode : Sampling} {n : Nat}
    (h : n ∈ w.places log mode) : n ≤ log.length := by
  obtain ⟨k, -, rfl⟩ := List.mem_map.mp h
  exact w.reach_le_length log mode (k + 1)

theorem values_series (log : Log) (mode : Sampling) :
    (w.series log mode).points.map GridPoint.values = (w.places log mode).map log.rowAfter := by
  simp [series, places]

theorem line_eq_map_places (log : Log) (mode : Sampling) (c : Counter) :
    w.line log mode c = (w.places log mode).map c.after := by
  simp [line, places]

theorem toNat_line_of_counts {log : Log} {announces : List Announce}
    (hlength : log.length = announces.length) (hcount : announces.length < UInt64.size)
    (mode : Sampling) (kind : CounterKind) (counts : Announce → Bool) :
    (w.line log mode ⟨kind, .series (tally counts announces)⟩).map UInt64.toNat =
      (w.places log mode).map fun n => (announces.take n).countP counts := by
  rw [line_eq_map_places, List.map_map]
  refine List.map_congr_left fun n hn => ?_
  have hentries : n ≤ announces.length := hlength ▸ w.le_length_of_mem_places hn
  rw [Function.comp_apply, toNat_after_tally kind counts hcount hentries]

theorem countsSome_lines {log : Log} {announces : List Announce}
    (hlength : log.length = announces.length) (hcount : announces.length < UInt64.size)
    (mode : Sampling) :
    CountsSome
      ((w.line log mode ⟨.connections, .series (tally (fun _ => true) announces)⟩).map
        UInt64.toNat)
      ((w.line log mode ⟨.completed, .series (tally Announce.isCompleted announces)⟩).map
        UInt64.toNat) := by
  rw [w.toNat_line_of_counts hlength hcount, w.toNat_line_of_counts hlength hcount]
  simp only [List.countP_true]
  exact countsSome_of_places Announce.isCompleted announces (w.pairwise_places log mode)

end Window

theorem Snapshot.exists_toLog_counting (torrents : UInt64) {zone : Zone}
    (hzone : zone ∈ Zone.servers) {announces : List Announce}
    (hyear : ∀ a ∈ announces, yearInRange (a.instant.localClock zone).date.year = true) :
    ∃ log, (counting torrents zone announces).toLog zone = .ok log ∧
      log.length = announces.length ∧
      log.counters = (counting torrents zone announces).counters := by
  have hread : ∀ text ∈ (counting torrents zone announces).times, (parse? zone text).isSome := by
    intro text htext
    obtain ⟨a, ha, rfl⟩ := List.mem_map.mp htext
    obtain ⟨u, hparse, -⟩ :=
      exists_parse?_localText (Zone.isRegular_of_mem_servers hzone) (hyear a ha)
    rw [hparse]
    rfl
  obtain ⟨times, hparse, htimes⟩ := exists_parseTimes hread 0
  have hlength : times.length = announces.length := by
    simpa [counting] using congrArg List.length htimes
  have hfits : ∀ c ∈ (counting torrents zone announces).counters, c.Fits times.length := by
    have hnoted := fits_counting torrents zone announces
    rwa [noted, List.length_map, ← hlength] at hnoted
  refine ⟨⟨times, _, hfits⟩, ?_, hlength, rfl⟩
  rw [toLog, hparse]
  exact Log.ofColumns_eq_ok hfits

/-- Recorded counts never fall. In a series of any log each point shows the initial row or the row
of one entry, and the entries shown do not go back. So whatever announces come to a fresh recorder,
in whatever order of time, its snapshot makes a log, and on every chart of it the connections and
the completed ones climb, with never more completed ones than connections, and never more of
them gained between two labels. -/
theorem recorded_counts_never_fall :
    (∀ (log : Log) (selection : Selection) (now : Instant), Window selection now →
      ∀ mode : Sampling, ∃ (series : Series) (places : List Nat),
        resample log selection now mode = .ok series ∧
        series.points.map GridPoint.values = places.map log.rowAfter ∧
        places.Pairwise (· ≤ ·) ∧ (∀ n ∈ places, n ≤ log.length) ∧
        log.rowAfter 0 = log.counters.map Counter.initial ∧
        ∀ place < log.length,
          (log.rowAfter (place + 1)).map some = log.counters.map fun c => c.valueAt place) ∧
    ∀ (torrents : UInt64) (zone : Zone), zone ∈ Zone.servers → ∀ announces : List Announce,
      announces.length < UInt64.size →
      (∀ a ∈ announces, yearInRange (a.instant.localClock zone).date.year = true) →
      ∃ snapshot log, (Snapshot.fresh torrents).recordAll zone announces = .ok snapshot ∧
        snapshot.toLog zone = .ok log ∧
        ∀ (selection : Selection) (now : Instant) (w : Window selection now) (mode : Sampling)
          (style : ChartStyle), ∃ series connections completed gauge,
          resample log selection now mode = .ok series ∧
          Chart.ofSeries series style = .ok ⟨w.points, [style.dataset .connections connections,
            style.dataset .completed completed, style.dataset .torrents gauge]⟩ ∧
          connections.length = selection.gridLength ∧
          CountsSome (connections.map UInt64.toNat) (completed.map UInt64.toNat) := by
  constructor
  · intro log selection now w mode
    refine ⟨_, _, w.resample_eq log mode, w.values_series log mode, w.pairwise_places log mode, ?_,
      rfl, ?_⟩
    · intro n hn
      exact w.le_length_of_mem_places hn
    · intro place hplace
      exact Log.map_some_rowAfter hplace
  · intro torrents zone hzone announces hcount hyear
    obtain ⟨log, hlog, hlength, hcounters⟩ :=
      Snapshot.exists_toLog_counting torrents hzone hyear
    refine ⟨_, log, Snapshot.recordAll_fresh torrents zone announces hcount, hlog, ?_⟩
    intro selection now w mode style
    refine ⟨_, _, _, w.line log mode ⟨.torrents, .constant torrents⟩, w.resample_eq log mode, ?_,
      ?_, w.countsSome_lines hlength hcount mode⟩
    · rw [w.ofSeries_series, Window.chart, hcounters]
      rfl
    · simp [Window.line]

/-- Two announces in the hour that the wall clocks of New York show twice, the one of summer first,
and then one after the clock was set back, to the leap second of the year before. -/
private def setBackAnnounces : List Announce :=
  [⟨⟨1509859800, 0, by decide⟩, false⟩, ⟨⟨1509860100, 500000000, by decide⟩, true⟩,
    ⟨⟨1483228799, 1250000000, by decide⟩, true⟩, ⟨⟨1509863000, 0, by decide⟩, false⟩]

private def setBackWindow : Window ⟨.minute, .oneHour⟩ ⟨1509865320, 0, by decide⟩ where
  start := ⟨1509861720, 0, by decide⟩
  stop := ⟨1509865320, 0, by decide⟩
  earlier_eq := Instant.earlier_eq_ok_iff.mpr (by decide)
  later_eq := Instant.later_eq_ok_iff.mpr (by decide)

theorem recorded_counts_never_fall_setBack :
    Zone.newYork ∈ Zone.servers ∧ setBackAnnounces.length < UInt64.size ∧
      ¬ setBackAnnounces.Pairwise (fun a b => a.instant ≤ b.instant) ∧
      (∀ a ∈ setBackAnnounces, yearInRange (a.instant.localClock .newYork).date.year = true) ∧
      ∃ snapshot log series connections completed gauge,
        (Snapshot.fresh 7).recordAll .newYork setBackAnnounces = .ok snapshot ∧
        snapshot.toLog .newYork = .ok log ∧
        resample log ⟨.minute, .oneHour⟩ ⟨1509865320, 0, by decide⟩ .bucketClose = .ok series ∧
        Chart.ofSeries series .standard = .ok ⟨setBackWindow.points,
          [ChartStyle.standard.dataset .connections connections,
            ChartStyle.standard.dataset .completed completed,
            ChartStyle.standard.dataset .torrents gauge]⟩ ∧
        connections.length = 60 ∧
        CountsSome (connections.map UInt64.toNat) (completed.map UInt64.toNat) := by
  have hzone : Zone.newYork ∈ Zone.servers := by decide
  have hcount : setBackAnnounces.length < UInt64.size := by decide
  have hyear : ∀ a ∈ setBackAnnounces,
      yearInRange (a.instant.localClock .newYork).date.year = true := by decide
  obtain ⟨snapshot, log, hsnapshot, hlog, hcharts⟩ :=
    recorded_counts_never_fall.2 7 _ hzone setBackAnnounces hcount hyear
  obtain ⟨series, connections, completed, gauge, hseries, hchart, hlength, hcounts⟩ :=
    hcharts _ _ setBackWindow .bucketClose .standard
  exact ⟨hzone, hcount, by decide, hyear, snapshot, log, series, connections, completed, gauge,
    hsnapshot, hlog, hseries, hchart, hlength, hcounts⟩

end CounterBoard
