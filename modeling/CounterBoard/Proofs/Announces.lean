import CounterBoard.Proofs.Drawing
import CounterBoard.Proofs.Recording
import CounterBoard.Proofs.Resampling

/-!
The announces of a recorder on the chart. A sorted log shows at each point of a window the entries
up to an instant, and the running count there is the number of announces by then: none of them is
lost, and none is counted twice.
-/

set_option autoImplicit false
set_option relaxedAutoImplicit false

namespace CounterBoard

open CounterBoard.Time

/-- The instants that a sorted log shows at a bucket: those up to its start in points of time, and
those before its end when it closes. -/
def Sampling.shows : Sampling → Bucket → Instant → Bool
  | .pointInTime, bucket, t => t ≤ bucket.start
  | .bucketClose, bucket, t => t < bucket.stop

theorem Sampling.shows_of_le (mode : Sampling) (bucket : Bucket) {t u : Instant} (htu : t ≤ u)
    (hu : mode.shows bucket u = true) : mode.shows bucket t = true := by
  cases mode with
  | pointInTime => exact decide_eq_true (Instant.le_trans htu (of_decide_eq_true hu))
  | bucketClose => exact decide_eq_true (Instant.lt_of_le_of_lt htu (of_decide_eq_true hu))

theorem Window.reach_of_isSorted {selection : Selection} {now : Instant}
    (w : Window selection now) {log : Log} (hsorted : log.isSorted = true) (mode : Sampling)
    (k : Nat) : w.reach log mode (k + 1) = log.leading (mode.shows (w.bucket k) ·) := by
  cases mode with
  | pointInTime =>
    rw [w.reach_pointInTime]
    exact log.leading_congr fun t => decide_eq_true_iff.symm
  | bucketClose =>
    rw [w.reach_bucketClose_of_isSorted hsorted]
    exact log.leading_congr fun t => decide_eq_true_iff.symm

theorem countP_take {α : Type} {p q : α → Bool} {l : List α} {n : Nat}
    (h : ∀ i a, l[i]? = some a → (p a = true ↔ i < n)) :
    (l.take n).countP q = l.countP fun a => p a && q a := by
  induction l generalizing n with
  | nil => simp
  | cons a l ih =>
    have hhead := h 0 a rfl
    have hrest := ih (n := n - 1) fun i b hb => by
      rw [h (i + 1) b hb]
      omega
    cases n with
    | zero =>
      have hfail : p a = false := by simpa using hhead
      simpa [List.countP_cons, hfail] using hrest
    | succ n =>
      have hpass : p a = true := hhead.mpr (Nat.succ_pos n)
      simpa [List.countP_cons, hpass] using hrest

theorem after_tally (kind : CounterKind) (counts : Announce → Bool) {announces : List Announce}
    {entries : Nat} (h : entries ≤ announces.length) :
    Counter.after ⟨kind, .series (tally counts announces)⟩ entries =
      .ofNat ((announces.take entries).countP counts) := by
  cases entries with
  | zero => rfl
  | succ place =>
    change ((tally counts announces)[place]?).getD 0 = _
    rw [getElem?_tally counts h]
    rfl

theorem toNat_after_tally (kind : CounterKind) (counts : Announce → Bool)
    {announces : List Announce} (hcount : announces.length < UInt64.size) {entries : Nat}
    (h : entries ≤ announces.length) :
    (Counter.after ⟨kind, .series (tally counts announces)⟩ entries).toNat =
      (announces.take entries).countP counts := by
  have hroom : (announces.take entries).countP counts < UInt64.size := by
    have hle := List.countP_le_length (p := counts) (l := announces.take entries)
    rw [List.length_take] at hle
    omega
  rw [after_tally kind counts h, UInt64.toNat_ofNat_of_lt' hroom]

theorem Window.toNat_line_tally {selection : Selection} {now : Instant}
    (w : Window selection now) {log : Log} {announces : List Announce}
    (hsorted : log.isSorted = true) (htimes : log.times = noted announces)
    (hcount : announces.length < UInt64.size) (mode : Sampling) (kind : CounterKind)
    (counts : Announce → Bool) :
    (w.line log mode ⟨kind, .series (tally counts announces)⟩).map UInt64.toNat =
      w.buckets.map fun bucket =>
        announces.countP fun a => mode.shows bucket a.instant.wholeSecond && counts a := by
  rw [line, buckets, List.map_map, List.map_map]
  refine List.map_congr_left fun k _ => ?_
  have hlength : log.length = announces.length := by
    rw [Log.length, htimes, noted, List.length_map]
  have hentries : w.reach log mode (k + 1) ≤ announces.length := by
    rw [w.reach_of_isSorted hsorted, ← hlength]
    exact log.leading_le_length _
  -- Announces and entries have the same places, so those that the bucket shows lead both lists.
  have hfront : ∀ i a, announces[i]? = some a →
      (mode.shows (w.bucket k) a.instant.wholeSecond = true ↔ i < w.reach log mode (k + 1)) := by
    intro i a ha
    have htime : log.times[i]? = some a.instant.wholeSecond := by
      rw [htimes, noted, List.getElem?_map, ha]
      rfl
    rw [w.reach_of_isSorted hsorted]
    exact Log.passes_iff_lt_leading hsorted (fun _ _ => mode.shows_of_le (w.bucket k)) htime
  change (Counter.after _ (w.reach log mode (k + 1))).toNat = announces.countP fun a =>
    mode.shows (w.bucket k) a.instant.wholeSecond && counts a
  rw [toNat_after_tally kind counts hcount hentries, countP_take hfront]

/-- The chart counts announces. Whatever announces come to a fresh recorder in order, none of them
while its clocks show the summer side of the repeated hour, its snapshot makes a sorted log, and
at each point the chart of that log shows how many had come by then, how many of these had
completed, and the number of torrents. -/
theorem chart_counts_announces (torrents : UInt64) {zone : Zone} (hzone : zone ∈ Zone.servers)
    (announces : List Announce) (hcount : announces.length < UInt64.size)
    (hordered : announces.Pairwise fun a b => a.instant ≤ b.instant)
    (hyear : ∀ a ∈ announces, yearInRange (a.instant.localClock zone).date.year = true)
    (honce : ∀ a ∈ announces, ¬ zone.ShowsAgain a.instant.seconds) :
    ∃ snapshot log, (Snapshot.fresh torrents).recordAll zone announces = .ok snapshot ∧
      snapshot.toLog zone = .ok log ∧ log.isSorted = true ∧
      ∀ (selection : Selection) (now : Instant) (w : Window selection now) (mode : Sampling)
        (style : ChartStyle), ∃ series connections completed,
        resample log selection now mode = .ok series ∧
        Chart.ofSeries series style = .ok ⟨w.points,
          [style.dataset .connections connections, style.dataset .completed completed,
            style.dataset .torrents (w.points.map fun _ => torrents)]⟩ ∧
        connections.map UInt64.toNat = w.buckets.map (fun bucket =>
          announces.countP fun a => mode.shows bucket a.instant.wholeSecond) ∧
        completed.map UInt64.toNat = w.buckets.map (fun bucket =>
          announces.countP fun a => mode.shows bucket a.instant.wholeSecond && a.isCompleted) := by
  let log := announceLog torrents zone announces
  have hsorted : log.isSorted = true := isSorted_announceLog torrents zone hordered
  refine ⟨_, log, Snapshot.recordAll_fresh torrents zone announces hcount,
    Snapshot.toLog_counting torrents hzone hyear honce, hsorted, ?_⟩
  intro selection now w mode style
  have hlines := w.toNat_line_tally hsorted rfl hcount mode
  have hgauge : w.line log mode ⟨.torrents, .constant torrents⟩ =
      w.points.map fun _ => torrents := by
    rw [Window.line, Window.points, List.map_map]
    refine List.map_congr_left fun k _ => ?_
    change Counter.after _ (w.reach log mode (k + 1)) = torrents
    cases w.reach log mode (k + 1) <;> rfl
  refine ⟨w.series log mode,
    w.line log mode ⟨.connections, .series (tally (fun _ => true) announces)⟩,
    w.line log mode ⟨.completed, .series (tally Announce.isCompleted announces)⟩,
    w.resample_eq log mode, ?_, ?_, hlines .completed Announce.isCompleted⟩
  · rw [w.ofSeries_series, ← hgauge]
    rfl
  · simpa using hlines .connections fun _ => true

/-- An announce in a leap second, one in the next second, and one on either side of the hour that
the wall clocks of New York show for the first time. -/
private def autumnAnnounces : List Announce :=
  [⟨⟨1435708799, 1250000000, by decide⟩, true⟩, ⟨⟨1435708800, 0, by decide⟩, false⟩,
    ⟨⟨1509857999, 999999999, by decide⟩, true⟩, ⟨⟨1509861600, 0, by decide⟩, true⟩]

private def autumnWindow : Window .standard ⟨1509861660, 0, by decide⟩ where
  start := ⟨1509858060, 0, by decide⟩
  stop := ⟨1509861660, 0, by decide⟩
  earlier_eq := Instant.earlier_eq_ok_iff.mpr (by decide)
  later_eq := Instant.later_eq_ok_iff.mpr (by decide)

theorem chart_counts_autumnAnnounces :
    Zone.newYork ∈ Zone.servers ∧ autumnAnnounces.length < UInt64.size ∧
      autumnAnnounces.Pairwise (fun a b => a.instant ≤ b.instant) ∧
      (∀ a ∈ autumnAnnounces, yearInRange (a.instant.localClock .newYork).date.year = true) ∧
      (∀ a ∈ autumnAnnounces, ¬ Zone.newYork.ShowsAgain a.instant.seconds) ∧
      ∃ snapshot log series connections completed chart,
        (Snapshot.fresh 7).recordAll .newYork autumnAnnounces = .ok snapshot ∧
        snapshot.toLog .newYork = .ok log ∧
        resample log .standard ⟨1509861660, 0, by decide⟩ .bucketClose = .ok series ∧
        Chart.ofSeries series .standard = .ok chart ∧
        chart.datasets = [ChartStyle.standard.dataset .connections connections,
          ChartStyle.standard.dataset .completed completed,
          ChartStyle.standard.dataset .torrents [7]] ∧
        connections.map UInt64.toNat = [4] ∧ completed.map UInt64.toNat = [3] := by
  have hzone : Zone.newYork ∈ Zone.servers := by decide
  have hcount : autumnAnnounces.length < UInt64.size := by decide
  have hordered : autumnAnnounces.Pairwise fun a b => a.instant ≤ b.instant := by decide
  have hyear : ∀ a ∈ autumnAnnounces,
      yearInRange (a.instant.localClock .newYork).date.year = true := by decide
  have honce : ∀ a ∈ autumnAnnounces, ¬ Zone.newYork.ShowsAgain a.instant.seconds := by decide
  obtain ⟨snapshot, log, hsnapshot, hlog, -, hcharts⟩ :=
    chart_counts_announces 7 hzone autumnAnnounces hcount hordered hyear honce
  obtain ⟨series, connections, completed, hseries, hchart, hconnections, hcompleted⟩ :=
    hcharts .standard _ autumnWindow .bucketClose .standard
  exact ⟨hzone, hcount, hordered, hyear, honce, snapshot, log, series, connections, completed, _,
    hsnapshot, hlog, hseries, hchart, rfl, hconnections, hcompleted⟩

end CounterBoard
