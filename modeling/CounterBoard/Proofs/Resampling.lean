import CounterBoard.Proofs.Carrying

/-!
What resampling means, in both ways of sampling and whether or not the log is sorted. In points of
time, the pass of the cursor agrees with the longest prefix of the log up to each point. In buckets,
an entry that lies in no bucket ahead stops the cursor for good, so a point shows the end of
the longest run of entries that climbs through the buckets.
-/

set_option autoImplicit false
set_option relaxedAutoImplicit false

namespace CounterBoard

open CounterBoard.Time

private theorem takeWhile_eq_of_forall_mem {α : Type} {p q : α → Bool} {l : List α}
    (h : ∀ a ∈ l, p a = q a) : l.takeWhile p = l.takeWhile q := by
  induction l with
  | nil => rfl
  | cons a l ih =>
    rw [List.takeWhile_cons, List.takeWhile_cons, h a List.mem_cons_self,
      ih fun b hb => h b (List.mem_cons_of_mem a hb)]

theorem Log.leading_add_takeWhile (log : Log) {narrow wide : Instant → Prop}
    [DecidablePred narrow] [DecidablePred wide] (h : ∀ t, narrow t → wide t) :
    log.leading narrow + ((log.times.drop (log.leading narrow)).takeWhile wide).length =
      log.leading wide := by
  have hsplit : log.times.takeWhile narrow ++ log.times.dropWhile narrow = log.times :=
    List.takeWhile_append_dropWhile
  have hwide : ∀ t ∈ log.times.takeWhile narrow, decide (wide t) = true :=
    fun t ht => decide_eq_true (h t (by simpa using List.mem_takeWhile_imp ht))
  have hdrop : log.times.drop (log.times.takeWhile narrow).length =
      log.times.dropWhile narrow := by
    have hleft : (log.times.takeWhile narrow ++ log.times.dropWhile narrow).drop
        (log.times.takeWhile narrow).length = log.times.dropWhile narrow := List.drop_left
    rwa [hsplit] at hleft
  rw [leading_eq_length_takeWhile, leading_eq_length_takeWhile, hdrop]
  conv => rhs; rw [← hsplit, List.takeWhile_append_of_pos hwide]
  rw [List.length_append]

namespace Window

variable {selection : Selection} {now : Instant} (w : Window selection now)

theorem reach_pointInTime (log : Log) (k : Nat) :
    w.reach log .pointInTime (k + 1) = log.leading (· ≤ w.point k) := by
  induction k with
  | zero =>
    have hwide : ∀ t, t < w.start → t ≤ w.point 0 := by
      intro t ht
      rw [w.point_zero]
      exact Instant.le_of_lt ht
    exact log.leading_add_takeWhile hwide
  | succ k ih =>
    have hwide : ∀ t, t ≤ w.point k → t ≤ w.point (k + 1) :=
      fun t ht => Instant.le_trans ht (w.point_le_point (Nat.le_succ k))
    rw [reach, ih]
    exact log.leading_add_takeWhile hwide

/-- Instants that climb through the buckets before the `k`-th point: each of them lies in one of
these buckets, and none in an earlier bucket than the one in front of it. -/
def Climbs (k : Nat) (times : List Instant) : Prop :=
  (∀ t ∈ times, ∃ place ∈ w.place? t, place < k) ∧ (times.filterMap w.place?).Pairwise (· ≤ ·)

instance (k : Nat) : DecidablePred (w.Climbs k) := fun times =>
  inferInstanceAs (Decidable ((∀ t ∈ times, ∃ place ∈ w.place? t, place < k) ∧
    (times.filterMap w.place?).Pairwise (· ≤ ·)))

theorem climbs_nil (k : Nat) : w.Climbs k [] := by
  simp [Climbs]

theorem Climbs.sublist {w : Window selection now} {k : Nat} {times fewer : List Instant}
    (h : w.Climbs k times) (hsub : fewer.Sublist times) : w.Climbs k fewer :=
  ⟨fun t ht => h.1 t (hsub.subset ht), h.2.sublist (hsub.filterMap _)⟩

theorem Climbs.append {w : Window selection now} {k : Nat} {times next : List Instant}
    (h : w.Climbs k times) (hnext : ∀ t ∈ next, w.place? t = some k) :
    w.Climbs (k + 1) (times ++ next) := by
  have hplaces : ∀ j ∈ next.filterMap w.place?, j = k := by
    intro j hj
    obtain ⟨t, ht, hplace⟩ := List.mem_filterMap.mp hj
    rw [hnext t ht] at hplace
    exact (Option.some.inj hplace).symm
  constructor
  · intro t ht
    rcases List.mem_append.mp ht with ht | ht
    · obtain ⟨place, hplace, hlt⟩ := h.1 t ht
      exact ⟨place, hplace, Nat.lt_succ_of_lt hlt⟩
    · exact ⟨k, hnext t ht, Nat.lt_succ_self k⟩
  · rw [List.filterMap_append, List.pairwise_append]
    refine ⟨h.2, ?_, ?_⟩
    · apply List.pairwise_of_forall_mem_list
      intro i hi j hj
      rw [hplaces i hi, hplaces j hj]
    · intro i hi j hj
      obtain ⟨t, ht, hplace⟩ := List.mem_filterMap.mp hi
      obtain ⟨place, hmem, hlt⟩ := h.1 t ht
      rw [hplace] at hmem
      cases hmem
      rw [hplaces j hj]
      exact Nat.le_of_lt hlt

theorem Climbs.of_append_singleton {w : Window selection now} {k : Nat} {times : List Instant}
    {t : Instant} (h : w.Climbs (k + 1) (times ++ [t])) (hlast : w.place? t ≠ some k) :
    w.Climbs k (times ++ [t]) := by
  obtain ⟨last, hplace, hlt⟩ := h.1 t (by simp)
  have hbelow : last < k := by
    have hne : last ≠ k := by
      rintro rfl
      exact hlast hplace
    omega
  refine ⟨?_, h.2⟩
  intro s hs
  obtain ⟨place, hmem, -⟩ := h.1 s hs
  refine ⟨place, hmem, Nat.lt_of_le_of_lt ?_ hbelow⟩
  rcases List.mem_append.mp hs with hs | hs
  · have hpairwise := h.2
    rw [List.filterMap_append, List.pairwise_append] at hpairwise
    apply hpairwise.2.2 place (List.mem_filterMap.mpr ⟨s, hs, hmem⟩)
    exact List.mem_filterMap.mpr ⟨t, by simp, hplace⟩
  · obtain rfl := List.mem_singleton.mp hs
    rw [hplace] at hmem
    cases hmem
    exact Nat.le_refl _

/-- The longest climb before a point is followed by the entries in the bucket of that point. -/
theorem longestPrefix_climbs_succ (k : Nat) (times : List Instant) :
    longestPrefix (w.Climbs (k + 1)) times = longestPrefix (w.Climbs k) times +
      ((times.drop (longestPrefix (w.Climbs k) times)).takeWhile
        fun t => w.place? t = some k).length := by
  generalize hcount : longestPrefix (w.Climbs k) times = count
  generalize hrun : ((times.drop count).takeWhile fun t => w.place? t = some k) = run
  have hle : count ≤ times.length := hcount ▸ longestPrefix_le_length _ _
  have hclimb : w.Climbs k (times.take count) := hcount ▸ take_longestPrefix (w.climbs_nil k)
  have hsplit : run ++ ((times.drop count).dropWhile fun t => w.place? t = some k) =
      times.drop count := by
    rw [← hrun]
    exact List.takeWhile_append_dropWhile
  have htake : ∀ n, times.take (count + n) = times.take count ++ (times.drop count).take n :=
    fun n => List.take_add
  have hnext : ∀ t ∈ run, w.place? t = some k := by
    intro t ht
    rw [← hrun] at ht
    simpa using List.mem_takeWhile_imp ht
  have hlength : count + (times.drop count).length = times.length := by
    rw [List.length_drop]
    omega
  apply longestPrefix_eq
  · rw [← hlength, ← hsplit, List.length_append]
    omega
  · rw [htake, ← hsplit, List.take_left]
    exact hclimb.append hnext
  · exact fun m h => h.sublist (List.take_sublist_take_left (Nat.le_succ m))
  · intro hlt hlong
    cases hrest : (times.drop count).dropWhile fun t => w.place? t = some k with
    | nil =>
      rw [hrest, List.append_nil] at hsplit
      rw [← hlength, ← hsplit] at hlt
      exact Nat.lt_irrefl _ hlt
    | cons t rest =>
      have hstop : w.place? t ≠ some k :=
        not_of_dropWhile_eq_cons (p := fun t => w.place? t = some k) hrest
      have hend : times.take (count + run.length + 1) = (times.take count ++ run) ++ [t] := by
        rw [Nat.add_assoc, htake, ← hsplit, hrest, List.take_length_add_append, List.append_assoc]
        rfl
      -- The entry after the run lies in an earlier bucket, so the whole prefix would be a climb
      -- before the point already, and a longer one than the longest.
      rw [hend] at hlong
      have hclimbs := hlong.of_append_singleton hstop
      rw [← hend] at hclimbs
      exact not_take_of_longestPrefix_lt (by omega) hlt hclimbs

/-- How far a cursor comes by the `k`-th point when it closes buckets: through the entries before
the window, and then through the longest climb before the point. -/
def closed (log : Log) (k : Nat) : Nat :=
  log.leading (· < w.start) +
    longestPrefix (w.Climbs k) (log.times.drop (log.leading (· < w.start)))

theorem absorbs_bucket {k : Nat} (hk : k < selection.gridLength) :
    Sampling.bucketClose.absorbs (w.bucket k) = fun t => decide (w.place? t = some k) := by
  funext t
  change (decide (w.point k ≤ t) && decide (t < w.point (k + 1))) = _
  rw [Bool.eq_iff_iff, Bool.and_eq_true, decide_eq_true_eq, decide_eq_true_eq, decide_eq_true_eq,
    w.place?_eq_some_iff]
  exact ⟨fun h => ⟨hk, h⟩, fun h => h.2⟩

theorem reach_bucketClose (log : Log) {k : Nat} (hk : k ≤ selection.gridLength) :
    w.reach log .bucketClose k = w.closed log k := by
  induction k with
  | zero =>
    have hnone : longestPrefix (w.Climbs 0) (log.times.drop (log.leading (· < w.start))) = 0 := by
      apply longestPrefix_eq (Nat.zero_le _) (w.climbs_nil 0)
      · exact fun m h => h.sublist (List.take_sublist_take_left (Nat.le_succ m))
      · intro hlt hclimb
        obtain ⟨place, -, hplace⟩ := hclimb.1 _
          (List.mem_take_iff_getElem.mpr ⟨0, Nat.lt_min.mpr ⟨Nat.one_pos, hlt⟩, rfl⟩)
        exact Nat.not_lt_zero _ hplace
    rw [reach, closed, hnone, Nat.add_zero]
  | succ k ih =>
    rw [reach, ih (Nat.le_of_succ_le hk), w.absorbs_bucket hk, closed, closed,
      w.longestPrefix_climbs_succ, List.drop_drop, Nat.add_assoc]

theorem reach_bucketClose_of_isSorted {log : Log} (hsorted : log.isSorted = true) (k : Nat) :
    w.reach log .bucketClose k = log.leading (· < w.point k) := by
  induction k with
  | zero => simp [reach]
  | succ k ih =>
    have hwide : ∀ t, t < w.point k → t < w.point (k + 1) :=
      fun t ht => Instant.lt_of_lt_of_le ht (w.point_le_point (Nat.le_succ k))
    have hopen : ∀ t ∈ log.times.drop (log.leading (· < w.point k)), w.point k ≤ t := by
      intro t ht
      obtain ⟨i, hi, rfl⟩ := List.mem_drop_iff_getElem.mp ht
      by_contra hearly
      have hlt := (Log.passes_iff_lt_leading hsorted
        (fun _ _ => Instant.lt_of_le_of_lt) (List.getElem?_eq_getElem _)).mp
          (Instant.not_le.mp hearly)
      omega
    have htest : ∀ t ∈ log.times.drop (log.leading (· < w.point k)),
        Sampling.bucketClose.absorbs (w.bucket k) t = decide (t < w.point (k + 1)) := by
      intro t ht
      change (decide (w.point k ≤ t) && decide (t < w.point (k + 1))) = _
      rw [decide_eq_true (hopen t ht), Bool.true_and]
    rw [reach, ih, takeWhile_eq_of_forall_mem htest, log.leading_add_takeWhile hwide]

/-- Resampling in points of time shows at each point the end of the longest prefix of the log that
has come by then, and in a sorted log that is the latest entry that a scan of the whole log
finds. -/
theorem resample_pointInTime (log : Log) :
    ∃ series, resample log selection now .pointInTime = .ok series ∧
      series.points = w.points.map (fun g => ⟨g, log.rowAfter (log.leading (· ≤ g))⟩) ∧
      series.consumed = log.leading (· ≤ w.point (selection.gridLength - 1)) ∧
      (∀ place < log.length,
        (log.rowAfter (place + 1)).map some = log.counters.map fun c => c.valueAt place) ∧
      (log.isSorted = true → ∀ p ∈ series.points,
        log.IsLatest (· ≤ p.timestamp) p.values ∧ p.values = log.scan (· ≤ p.timestamp)) := by
  have hpoints : (w.series log .pointInTime).points =
      w.points.map fun g => ⟨g, log.rowAfter (log.leading (· ≤ g))⟩ := by
    simp only [series, points, List.map_map]
    refine List.map_congr_left fun k _ => ?_
    rw [w.reach_pointInTime]
    rfl
  refine ⟨w.series log .pointInTime, w.resample_eq log .pointInTime, hpoints, ?_, ?_, ?_⟩
  · have hlast : selection.gridLength = selection.gridLength - 1 + 1 :=
      (Nat.sub_add_cancel selection.gridLength_pos).symm
    change w.reach log .pointInTime selection.gridLength = _
    rw [hlast, w.reach_pointInTime, Nat.add_sub_cancel]
  · exact fun place hplace => Log.map_some_rowAfter hplace
  · intro hsorted p hp
    rw [hpoints] at hp
    obtain ⟨g, -, rfl⟩ := List.mem_map.mp hp
    have hdown : ∀ t u, t ≤ u → u ≤ g → t ≤ g := fun _ _ => Instant.le_trans
    exact ⟨Log.isLatest_rowAfter_leading hsorted hdown,
      (Log.scan_eq_rowAfter_leading hsorted hdown).symm⟩

private def leapWindow : Window .standard ⟨1483228799, 1500000000, by decide⟩ where
  start := ⟨1483225200, 500000000, by decide⟩
  stop := ⟨1483228800, 500000000, by decide⟩
  earlier_eq := Instant.earlier_eq_ok_iff.mpr (by decide)
  later_eq := Instant.later_eq_ok_iff.mpr (by decide)

private def leapLog : Log where
  times := [⟨1483225200, 500000000, by decide⟩, ⟨1483225200, 500000000, by decide⟩,
    ⟨1483228799, 1000000000, by decide⟩]
  counters := [⟨.connections, .series [4, 5, 6]⟩, ⟨.torrents, .constant 2⟩]
  aligned := by decide

theorem resample_pointInTime_leapLog :
    1 < leapLog.length ∧ leapLog.isSorted = true ∧
      ∃ series, resample leapLog .standard ⟨1483228799, 1500000000, by decide⟩ .pointInTime =
          .ok series ∧
        (leapLog.rowAfter 2).map some = leapLog.counters.map (fun c => c.valueAt 1) ∧
        ∀ p ∈ series.points, leapLog.IsLatest (· ≤ p.timestamp) p.values ∧
          p.values = leapLog.scan (· ≤ p.timestamp) := by
  have hlength : 1 < leapLog.length := by decide
  have hsorted : leapLog.isSorted = true := by decide
  obtain ⟨series, hseries, -, -, hrows, hlatest⟩ := leapWindow.resample_pointInTime leapLog
  exact ⟨hlength, hsorted, series, hseries, hrows 1 hlength, hlatest hsorted⟩

/-- Resampling in buckets shows at each point the end of the longest climb through the buckets up
to its own, and in a sorted log that is the latest entry before the end of the bucket. -/
theorem resample_bucketClose (log : Log) :
    ∃ series, resample log selection now .bucketClose = .ok series ∧
      series.points = (List.range selection.gridLength).map
        (fun k => ⟨w.point k, log.rowAfter (w.closed log (k + 1))⟩) ∧
      series.consumed = w.closed log selection.gridLength ∧
      (log.isSorted = true → ∀ k p, series.points[k]? = some p →
        log.IsLatest (· < w.point (k + 1)) p.values ∧
          p.values = log.scan (· < w.point (k + 1))) := by
  have hpoints : (w.series log .bucketClose).points = (List.range selection.gridLength).map
      fun k => ⟨w.point k, log.rowAfter (w.closed log (k + 1))⟩ := by
    refine List.map_congr_left fun k hk => ?_
    rw [w.reach_bucketClose log (List.mem_range.mp hk)]
  refine ⟨w.series log .bucketClose, w.resample_eq log .bucketClose, hpoints, ?_, ?_⟩
  · exact w.reach_bucketClose log (Nat.le_refl _)
  · intro hsorted k p hp
    have hvalues : p.values = log.rowAfter (log.leading (· < w.point (k + 1))) := by
      obtain ⟨j, hj, rfl⟩ := Option.map_eq_some_iff.mp ((List.getElem?_map ..).symm.trans hp)
      obtain ⟨hlt, rfl⟩ := List.getElem?_eq_some_iff.mp hj
      rw [← w.reach_bucketClose_of_isSorted hsorted, List.getElem_range]
    have hdown : ∀ t u, t ≤ u → u < w.point (k + 1) → t < w.point (k + 1) :=
      fun _ _ => Instant.lt_of_le_of_lt
    rw [hvalues]
    exact ⟨Log.isLatest_rowAfter_leading hsorted hdown,
      (Log.scan_eq_rowAfter_leading hsorted hdown).symm⟩

theorem resample_bucketClose_leapLog :
    leapLog.isSorted = true ∧
      ∃ series, resample leapLog .standard ⟨1483228799, 1500000000, by decide⟩ .bucketClose =
          .ok series ∧
        ∀ k p, series.points[k]? = some p →
          leapLog.IsLatest (· < leapWindow.point (k + 1)) p.values ∧
            p.values = leapLog.scan (· < leapWindow.point (k + 1)) := by
  have hsorted : leapLog.isSorted = true := by decide
  obtain ⟨series, hseries, -, -, hlatest⟩ := leapWindow.resample_bucketClose leapLog
  exact ⟨hsorted, series, hseries, hlatest hsorted⟩

end Window

end CounterBoard
