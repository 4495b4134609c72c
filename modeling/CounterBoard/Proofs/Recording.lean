import CounterBoard.Log.Snapshot
import CounterBoard.Proofs.Carrying
import CounterBoard.Proofs.RecordedTime
import Mathlib.Data.List.Induction

/-!
What a recorder makes of the announces that come to it. Each announce adds one place to every column
of its snapshot, so the columns hold running counts, and the snapshot is read back as a log of the
whole seconds at which the announces came.
-/

set_option autoImplicit false
set_option relaxedAutoImplicit false

namespace CounterBoard

open CounterBoard.Time

structure Announce where
  instant : Instant
  isCompleted : Bool
  deriving DecidableEq

def Snapshot.recordAll (s : Snapshot) (zone : Zone) (announces : List Announce) :
    Except Fault Snapshot :=
  announces.foldlM (fun s a => s.record zone a.instant a.isCompleted) s

theorem Snapshot.recordAll_append (s : Snapshot) (zone : Zone) (front rest : List Announce) :
    s.recordAll zone (front ++ rest) =
      s.recordAll zone front >>= fun mid => mid.recordAll zone rest :=
  List.foldlM_append

theorem Snapshot.recordAll_cons (s : Snapshot) (zone : Zone) (a : Announce)
    (rest : List Announce) :
    s.recordAll zone (a :: rest) =
      s.record zone a.instant a.isCompleted >>= fun mid => mid.recordAll zone rest :=
  List.foldlM_cons

theorem Snapshot.recordAll_append_single {s mid : Snapshot} {zone : Zone} {front : List Announce}
    {a : Announce} (hfront : s.recordAll zone front = .ok mid) :
    s.recordAll zone (front ++ [a]) = mid.record zone a.instant a.isCompleted := by
  rw [recordAll_append, hfront]
  exact (recordAll_cons mid zone a []).trans (bind_pure _)

theorem map_countP_take_append_single {β : Type} (value : Nat → β) (counts : Announce → Bool)
    (announces : List Announce) (a : Announce) :
    ((List.range (announces ++ [a]).length).map fun i =>
        value (((announces ++ [a]).take (i + 1)).countP counts)) =
      ((List.range announces.length).map fun i =>
        value ((announces.take (i + 1)).countP counts)) ++
          [value ((announces ++ [a]).countP counts)] := by
  have hfront : ∀ i ∈ List.range announces.length,
      value (((announces ++ [a]).take (i + 1)).countP counts) =
        value ((announces.take (i + 1)).countP counts) := by
    intro i hi
    rw [List.take_append_of_le_length (List.mem_range.mp hi)]
  have hall : (announces ++ [a]).take (announces.length + 1) = announces ++ [a] :=
    List.take_of_length_le (by simp)
  rw [List.length_append, List.length_singleton, List.range_succ, List.map_append,
    List.map_congr_left hfront, List.map_singleton, hall]

/-- How many announces of a kind there were up to each announce. -/
def tally (counts : Announce → Bool) (announces : List Announce) : List UInt64 :=
  (List.range announces.length).map fun i => .ofNat ((announces.take (i + 1)).countP counts)

@[simp]
theorem length_tally (counts : Announce → Bool) (announces : List Announce) :
    (tally counts announces).length = announces.length := by
  simp [tally]

theorem getElem?_tally (counts : Announce → Bool) {announces : List Announce} {i : Nat}
    (hi : i < announces.length) :
    (tally counts announces)[i]? = some (.ofNat ((announces.take (i + 1)).countP counts)) := by
  simp [tally, hi]

theorem tally_append_singleton (counts : Announce → Bool) (announces : List Announce)
    (a : Announce) :
    tally counts (announces ++ [a]) =
      tally counts announces ++ [.ofNat ((announces ++ [a]).countP counts)] :=
  map_countP_take_append_single UInt64.ofNat counts announces a

theorem lastValue_tally (counts : Announce → Bool) (announces : List Announce) :
    Snapshot.lastValue (tally counts announces) = .ofNat (announces.countP counts) := by
  cases announces using List.reverseRecOn with
  | nil => rfl
  | append_singleton announces a =>
    rw [tally_append_singleton, Snapshot.lastValue, List.getLast?_concat]
    rfl

theorem Snapshot.increment_ofNat {n : Nat} (h : n + 1 < UInt64.size) :
    increment (.ofNat n) = .ok (.ofNat (n + 1)) := by
  have hn : (UInt64.ofNat n).toNat = n := UInt64.toNat_ofNat_of_lt' (Nat.lt_of_succ_lt h)
  have hroom : (UInt64.ofNat n).toNat + 1 < UInt64.size := hn.symm ▸ h
  have hsum : UInt64.ofNat n + 1 = .ofNat (n + 1) := (UInt64.ofNat_add n 1).symm
  rw [← hsum]
  exact if_pos hroom

theorem Snapshot.record_eq_ok {s : Snapshot} {isCompleted : Bool} {connections completed : UInt64}
    (hconnections : increment (lastValue s.connections) = .ok connections)
    (hcompleted : (if isCompleted then increment (lastValue s.completed)
      else .ok (lastValue s.completed)) = .ok completed) (zone : Zone) (instant : Instant) :
    s.record zone instant isCompleted = .ok {
      torrents := s.torrents.map extendTorrents
      times := s.times ++ [String.ofList (instant.localText zone)]
      connections := s.connections ++ [connections]
      completed := s.completed ++ [completed] } := by
  rw [record, hconnections]
  cases isCompleted with
  | false =>
    cases hcompleted
    rfl
  | true =>
    change (increment (lastValue s.completed) >>= fun completed => _) = _
    rw [if_pos rfl] at hcompleted
    rw [hcompleted]
    rfl

def Snapshot.counting (torrents : UInt64) (zone : Zone) (announces : List Announce) : Snapshot where
  torrents := some (.count torrents)
  times := announces.map fun a => String.ofList (a.instant.localText zone)
  connections := tally (fun _ => true) announces
  completed := tally Announce.isCompleted announces

theorem Snapshot.record_counting (torrents : UInt64) (zone : Zone) (announces : List Announce)
    (a : Announce) (h : announces.length + 1 < UInt64.size) :
    (counting torrents zone announces).record zone a.instant a.isCompleted =
      .ok (counting torrents zone (announces ++ [a])) := by
  have hconnections : increment (lastValue (tally (fun _ => true) announces)) =
      .ok (.ofNat ((announces ++ [a]).countP fun _ => true)) := by
    rw [lastValue_tally, List.countP_true, List.length_append]
    exact increment_ofNat h
  have hcompleted : (if a.isCompleted
        then increment (lastValue (tally Announce.isCompleted announces))
        else .ok (lastValue (tally Announce.isCompleted announces))) =
      .ok (.ofNat ((announces ++ [a]).countP Announce.isCompleted)) := by
    have hroom : announces.countP Announce.isCompleted + 1 < UInt64.size :=
      Nat.lt_of_le_of_lt (Nat.succ_le_succ List.countP_le_length) h
    rw [lastValue_tally, List.countP_append, List.countP_singleton]
    split
    · exact increment_ofNat hroom
    · rfl
  rw [record_eq_ok (s := counting torrents zone announces) hconnections hcompleted]
  simp only [counting, tally_append_singleton, List.map_append, List.map_singleton,
    Option.map_some, extendTorrents]

theorem Snapshot.recordAll_fresh (torrents : UInt64) (zone : Zone) (announces : List Announce)
    (h : announces.length < UInt64.size) :
    (fresh torrents).recordAll zone announces = .ok (counting torrents zone announces) := by
  induction announces using List.reverseRecOn with
  | nil => rfl
  | append_singleton announces a ih =>
    rw [List.length_append, List.length_singleton] at h
    rw [recordAll_append_single (ih (Nat.lt_of_succ_lt h))]
    exact record_counting torrents zone announces a h

/-- The instants that a recorder notes: those of the announces, in whole seconds. -/
def noted (announces : List Announce) : List Instant :=
  announces.map fun a => a.instant.wholeSecond

theorem parseTimes_eq_ok {α : Type} {zone : Zone} {text : α → String} {time : α → Instant}
    {l : List α} (h : ∀ a ∈ l, parse? zone (text a) = some (time a)) (index : Nat) :
    parseTimes zone index (l.map text) = .ok (l.map time) := by
  induction l generalizing index with
  | nil => rfl
  | cons a l ih =>
    have hrest := ih (fun b hb => h b (List.mem_cons_of_mem a hb)) (index + 1)
    rw [List.map_cons, parseTimes, h a List.mem_cons_self]
    change (parseTimes zone (index + 1) (l.map text) >>= fun instants => _) = _
    rw [hrest]
    rfl

theorem Log.ofColumns_eq_ok {times : List Instant} {counters : List Counter}
    (h : ∀ c ∈ counters, c.Fits times.length) :
    ofColumns times counters = .ok ⟨times, counters, h⟩ := by
  rw [ofColumns]
  split
  · next c hfind =>
    have hmisfit := List.find?_some hfind
    have hfit := h c (List.mem_of_find?_eq_some hfind)
    exact absurd hfit (of_decide_eq_true hmisfit)
  · rfl

theorem Snapshot.fits_counting (torrents : UInt64) (zone : Zone) (announces : List Announce) :
    ∀ c ∈ (counting torrents zone announces).counters, c.Fits (noted announces).length := by
  intro c hc length hlength
  simp only [counters, counting, Option.map_some, Option.toList_some, Torrents.toCounter,
    List.mem_cons, List.not_mem_nil, or_false] at hc
  rcases hc with rfl | rfl | rfl
  · cases hlength
    simp [noted]
  · cases hlength
    simp [noted]
  · cases hlength

def announceLog (torrents : UInt64) (zone : Zone) (announces : List Announce) : Log :=
  ⟨noted announces, (Snapshot.counting torrents zone announces).counters,
    Snapshot.fits_counting torrents zone announces⟩

theorem Snapshot.toLog_counting (torrents : UInt64) {zone : Zone} (hzone : zone ∈ Zone.servers)
    {announces : List Announce}
    (hyear : ∀ a ∈ announces, yearInRange (a.instant.localClock zone).date.year = true)
    (honce : ∀ a ∈ announces, ¬ zone.ShowsAgain a.instant.seconds) :
    (counting torrents zone announces).toLog zone =
      .ok (announceLog torrents zone announces) := by
  have htimes : parseTimes zone 0 (counting torrents zone announces).times =
      .ok (noted announces) := by
    apply parseTimes_eq_ok
    intro a ha
    exact parse?_localText (Zone.isRegular_of_mem_servers hzone) (hyear a ha) (honce a ha)
  rw [toLog, htimes]
  exact Log.ofColumns_eq_ok (fits_counting torrents zone announces)

theorem Snapshot.times_of_record {s after : Snapshot} {zone : Zone} {t : Instant}
    {isCompleted : Bool} (h : s.record zone t isCompleted = .ok after) :
    after.times = s.times ++ [String.ofList (t.localText zone)] := by
  obtain ⟨connections, -, hrest⟩ := exists_of_bind_eq_ok h
  cases isCompleted with
  | false =>
    cases hrest
    rfl
  | true =>
    obtain ⟨completed, -, hlast⟩ := exists_of_bind_eq_ok hrest
    cases hlast
    rfl

/-- Recorded times are read back. In its zone, the text that a recorder appends for an instant names
that instant in whole seconds, a leap second as itself. The one exception is the last hour of summer:
what was recorded there is taken for the second an hour later, at which the clocks showed the
same in standard time. -/
theorem Snapshot.record_reads_back {zone : Zone} (hzone : zone ∈ Zone.servers) {t : Instant}
    (hyear : yearInRange (t.localClock zone).date.year = true) {s after : Snapshot}
    {isCompleted : Bool} (h : s.record zone t isCompleted = .ok after) :
    ∃ text u, after.times = s.times ++ [text] ∧ parse? zone text = some u ∧
      u.seconds = (if zone.InRepeatedHour t.seconds then t.seconds + 3600 else t.seconds) ∧
      u.nanos = (if t.isLeap then nanosPerSecond else 0) ∧
      u.localClock zone = t.wholeSecond.localClock zone ∧
      ¬ zone.InRepeatedHour u.seconds := by
  have hregular := Zone.isRegular_of_mem_servers hzone
  obtain ⟨u, hparse, hreading⟩ := exists_parse?_localText hregular hyear
  exact ⟨_, u, times_of_record h, hparse, hreading⟩

/-- A leap second of the year -5, in the last hour of the summer of New York. -/
private def repeatedLeap : Instant :=
  ⟨-62298354601, 1750000000, by decide⟩

theorem Snapshot.record_reads_back_repeatedLeap :
    Zone.newYork ∈ Zone.servers ∧
      yearInRange (repeatedLeap.localClock .newYork).date.year = true ∧
      ∃ after text u, (fresh 7).record .newYork repeatedLeap true = .ok after ∧
        after.times = [text] ∧ parse? .newYork text = some u ∧
        u.seconds = repeatedLeap.seconds + 3600 ∧ u.nanos = 1000000000 := by
  have hzone : Zone.newYork ∈ Zone.servers := by decide
  have hyear : yearInRange (repeatedLeap.localClock .newYork).date.year = true := by decide
  have hrepeated : Zone.newYork.InRepeatedHour repeatedLeap.seconds := by decide
  have hrecord := record_counting 7 .newYork [] ⟨repeatedLeap, true⟩ (by decide)
  obtain ⟨text, u, htimes, hparse, hseconds, hnanos, -⟩ := record_reads_back hzone hyear hrecord
  rw [if_pos hrepeated] at hseconds
  exact ⟨hzone, hyear, _, text, u, hrecord, htimes, hparse, hseconds, hnanos⟩

theorem isSorted_announceLog (torrents : UInt64) (zone : Zone) {announces : List Announce}
    (h : announces.Pairwise fun a b => a.instant ≤ b.instant) :
    (announceLog torrents zone announces).isSorted = true := by
  rw [Log.isSorted, Log.isSortedFrom_iff]
  exact List.pairwise_map.mpr (h.imp Instant.wholeSecond_le)

end CounterBoard
