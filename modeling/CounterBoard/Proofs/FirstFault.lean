import CounterBoard.Proofs.ServedSnapshot
import CounterBoard.Source

/-!
What becomes of the text of a snapshot. Of its faults the first is reported: a text that is no
snapshot, then the first time that names no instant, then the first column that is longer or shorter
than the times. A snapshot without a fault is a log, with a value of every counter at every entry.
-/

set_option autoImplicit false
set_option relaxedAutoImplicit false

namespace CounterBoard

open CounterBoard.Time

namespace Snapshot

/-- The columns that have to be as long as the times, in the order in which they are measured. -/
def columns (s : Snapshot) : List (CounterKind × List UInt64) :=
  (.connections, s.connections) :: (.completed, s.completed) ::
    match s.torrents with
    | some (.series column) => [(.torrents, column)]
    | _ => []

def gauges (s : Snapshot) : List (CounterKind × UInt64) :=
  match s.torrents with
  | some (.count value) => [(.torrents, value)]
  | _ => []

/-- The log that a snapshot describes in a zone, or its first fault. -/
inductive Describes (zone : Zone) (s : Snapshot) : Except LogError Log → Prop
  | badTime {place : Nat} {text : String} (htext : s.times[place]? = some text)
      (hbad : parse? zone text = none)
      (hfirst : ∀ before earlier, before < place → s.times[before]? = some earlier →
        (parse? zone earlier).isSome) :
      Describes zone s (.error (.invalidTimestamp place text))
  | badColumn {place : Nat} {kind : CounterKind} {column : List UInt64}
      (htimes : ∀ text ∈ s.times, (parse? zone text).isSome)
      (hcolumn : s.columns[place]? = some (kind, column))
      (hlength : column.length ≠ s.times.length)
      (hfirst : ∀ before other, before < place → s.columns[before]? = some other →
        other.2.length = s.times.length) :
      Describes zone s (.error (.lengthMismatch kind s.times.length column.length))
  | log {log : Log} (htimes : log.times.map some = s.times.map (parse? zone))
      (hcolumns : ∀ column ∈ s.columns, column.2.length = s.times.length)
      (hcounters : log.counters = s.columns.map (fun c => ⟨c.1, .series c.2⟩) ++
        s.gauges.map fun g => ⟨g.1, .constant g.2⟩) :
      Describes zone s (.ok log)

theorem counters_eq (s : Snapshot) :
    s.counters = s.columns.map (fun c => ⟨c.1, .series c.2⟩) ++
      s.gauges.map fun g => ⟨g.1, .constant g.2⟩ := by
  rcases s with ⟨_ | _ | _, times, connections, completed⟩ <;> rfl

theorem fits_of_mem_counters {s : Snapshot} {entries : Nat}
    (h : ∀ column ∈ s.columns, column.2.length = entries) :
    ∀ c ∈ s.counters, c.Fits entries := by
  intro c hc
  rw [counters_eq] at hc
  rcases List.mem_append.mp hc with hc | hc
  · obtain ⟨column, hcolumn, rfl⟩ := List.mem_map.mp hc
    intro length hlength
    cases hlength
    exact h column hcolumn
  · obtain ⟨gauge, -, rfl⟩ := List.mem_map.mp hc
    intro length hlength
    cases hlength

theorem ofColumns_eq_error {s : Snapshot} {times : List Instant} {place : Nat}
    {kind : CounterKind} {column : List UInt64}
    (hcolumn : s.columns[place]? = some (kind, column)) (hlength : column.length ≠ times.length)
    (hfirst : ∀ before other, before < place → s.columns[before]? = some other →
      other.2.length = times.length) :
    Log.ofColumns times s.counters =
      .error (.lengthMismatch kind times.length column.length) := by
  have hfind : s.counters.find? (fun c => ¬ c.Fits times.length) =
      some ⟨kind, .series column⟩ := by
    obtain ⟨hplace, hget⟩ := List.getElem?_eq_some_iff.mp hcolumn
    rw [counters_eq, List.find?_append, List.find?_map]
    have hmisfit : s.columns.find? ((fun c : Counter => decide ¬ c.Fits times.length) ∘
        fun c => ⟨c.1, .series c.2⟩) = some (kind, column) := by
      rw [List.find?_eq_some_iff_getElem]
      refine ⟨?_, place, hplace, hget, ?_⟩
      · simpa [Counter.Fits, Counter.columnLength?] using hlength
      · intro before hbefore
        have hget := List.getElem?_eq_getElem (Nat.lt_trans hbefore hplace)
        have hfit := hfirst before _ hbefore hget
        simpa [Counter.Fits, Counter.columnLength?] using hfit
    rw [hmisfit]
    rfl
  unfold Log.ofColumns
  split
  · next c hc =>
    rw [hfind] at hc
    cases hc
    rfl
  · next hnone =>
    rw [hfind] at hnone
    cases hnone

theorem exists_parseTimes {zone : Zone} {texts : List String}
    (h : ∀ text ∈ texts, (parse? zone text).isSome) (index : Nat) :
    ∃ times, parseTimes zone index texts = .ok times ∧
      times.map some = texts.map (parse? zone) := by
  induction texts generalizing index with
  | nil => exact ⟨[], rfl, rfl⟩
  | cons text texts ih =>
    obtain ⟨t, ht⟩ := Option.isSome_iff_exists.mp (h text List.mem_cons_self)
    obtain ⟨times, hparse, htimes⟩ :=
      ih (fun other hother => h other (List.mem_cons_of_mem _ hother)) (index + 1)
    refine ⟨t :: times, ?_, ?_⟩
    · rw [parseTimes, ht]
      change (parseTimes zone (index + 1) texts >>= fun instants => _) = _
      rw [hparse]
      rfl
    · rw [List.map_cons, List.map_cons, ht, htimes]

theorem exists_describes (zone : Zone) (s : Snapshot) : ∃ outcome, s.Describes zone outcome := by
  rcases forall_or_exists_first (fun text => (parse? zone text).isSome = true) s.times with
    htimes | ⟨place, text, htext, hbad, hfirst⟩
  · rcases forall_or_exists_first
        (fun column : CounterKind × List UInt64 => column.2.length = s.times.length) s.columns with
      hcolumns | ⟨place, ⟨kind, column⟩, hcolumn, hlength, hfirst⟩
    · obtain ⟨times, -, hread⟩ := exists_parseTimes htimes 0
      have hentries : times.length = s.times.length := by
        simpa using congrArg List.length hread
      have hfit : ∀ c ∈ s.counters, c.Fits times.length :=
        fits_of_mem_counters (fun column hcolumn => (hcolumns column hcolumn).trans hentries.symm)
      exact ⟨.ok ⟨times, s.counters, hfit⟩, .log hread hcolumns s.counters_eq⟩
    · exact ⟨_, .badColumn htimes hcolumn hlength hfirst⟩
  · refine ⟨_, .badTime htext ?_ hfirst⟩
    simpa using hbad

theorem toLog_eq_of_describes {zone : Zone} {s : Snapshot} {outcome : Except LogError Log}
    (h : s.Describes zone outcome) : s.toLog zone = outcome := by
  cases h with
  | badTime htext hbad hfirst =>
    rw [toLog, parseTimes_eq_error htext hbad hfirst, Nat.zero_add]
    rfl
  | badColumn htimes hcolumn hlength hfirst =>
    obtain ⟨times, hparse, hread⟩ := exists_parseTimes htimes 0
    have hentries : times.length = s.times.length := by
      simpa using congrArg List.length hread
    rw [← hentries] at hlength hfirst ⊢
    rw [toLog, hparse]
    exact ofColumns_eq_error hcolumn hlength hfirst
  | @log log hread hcolumns hcounters =>
    have hall : ∀ text ∈ s.times, (parse? zone text).isSome := by
      intro text htext
      have hmem : parse? zone text ∈ log.times.map some := by
        rw [hread]
        exact List.mem_map_of_mem htext
      obtain ⟨t, -, ht⟩ := List.mem_map.mp hmem
      rw [← ht]
      rfl
    obtain ⟨times, hparse, hagain⟩ := exists_parseTimes hall 0
    have htimes : times = log.times :=
      (List.map_inj_right fun _ _ => Option.some.inj).mp (hagain.trans hread.symm)
    rw [toLog, hparse, htimes, counters_eq, ← hcounters]
    exact Log.ofColumns_eq_ok log.aligned

theorem describes_iff {zone : Zone} {s : Snapshot} {outcome : Except LogError Log} :
    s.Describes zone outcome ↔ s.toLog zone = outcome := by
  constructor
  · exact toLog_eq_of_describes
  · intro h
    obtain ⟨described, hdescribed⟩ := s.exists_describes zone
    rwa [← h, toLog_eq_of_describes hdescribed]

end Snapshot

/-- A text that is no snapshot is refused as such, and nothing else is. What a snapshot describes is
one thing, a log or the first fault, and that is the result. In a log every counter has a value at
every entry. -/
theorem parseSnapshot_reports_first_fault (zone : Zone) (text : String) :
    ((∃ refusal, parseSnapshot zone text = .error (.format refusal)) ↔
      ∀ s, Json.decode Snapshot.read text ≠ .ok s) ∧
    ∀ s, Json.decode Snapshot.read text = .ok s →
      ∃ outcome, parseSnapshot zone text = outcome.mapError .shape ∧
        (∀ other, s.Describes zone other ↔ other = outcome) ∧
        ∀ log, outcome = .ok log → ∀ c ∈ log.counters, ∀ place < log.length,
          (c.valueAt place).isSome := by
  have hdecoded : ∀ s, Json.decode Snapshot.read text = .ok s →
      parseSnapshot zone text = (s.toLog zone).mapError .shape := by
    intro s hs
    rw [parseSnapshot, hs]
    rfl
  refine ⟨⟨?_, ?_⟩, ?_⟩
  · rintro ⟨refusal, hrefused⟩ s hs
    rw [hdecoded s hs] at hrefused
    cases htoLog : s.toLog zone <;> rw [htoLog] at hrefused <;> cases hrefused
  · intro hnone
    cases hread : Json.decode Snapshot.read text with
    | ok s => exact absurd hread (hnone s)
    | error refusal => exact ⟨refusal, by rw [parseSnapshot, hread]; rfl⟩
  · intro s hs
    refine ⟨s.toLog zone, hdecoded s hs, ?_, ?_⟩
    · intro other
      rw [Snapshot.describes_iff]
      exact eq_comm
    · intro log _ c hc place hplace
      rw [Log.valueAt_eq_some hc hplace]
      rfl

private def misread : Snapshot :=
  ⟨some (.count 5), ["2001-01-01T00:00:00Z", "bad "], [1], []⟩

private def oneEntry : Snapshot :=
  ⟨some (.count 7), ["2001-01-01T00:00:00Z"], [1], [2]⟩

private theorem decode_misread : Json.decode Snapshot.read
    "[5,[\"2001-01-01T00:00:00Z\",\"bad \"],[1],[]]" = .ok misread := by
  decide +kernel

private theorem decode_oneEntry : Json.decode Snapshot.read
    "[7,[\"2001-01-01T00:00:00Z\"],[1],[2]]" = .ok oneEntry := by
  decide +kernel

private def oneEntryLog : Log :=
  ⟨[⟨978307200, 0, by decide⟩],
    [⟨.connections, .series [1]⟩, ⟨.completed, .series [2]⟩, ⟨.torrents, .constant 7⟩], by decide⟩

/-- A time that cannot be read goes before a column that is too short. -/
theorem parseSnapshot_reports_misread :
    parseSnapshot .utc "[5,[\"2001-01-01T00:00:00Z\",\"bad \"],[1],[]]" =
        .error (.shape (.invalidTimestamp 1 "bad ")) ∧
      parseSnapshot .utc "[7,[\"2001-01-01T00:00:00Z\"],[1],[2]]" = .ok oneEntryLog ∧
      ∀ c ∈ oneEntryLog.counters, (c.valueAt 0).isSome := by
  have hfault : misread.Describes .utc (.error (.invalidTimestamp 1 "bad ")) := by
    refine .badTime rfl (by decide +kernel) ?_
    rintro (_ | before) earlier hbefore hearlier
    · cases hearlier
      decide +kernel
    · omega
  have hlog : oneEntry.Describes .utc (.ok oneEntryLog) :=
    .log (by decide +kernel) (by decide) rfl
  obtain ⟨fault, hmisread, honlyFault, -⟩ :=
    (parseSnapshot_reports_first_fault .utc _).2 misread decode_misread
  obtain ⟨result, hread, honly, hvalues⟩ :=
    (parseSnapshot_reports_first_fault .utc _).2 oneEntry decode_oneEntry
  have hmatch := (honly _).mp hlog
  refine ⟨?_, ?_, ?_⟩
  · rw [hmisread, ← (honlyFault _).mp hfault]
    rfl
  · rw [hread, ← hmatch]
    rfl
  · intro c hc
    exact hvalues _ hmatch.symm c hc 0 Nat.one_pos

end CounterBoard
