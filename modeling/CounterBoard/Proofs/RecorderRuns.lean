import CounterBoard.Proofs.FirstFault

/-!
Runs of a recorder that goes on with any snapshot, well shaped or not. The run ends at the first
announce that would raise a count above the largest one. Up to there every column gets one value more
with each announce, so a snapshot that makes a log goes on to make one, and one that does not keeps
the fault that it had, with both lengths larger by the number of announces.
-/

set_option autoImplicit false
set_option relaxedAutoImplicit false

namespace CounterBoard

open CounterBoard.Time

def Torrents.repeated (entries : Nat) : Torrents → Torrents
  | .count value => .count value
  | .series column => .series (column ++ List.replicate entries (Snapshot.lastValue column))

namespace Snapshot

/-- A column that goes on from its last value with the number of announces counted so far. -/
def CountsOn (column : List UInt64) (counts : Announce → Bool) (announces : List Announce)
    (longer : List UInt64) : Prop :=
  ∃ added, longer = column ++ added ∧ added.map UInt64.toNat =
    (List.range announces.length).map fun i =>
      (lastValue column).toNat + (announces.take (i + 1)).countP counts

/-- A snapshot with one more value in each column, and one more time, for every announce. -/
structure Grown (s : Snapshot) (zone : Zone) (announces : List Announce) (after : Snapshot) :
    Prop where
  times : after.times =
    s.times ++ announces.map fun a => String.ofList (a.instant.localText zone)
  connections : CountsOn s.connections (fun _ => true) announces after.connections
  completed : CountsOn s.completed Announce.isCompleted announces after.completed
  torrents : after.torrents = s.torrents.map (Torrents.repeated announces.length)

/-- There is no room for an announce: a count that it would raise is the largest one. -/
def IsFull (s : Snapshot) (a : Announce) : Prop :=
  (lastValue s.connections).toNat = UInt64.size - 1 ∨
    a.isCompleted = true ∧ (lastValue s.completed).toNat = UInt64.size - 1

/-- A recorder comes to an announce for which there is no room, and to none before it. -/
structure StopsAt (s : Snapshot) (zone : Zone) (front : List Announce) (a : Announce) : Prop where
  passes : ∀ earlier b later, front = earlier ++ b :: later →
    ∃ mid, s.recordAll zone earlier = .ok mid ∧ ¬ mid.IsFull b
  full : ∃ mid, s.recordAll zone front = .ok mid ∧ mid.IsFull a

section Step

theorem increment_of_largest {n : UInt64} (h : n.toNat = UInt64.size - 1) :
    increment n = .error .countOverflow := by
  rw [increment, if_neg]
  have hsize : 0 < UInt64.size := by decide
  omega

theorem exists_increment {n : UInt64} (h : n.toNat ≠ UInt64.size - 1) :
    ∃ m, increment n = .ok m ∧ m.toNat = n.toNat + 1 := by
  have hlt : n.toNat < UInt64.size := n.toNat_lt
  have hroom : n.toNat + 1 < UInt64.size := by omega
  refine ⟨n + 1, if_pos hroom, ?_⟩
  rw [UInt64.toNat_add]
  exact Nat.mod_eq_of_lt hroom

variable {s : Snapshot} {a : Announce}

theorem record_of_isFull (h : s.IsFull a) (zone : Zone) :
    s.record zone a.instant a.isCompleted = .error .countOverflow := by
  by_cases hconnections : (lastValue s.connections).toNat = UInt64.size - 1
  · rw [record, increment_of_largest hconnections]
    rfl
  · obtain ⟨hcompletes, hcompleted⟩ := h.resolve_left hconnections
    obtain ⟨m, hm, -⟩ := exists_increment hconnections
    rw [record, hm, hcompletes, increment_of_largest hcompleted]
    rfl

theorem exists_record_of_not_isFull (h : ¬ s.IsFull a) (zone : Zone) :
    ∃ connections completed, s.record zone a.instant a.isCompleted = .ok {
        torrents := s.torrents.map extendTorrents
        times := s.times ++ [String.ofList (a.instant.localText zone)]
        connections := s.connections ++ [connections]
        completed := s.completed ++ [completed] } ∧
      connections.toNat = (lastValue s.connections).toNat + 1 ∧
      completed.toNat = (lastValue s.completed).toNat + (if a.isCompleted then 1 else 0) := by
  obtain ⟨hconnections, hcompleted⟩ := not_or.mp h
  obtain ⟨m, hm, hvalue⟩ := exists_increment hconnections
  by_cases hcompletes : a.isCompleted = true
  · obtain ⟨n, hn, hraised⟩ := exists_increment fun hlargest => hcompleted ⟨hcompletes, hlargest⟩
    refine ⟨m, n, record_eq_ok hm ?_ zone a.instant, hvalue, ?_⟩
    · rw [if_pos hcompletes, hn]
    · rw [if_pos hcompletes, hraised]
  · refine ⟨m, lastValue s.completed, record_eq_ok hm ?_ zone a.instant, hvalue, ?_⟩
    · rw [if_neg hcompletes]
    · rw [if_neg hcompletes, Nat.add_zero]

end Step

section Columns

variable {column longer : List UInt64} {counts : Announce → Bool} {announces : List Announce}

theorem CountsOn.refl (column : List UInt64) (counts : Announce → Bool) :
    CountsOn column counts [] column :=
  ⟨[], (List.append_nil column).symm, rfl⟩

theorem CountsOn.length_eq (h : CountsOn column counts announces longer) :
    longer.length = column.length + announces.length := by
  obtain ⟨added, rfl, hadded⟩ := h
  have hlength : added.length = announces.length := by simpa using congrArg List.length hadded
  rw [List.length_append, hlength]

theorem CountsOn.toNat_lastValue (h : CountsOn column counts announces longer) :
    (lastValue longer).toNat = (lastValue column).toNat + announces.countP counts := by
  obtain ⟨added, rfl, hadded⟩ := h
  cases announces using List.reverseRecOn with
  | nil =>
    obtain rfl : added = [] := by simpa using hadded
    rw [List.append_nil, List.countP_nil, Nat.add_zero]
  | append_singleton announces a =>
    have hlast := congrArg List.getLast? hadded
    rw [map_countP_take_append_single ((lastValue column).toNat + ·), List.getLast?_map,
      List.getLast?_concat] at hlast
    obtain ⟨value, hvalue, hcount⟩ := Option.map_eq_some_iff.mp hlast
    rw [← hcount, lastValue, List.getLast?_append, hvalue]
    rfl

theorem CountsOn.append_single (h : CountsOn column counts announces longer) {a : Announce}
    {value : UInt64}
    (hvalue : value.toNat = (lastValue longer).toNat + (if counts a then 1 else 0)) :
    CountsOn column counts (announces ++ [a]) (longer ++ [value]) := by
  have hlast := h.toNat_lastValue
  obtain ⟨added, rfl, hadded⟩ := h
  refine ⟨added ++ [value], List.append_assoc .., ?_⟩
  rw [map_countP_take_append_single ((lastValue column).toNat + ·), List.map_append, hadded,
    List.map_singleton, hvalue, hlast, List.countP_append, List.countP_singleton, Nat.add_assoc]

theorem lastValue_append_replicate (column : List UInt64) (n : Nat) :
    lastValue (column ++ List.replicate n (lastValue column)) = lastValue column := by
  cases n with
  | zero => rw [List.replicate_zero, List.append_nil]
  | succ n =>
    rw [List.replicate_succ', ← List.append_assoc, lastValue, List.getLast?_concat]
    rfl

theorem extendTorrents_repeated (torrents : Torrents) (n : Nat) :
    extendTorrents (torrents.repeated n) = torrents.repeated (n + 1) := by
  cases torrents with
  | count value => rfl
  | series column =>
    simp only [Torrents.repeated, extendTorrents, lastValue_append_replicate,
      List.replicate_succ', List.append_assoc]

end Columns

section Run

variable {s mid after : Snapshot} {zone : Zone} {announces front rest : List Announce}
  {a : Announce}

theorem Grown.refl (s : Snapshot) (zone : Zone) : s.Grown zone [] s := by
  refine ⟨(List.append_nil s.times).symm, .refl _ _, .refl _ _, ?_⟩
  rcases s with ⟨_ | _ | column, times, connections, completed⟩
  · rfl
  · rfl
  · simp [Torrents.repeated]

theorem Grown.append_single (h : s.Grown zone front mid)
    (hrecord : mid.record zone a.instant a.isCompleted = .ok after) :
    s.Grown zone (front ++ [a]) after := by
  have hroom : ¬ mid.IsFull a := by
    intro hfull
    rw [record_of_isFull hfull] at hrecord
    cases hrecord
  obtain ⟨connections, completed, hnext, hconnections, hcompleted⟩ :=
    exists_record_of_not_isFull hroom zone
  rw [hnext] at hrecord
  cases hrecord
  refine ⟨?_, h.connections.append_single hconnections, h.completed.append_single hcompleted, ?_⟩
  · simp [h.times]
  · rw [h.torrents, List.length_append, List.length_singleton, Option.map_map]
    exact congrArg (s.torrents.map ·) (funext fun t => extendTorrents_repeated t _)

theorem grown_of_recordAll (h : s.recordAll zone announces = .ok after) :
    s.Grown zone announces after := by
  induction announces using List.reverseRecOn generalizing after with
  | nil =>
    cases h
    exact .refl s zone
  | append_singleton front a ih =>
    have hrun := h
    rw [recordAll_append] at hrun
    obtain ⟨mid, hfront, -⟩ := exists_of_bind_eq_ok hrun
    rw [recordAll_append_single hfront] at h
    exact (ih hfront).append_single h

theorem not_isFull_of_recordAll (h : s.recordAll zone announces = .ok after)
    (hsplit : announces = front ++ a :: rest) :
    ∃ mid, s.recordAll zone front = .ok mid ∧ ¬ mid.IsFull a := by
  rw [hsplit, recordAll_append] at h
  obtain ⟨mid, hfront, hrest⟩ := exists_of_bind_eq_ok h
  refine ⟨mid, hfront, ?_⟩
  intro hfull
  rw [recordAll_cons, record_of_isFull hfull] at hrest
  cases hrest

theorem recordAll_eq_error_iff {fault : Fault} :
    s.recordAll zone announces = .error fault ↔ fault = .countOverflow ∧
      ∃ front a rest, announces = front ++ a :: rest ∧ s.StopsAt zone front a := by
  constructor
  · intro h
    induction announces using List.reverseRecOn with
    | nil => cases h
    | append_singleton front a ih =>
      cases hfront : s.recordAll zone front with
      | error found =>
        rw [recordAll_append, hfront] at h
        cases h
        obtain ⟨rfl, earlier, b, rest, rfl, hstop⟩ := ih hfront
        exact ⟨rfl, earlier, b, rest ++ [a], by simp, hstop⟩
      | ok mid =>
        rw [recordAll_append_single hfront] at h
        by_cases hfull : mid.IsFull a
        · rw [record_of_isFull hfull] at h
          cases h
          refine ⟨rfl, front, a, [], rfl, ?_, mid, hfront, hfull⟩
          exact fun earlier b later hsplit => not_isFull_of_recordAll hfront hsplit
        · obtain ⟨connections, completed, hnext, -⟩ := exists_record_of_not_isFull hfull zone
          rw [hnext] at h
          cases h
  · rintro ⟨rfl, front, a, rest, rfl, -, mid, hfront, hfull⟩
    rw [recordAll_append, hfront]
    change mid.recordAll zone (a :: rest) = _
    rw [recordAll_cons, record_of_isFull hfull]
    rfl

end Run

theorem exists_getElem?_of_map_eq {α β γ : Type} {l : List α} {m : List β} {f : α → γ}
    {g : β → γ} (h : l.map f = m.map g) {i : Nat} {a : α} (ha : l[i]? = some a) :
    ∃ b, m[i]? = some b ∧ g b = f a := by
  have hmapped := congrArg (·[i]?) h
  simp only [List.getElem?_map, ha] at hmapped
  exact Option.map_eq_some_iff.mp hmapped.symm

section Shape

variable {s after : Snapshot} {zone reader : Zone} {announces : List Announce}

theorem Grown.map_columns (h : s.Grown zone announces after) :
    after.columns.map (fun c => (c.1, c.2.length)) =
      s.columns.map fun c => (c.1, c.2.length + announces.length) := by
  have htorrents := h.torrents
  have hconnections := h.connections.length_eq
  have hcompleted := h.completed.length_eq
  rcases s with ⟨_ | value | column, times, connections, completed⟩ <;>
    simp [columns, htorrents, hconnections, hcompleted, Torrents.repeated]

theorem Grown.length_times (h : s.Grown zone announces after) :
    after.times.length = s.times.length + announces.length := by
  rw [h.times, List.length_append, List.length_map]

theorem Grown.toLog_cases (h : s.Grown zone announces after)
    (hread : ∀ text ∈ after.times, (parse? reader text).isSome) :
    (∃ log longer, s.toLog reader = .ok log ∧ after.toLog reader = .ok longer) ∨
      ∃ kind expected actual,
        s.toLog reader = .error (.lengthMismatch kind expected actual) ∧
        after.toLog reader = .error
          (.lengthMismatch kind (expected + announces.length) (actual + announces.length)) := by
  have hentries := h.length_times
  obtain ⟨outcome, hdescribes⟩ := s.exists_describes reader
  have hshort := toLog_eq_of_describes hdescribes
  cases hdescribes with
  | badTime htext hbad hfirst =>
    have hold := hread _ (h.times ▸ List.mem_append_left _ (List.mem_of_getElem? htext))
    rw [hbad] at hold
    cases hold
  | @badColumn place kind column htimes hcolumn hlength hfirst =>
    obtain ⟨⟨other, longer⟩, hlonger, hsame⟩ :=
      exists_getElem?_of_map_eq h.map_columns.symm hcolumn
    obtain ⟨rfl, hgrown⟩ := Prod.mk.inj hsame
    simp only at hgrown
    refine .inr ⟨_, _, _, hshort, ?_⟩
    rw [← hentries, ← hgrown]
    refine toLog_eq_of_describes (.badColumn hread hlonger (by omega) ?_)
    intro before wider hbefore hwider
    obtain ⟨narrow, hnarrow, hsame⟩ := exists_getElem?_of_map_eq h.map_columns hwider
    rw [← (Prod.mk.inj hsame).2, hfirst before narrow hbefore hnarrow, hentries]
  | log htimes hcolumns hcounters =>
    obtain ⟨times, hparse, hmap⟩ := exists_parseTimes hread 0
    have hlength : times.length = after.times.length := by
      simpa using congrArg List.length hmap
    have hfit : ∀ column ∈ after.columns, column.2.length = times.length := by
      intro wider hwider
      obtain ⟨place, hplace⟩ := List.mem_iff_getElem?.mp hwider
      obtain ⟨narrow, hnarrow, hsame⟩ := exists_getElem?_of_map_eq h.map_columns hplace
      rw [← (Prod.mk.inj hsame).2, hcolumns narrow (List.mem_of_getElem? hnarrow), hlength,
        hentries]
    refine .inl ⟨_, ⟨times, after.counters, fits_of_mem_counters hfit⟩, hshort, ?_⟩
    rw [toLog, hparse]
    exact Log.ofColumns_eq_ok (fits_of_mem_counters hfit)

end Shape

end Snapshot

/-- A run of a recorder ends at the first announce for which there is no room, and at no other. Where
it comes through, every column has grown by one value for each announce; and if all times can be read,
the snapshot makes a log exactly if it did before the run, and complains of the same column. -/
theorem recordAll_grows (s : Snapshot) (zone : Zone) (announces : List Announce) :
    (∀ fault, s.recordAll zone announces = .error fault ↔ fault = .countOverflow ∧
      ∃ front a rest, announces = front ++ a :: rest ∧ s.StopsAt zone front a) ∧
    ∀ after, s.recordAll zone announces = .ok after →
      s.Grown zone announces after ∧
      ∀ reader, (∀ text ∈ after.times, (parse? reader text).isSome) →
        ((∃ log, after.toLog reader = .ok log) ↔ ∃ log, s.toLog reader = .ok log) ∧
        ∀ kind expected actual,
          after.toLog reader = .error (.lengthMismatch kind expected actual) ↔
            ∃ shortExpected shortActual,
              s.toLog reader = .error (.lengthMismatch kind shortExpected shortActual) ∧
              expected = shortExpected + announces.length ∧
              actual = shortActual + announces.length := by
  refine ⟨fun fault => Snapshot.recordAll_eq_error_iff, ?_⟩
  intro after hrun
  have hgrown := Snapshot.grown_of_recordAll hrun
  refine ⟨hgrown, ?_⟩
  intro reader hread
  rcases hgrown.toLog_cases hread with
    ⟨log, longer, hshort, hlong⟩ | ⟨kind, expected, actual, hshort, hlong⟩
  · simp [hshort, hlong]
  · simp [hshort, hlong, eq_comm]

/-- Columns of three lengths, and a count that has room for two announces. -/
private def unevenSnapshot : Snapshot :=
  ⟨some (.series [5]), ["2001-01-01T00:00:00Z"], [18446744073709551613], []⟩

private def twoAnnounces : List Announce :=
  [⟨⟨86400, 3, by decide⟩, true⟩, ⟨⟨1435708799, 1750000000, by decide⟩, false⟩]

private def grownSnapshot : Snapshot where
  torrents := some (.series [5, 5, 5])
  times := ["2001-01-01T00:00:00Z", "1970-01-02 05:30:00", "2015-07-01 05:29:60"]
  connections := [18446744073709551613, 18446744073709551614, 18446744073709551615]
  completed := [1, 1]

/-- The columns stay uneven by as much as they were, and a third announce finds no room. -/
theorem recordAll_grows_uneven :
    unevenSnapshot.recordAll .kolkata twoAnnounces = .ok grownSnapshot ∧
      unevenSnapshot.Grown .kolkata twoAnnounces grownSnapshot ∧
      (∀ text ∈ grownSnapshot.times, (parse? .kolkata text).isSome) ∧
      unevenSnapshot.toLog .kolkata = .error (.lengthMismatch .completed 1 0) ∧
      grownSnapshot.toLog .kolkata = .error (.lengthMismatch .completed 3 2) ∧
      unevenSnapshot.recordAll .kolkata (twoAnnounces ++ [⟨⟨0, 3, by decide⟩, false⟩]) =
        .error .countOverflow := by
  have hrun : unevenSnapshot.recordAll .kolkata twoAnnounces = .ok grownSnapshot := by
    decide +kernel
  have hread : ∀ text ∈ grownSnapshot.times, (parse? .kolkata text).isSome := by
    decide +kernel
  have hshort : unevenSnapshot.toLog .kolkata = .error (.lengthMismatch .completed 1 0) := by
    decide +kernel
  obtain ⟨hgrown, houtcome⟩ :=
    (recordAll_grows unevenSnapshot .kolkata twoAnnounces).2 grownSnapshot hrun
  have hlong := ((houtcome .kolkata hread).2 .completed 3 2).mpr ⟨1, 0, hshort, rfl, rfl⟩
  refine ⟨hrun, hgrown, hread, hshort, hlong, ?_⟩
  refine ((recordAll_grows unevenSnapshot .kolkata _).1 .countOverflow).mpr
    ⟨rfl, twoAnnounces, _, [], rfl, ?_, grownSnapshot, hrun, .inl (by decide)⟩
  exact fun earlier b later hsplit => Snapshot.not_isFull_of_recordAll hrun hsplit

end CounterBoard
