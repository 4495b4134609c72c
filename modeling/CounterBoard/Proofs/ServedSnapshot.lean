import CounterBoard.Proofs.OffsetText
import CounterBoard.Proofs.Recording

/-!
A log that was read from a snapshot, served as a snapshot and read again. Serving keeps every column
and writes the instants in UTC, so whoever reads it next has the same log, in whatever zone, as long
as all years are plain; the first year that is not is the one that is complained of.
-/

set_option autoImplicit false
set_option relaxedAutoImplicit false

namespace CounterBoard

open CounterBoard.Time

theorem Log.of_ofColumns_eq_ok {times : List Instant} {counters : List Counter} {log : Log}
    (h : ofColumns times counters = .ok log) : log.times = times ∧ log.counters = counters := by
  unfold ofColumns at h
  split at h
  · cases h
  · cases h
    exact ⟨rfl, rfl⟩

theorem Snapshot.of_toLog_eq_ok {s : Snapshot} {zone : Zone} {log : Log}
    (h : s.toLog zone = .ok log) :
    parseTimes zone 0 s.times = .ok log.times ∧ log.counters = s.counters := by
  obtain ⟨times, htimes, hcolumns⟩ := exists_of_bind_eq_ok h
  obtain ⟨rfl, hcounters⟩ := Log.of_ofColumns_eq_ok hcolumns
  exact ⟨htimes, hcounters⟩

theorem parseTimes_eq_error {zone : Zone} {texts : List String} {place : Nat} {text : String}
    (htext : texts[place]? = some text) (hbad : parse? zone text = none)
    (hgood : ∀ before earlier, before < place → texts[before]? = some earlier →
      (parse? zone earlier).isSome) (index : Nat) :
    parseTimes zone index texts = .error (.invalidTimestamp (index + place) text) := by
  induction texts generalizing place index with
  | nil => cases htext
  | cons first texts ih =>
    cases place with
    | zero =>
      cases htext
      rw [parseTimes, hbad]
      rfl
    | succ place =>
      obtain ⟨instant, hfirst⟩ := Option.isSome_iff_exists.mp
        (hgood 0 first (Nat.succ_pos place) rfl)
      have hrest : parseTimes zone (index + 1) texts =
          .error (.invalidTimestamp (index + 1 + place) text) := by
        refine ih htext ?_ (index + 1)
        intro before earlier hbefore hearlier
        exact hgood (before + 1) earlier (Nat.succ_lt_succ hbefore) hearlier
      rw [parseTimes, hfirst]
      change (parseTimes zone (index + 1) texts >>= fun instants => _) = _
      rw [hrest, Nat.add_assoc, Nat.add_comm 1 place]
      rfl

theorem forall_or_exists_first {α : Type} (p : α → Prop) [DecidablePred p] (l : List α) :
    (∀ a ∈ l, p a) ∨ ∃ (place : Nat) (a : α), l[place]? = some a ∧ ¬ p a ∧
      ∀ before b, before < place → l[before]? = some b → p b := by
  induction l with
  | nil => exact .inl (by simp)
  | cons a l ih =>
    by_cases ha : p a
    · rcases ih with hall | ⟨place, b, hb, hfail, hfront⟩
      · exact .inl (by simpa [ha] using hall)
      · refine .inr ⟨place + 1, b, hb, hfail, ?_⟩
        rintro (_ | before) c hbefore hc
        · cases hc
          exact ha
        · exact hfront before c (Nat.lt_of_succ_lt_succ hbefore) hc
    · refine .inr ⟨0, a, rfl, ha, ?_⟩
      intro before b hbefore
      cases hbefore

def offsetTexts (times : List Instant) : List String :=
  times.map fun t => String.ofList t.offsetText

theorem parseTimes_offsetTexts (zone : Zone) {times : List Instant}
    (h : ∀ t ∈ times, t.HasPlainYear) (index : Nat) :
    parseTimes zone index (offsetTexts times) = .ok times := by
  have hread : ∀ t ∈ times, parse? zone (String.ofList t.offsetText) = some (id t) := by
    intro t ht
    rw [parse?_offsetText, if_pos (h t ht)]
    rfl
  have hparse := parseTimes_eq_ok hread index
  rwa [List.map_id] at hparse

theorem parseTimes_offsetTexts_of_not (zone : Zone) {times : List Instant} {place : Nat}
    {t : Instant} (ht : times[place]? = some t) (hyear : ¬ t.HasPlainYear)
    (hfront : ∀ before u, before < place → times[before]? = some u → u.HasPlainYear)
    (index : Nat) :
    parseTimes zone index (offsetTexts times) =
      .error (.invalidTimestamp (index + place) (String.ofList t.offsetText)) := by
  apply parseTimes_eq_error
  · rw [offsetTexts, List.getElem?_map, ht]
    rfl
  · rw [parse?_offsetText, if_neg hyear]
  · intro before earlier hbefore hearlier
    rw [offsetTexts, List.getElem?_map] at hearlier
    obtain ⟨u, hu, rfl⟩ := Option.map_eq_some_iff.mp hearlier
    rw [parse?_offsetText, if_pos (hfront before u hbefore hu)]
    rfl

namespace Snapshot

theorem ofLog_of_counters_eq {s : Snapshot} {log : Log} (h : log.counters = s.counters) :
    ofLog log = { s with times := offsetTexts log.times } := by
  rcases s with ⟨torrents, times, connections, completed⟩
  rw [ofLog, h]
  rcases torrents with _ | value | column <;> rfl

/-- What is served can be read again. The log comes back as it was, in any zone, exactly if all its
years are plain; otherwise the first instant whose year is not is complained of, with its text. -/
theorem toLog_ofLog_of_toLog {zone : Zone} {s : Snapshot} {log : Log} (h : s.toLog zone = .ok log)
    (next : Zone) :
    ((ofLog log).toLog next = .ok log ↔ ∀ t ∈ log.times, t.HasPlainYear) ∧
      ∀ place t, log.times[place]? = some t → ¬ t.HasPlainYear →
        (∀ before u, before < place → log.times[before]? = some u → u.HasPlainYear) →
          (ofLog log).toLog next =
            .error (.invalidTimestamp place (String.ofList t.offsetText)) := by
  have hcounters := (of_toLog_eq_ok h).2
  have hserved := ofLog_of_counters_eq hcounters
  have hplain : (∀ t ∈ log.times, t.HasPlainYear) → (ofLog log).toLog next = .ok log := by
    intro hyears
    rw [hserved, toLog, parseTimes_offsetTexts next hyears]
    change Log.ofColumns log.times s.counters = .ok log
    rw [← hcounters]
    exact Log.ofColumns_eq_ok log.aligned
  have hfirst : ∀ place t, log.times[place]? = some t → ¬ t.HasPlainYear →
      (∀ before u, before < place → log.times[before]? = some u → u.HasPlainYear) →
        (ofLog log).toLog next =
          .error (.invalidTimestamp place (String.ofList t.offsetText)) := by
    intro place t ht hyear hfront
    rw [hserved, toLog, parseTimes_offsetTexts_of_not next ht hyear hfront, Nat.zero_add]
    rfl
  refine ⟨⟨?_, hplain⟩, hfirst⟩
  intro hagain
  rcases forall_or_exists_first Instant.HasPlainYear log.times with
    hyears | ⟨place, t, ht, hyear, hfront⟩
  · exact hyears
  · rw [hfirst place t ht hyear hfront] at hagain
    cases hagain

private def earlyInstant : Instant :=
  ⟨-62167219201, 0, by decide⟩

private def earlyAnnounces : List Announce :=
  [⟨⟨1435708799, 1000000000, by decide⟩, true⟩, ⟨earlyInstant, false⟩]

theorem toLog_ofLog_of_earlyAnnounces :
    ∃ log, (counting 7 .utc earlyAnnounces).toLog .utc = .ok log ∧ log.times.length = 2 ∧
      (ofLog log).toLog .sydney ≠ .ok log ∧
      (ofLog log).toLog .sydney =
        .error (.invalidTimestamp 1 "-0001-12-31T23:59:59+00:00") := by
  have hlog : (counting 7 .utc earlyAnnounces).toLog .utc =
      .ok (announceLog 7 .utc earlyAnnounces) :=
    toLog_counting 7 (by decide) (by decide) (by decide)
  have htext : String.ofList earlyInstant.offsetText = "-0001-12-31T23:59:59+00:00" := by decide
  have hyear : ¬ earlyInstant.HasPlainYear := by decide
  have hearly : (announceLog 7 .utc earlyAnnounces).times[1]? = some earlyInstant := rfl
  obtain ⟨hagain, herror⟩ := toLog_ofLog_of_toLog hlog .sydney
  refine ⟨_, hlog, rfl, ?_, ?_⟩
  · intro hsame
    exact hyear (hagain.mp hsame earlyInstant (List.mem_of_getElem? hearly))
  · rw [← htext]
    apply herror 1 earlyInstant hearly hyear
    rintro (_ | before) u hbefore hu
    · cases hu
      decide
    · omega

end Snapshot

end CounterBoard
