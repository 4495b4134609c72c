import CounterBoard.Proofs.ServerZone
import CounterBoard.Proofs.WallText

/-!
The times that a recorder notes, read back. A recorder notes local time in whole seconds and no word
of the zone, and in the same zone the note names the second at which it was made. Only a note made
in the last hour of summer is taken for one made an hour later, when the clocks showed the same.
-/

set_option autoImplicit false
set_option relaxedAutoImplicit false

namespace CounterBoard.Time

namespace Instant

/-- The second that holds an instant, a leap second as itself. -/
def wholeSecond (t : Instant) : Instant where
  seconds := t.seconds
  nanos := if t.isLeap then nanosPerSecond else 0
  valid := by
    refine ⟨t.valid.1, t.valid.2.1, ?_, ?_⟩
    · split <;> decide
    · split
      · next hleap => exact fun _ => t.valid.2.2.2 (of_decide_eq_true hleap)
      · exact fun h => absurd h (by decide)

private theorem wholeSecond_nanos_of_leap {t : Instant} (h : nanosPerSecond ≤ t.nanos) :
    t.wholeSecond.nanos = nanosPerSecond :=
  if_pos (decide_eq_true h)

private theorem wholeSecond_nanos_of_not_leap {t : Instant} (h : ¬ nanosPerSecond ≤ t.nanos) :
    t.wholeSecond.nanos = 0 :=
  if_neg fun hleap => h (of_decide_eq_true hleap)

theorem wholeSecond_le {s t : Instant} (h : s ≤ t) : s.wholeSecond ≤ t.wholeSecond := by
  rw [le_iff] at *
  change s.seconds < t.seconds ∨ s.seconds = t.seconds ∧ s.wholeSecond.nanos ≤ t.wholeSecond.nanos
  by_cases hs : nanosPerSecond ≤ s.nanos
  · by_cases ht : nanosPerSecond ≤ t.nanos
    · rw [wholeSecond_nanos_of_leap hs, wholeSecond_nanos_of_leap ht]
      omega
    · omega
  · rw [wholeSecond_nanos_of_not_leap hs]
    omega

theorem ofWall_wholeSecond (t : Instant) (wall : Int) :
    ({ Clock.ofWall wall t.nanos with fraction := 0 } : Clock) =
      .ofWall wall t.wholeSecond.nanos := by
  have hnanos : t.nanos < 2 * nanosPerSecond := t.valid.2.2.1
  by_cases hleap : nanosPerSecond ≤ t.nanos
  · have hquot : t.nanos / nanosPerSecond = 1 := by
      rw [nanosPerSecond] at *
      omega
    rw [wholeSecond_nanos_of_leap hleap]
    simp only [Clock.ofWall, hquot]
    rfl
  · have hquot : t.nanos / nanosPerSecond = 0 := Nat.div_eq_of_lt (Nat.lt_of_not_le hleap)
    rw [wholeSecond_nanos_of_not_leap hleap]
    simp only [Clock.ofWall, hquot]
    rfl

end Instant

/-- A recorded time is read back as the second at which it was noted, in every year of the calendar,
but for the summer side of the hour that the end of summer repeats. -/
theorem parse?_localText {zone : Zone} (hzone : zone.IsRegular) {t : Instant}
    (hyear : yearInRange (t.localClock zone).date.year = true)
    (honce : ¬ zone.ShowsAgain t.seconds) :
    parse? zone (String.ofList (t.localText zone)) = some t.wholeSecond := by
  have hminutes := (Zone.offsetAt_bounds hzone t.seconds).2.2
  have hleap : nanosPerSecond ≤ t.wholeSecond.nanos →
      (t.seconds + zone.offsetAt t.seconds) % 60 = 59 := by
    intro h
    have hsixty : t.seconds % 60 = 59 := t.wholeSecond.valid.2.2.2 h
    omega
  have hwall := Clock.toWall_ofWall t.wholeSecond.valid.2.2.1 hleap
  have hpart : Instant.ofParts?
      (t.seconds + zone.offsetAt t.seconds - zone.offsetAt t.seconds) t.wholeSecond.nanos =
        some t.wholeSecond := by
    rw [Int.add_sub_cancel]
    exact Instant.ofParts?_eq_some_iff.mpr ⟨rfl, rfl⟩
  rw [Instant.localText, Instant.localClock,
    parse?_plainText zone (Clock.isValid_ofWall _ t.valid.2.2.1), t.ofWall_wholeSecond]
  change yearInRange (Clock.ofWall (t.seconds + zone.offsetAt t.seconds)
    t.wholeSecond.nanos).date.year = true at hyear
  simp only [instantOfWall?, hyear, hwall, Zone.offsetOfWall?_add_offsetAt hzone honce, hpart, guard,
    if_true, Option.bind_eq_bind, Option.bind_some, Option.pure_def]

theorem Instant.exists_hour_later {zone : Zone} (hzone : zone.IsRegular) {t : Instant}
    (hrepeated : zone.InRepeatedHour t.seconds) :
    ∃ u : Instant, u.seconds = t.seconds + 3600 ∧ u.nanos = t.nanos := by
  have hvalid := t.valid
  have hroom : t.seconds + 3600 ≤ lastSecond := by
    cases zone with
    | fixed offset => exact hrepeated.elim
    | seasonal standard summer starts ends =>
      obtain ⟨hlow, -, -, hgain, -, hends, -⟩ := hzone
      obtain ⟨-, hbefore⟩ := hrepeated
      obtain ⟨hyear, -⟩ := Zone.yearOfSecond_spec t.seconds
      have hstop := (hends.wall_inside (Zone.yearOfSecond t.seconds)).2
      have hend : firstDay 262143 * secondsPerDay = lastSecond + 1 := by decide
      have hlast : Zone.yearOfSecond t.seconds + 1 ≤ 262143 := by
        by_contra hlate
        have hmono := daysBeforeYear_le (y := 262143) (z := Zone.yearOfSecond t.seconds) (by omega)
        have hle := hvalid.2.1
        simp only [firstDay, secondsPerDay] at *
        omega
      have hmono := daysBeforeYear_le hlast
      simp only [firstDay, secondsPerDay] at *
      omega
  have hlater : Representable (t.seconds + 3600) t.nanos := by
    obtain ⟨hfirst, -, hnanos, hleap⟩ := hvalid
    refine ⟨by omega, hroom, hnanos, ?_⟩
    intro h
    have := hleap h
    omega
  exact ⟨⟨t.seconds + 3600, t.nanos, hlater⟩, rfl, rfl⟩

theorem parse?_localText_of_showsAgain {zone : Zone} (hzone : zone.IsRegular) {t u : Instant}
    (hyear : yearInRange (t.localClock zone).date.year = true) (hagain : zone.ShowsAgain t.seconds)
    (hseconds : u.seconds = t.seconds + 3600) (hnanos : u.nanos = t.nanos) :
    parse? zone (String.ofList (t.localText zone)) = some u.wholeSecond := by
  have hclock : u.localClock zone = t.localClock zone := by
    rw [Instant.localClock, Instant.localClock, hseconds, hnanos, hagain]
  have hlast : ¬ zone.ShowsAgain u.seconds := by
    rw [hseconds]
    exact Zone.not_showsAgain_add hzone hagain
  have htext : t.localText zone = u.localText zone := by
    rw [Instant.localText, Instant.localText, hclock]
  rw [htext]
  exact parse?_localText hzone (by rw [hclock]; exact hyear) hlast

theorem exists_parse?_localText {zone : Zone} (hzone : zone.IsRegular) {t : Instant}
    (hyear : yearInRange (t.localClock zone).date.year = true) :
    ∃ u, parse? zone (String.ofList (t.localText zone)) = some u ∧
      u.seconds = (if zone.InRepeatedHour t.seconds then t.seconds + 3600 else t.seconds) ∧
      u.nanos = (if t.isLeap then nanosPerSecond else 0) ∧
      u.localClock zone = t.wholeSecond.localClock zone ∧
      ¬ zone.InRepeatedHour u.seconds := by
  by_cases hrepeated : zone.InRepeatedHour t.seconds
  · have hagain := (Zone.showsAgain_iff hzone t.seconds).mpr hrepeated
    obtain ⟨u, hseconds, hnanos⟩ := Instant.exists_hour_later hzone hrepeated
    have hleap : u.isLeap = t.isLeap := by
      rw [Instant.isLeap, Instant.isLeap, hnanos]
    have hwhole : u.wholeSecond.nanos = t.wholeSecond.nanos := by
      simp only [Instant.wholeSecond, hleap]
    refine ⟨u.wholeSecond, parse?_localText_of_showsAgain hzone hyear hagain hseconds hnanos,
      ?_, hwhole, ?_, ?_⟩
    · rw [if_pos hrepeated]
      exact hseconds
    · change Clock.ofWall (u.seconds + zone.offsetAt u.seconds) u.wholeSecond.nanos =
        .ofWall (t.seconds + zone.offsetAt t.seconds) t.wholeSecond.nanos
      rw [hwhole, hseconds, hagain]
    · change ¬ zone.InRepeatedHour u.seconds
      rw [hseconds, ← Zone.showsAgain_iff hzone]
      exact Zone.not_showsAgain_add hzone hagain
  · have honce : ¬ zone.ShowsAgain t.seconds := by
      rwa [Zone.showsAgain_iff hzone]
    refine ⟨t.wholeSecond, parse?_localText hzone hyear honce, ?_, rfl, rfl, hrepeated⟩
    rw [if_neg hrepeated]
    rfl

end CounterBoard.Time
