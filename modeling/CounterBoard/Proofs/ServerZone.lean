import CounterBoard.Proofs.Calendar

/-!
Wall clocks of the zones that a server runs in. What they show names the second at which they show it,
but for the hour that the end of summer repeats: there, a reading takes the standard time.
-/

set_option autoImplicit false
set_option relaxedAutoImplicit false

namespace CounterBoard.Time

/-- The earliest day on which a change falls in a common year, counted from the first of January. -/
def Change.earliest (c : Change) : Nat :=
  daysIn ((monthLengths false).take (c.month - 1)) + 7 * (c.week - 1)

/-- A change that falls on a time of its day, and keeps away from the turn of the year. -/
structure Change.IsMidyear (c : Change) : Prop where
  second_nonneg : 0 ≤ c.second
  second_le : c.second ≤ 86400
  two_le : 2 ≤ c.earliest
  earliest_le : c.earliest ≤ 354

instance (c : Change) : Decidable c.IsMidyear :=
  decidable_of_iff (0 ≤ c.second ∧ c.second ≤ 86400 ∧ 2 ≤ c.earliest ∧ c.earliest ≤ 354)
    ⟨fun h => ⟨h.1, h.2.1, h.2.2.1, h.2.2.2⟩,
      fun h => ⟨h.second_nonneg, h.second_le, h.two_le, h.earliest_le⟩⟩

private theorem daysIn_take_bounds (leap : Bool) (months : Nat) :
    daysIn ((monthLengths false).take months) ≤ daysIn ((monthLengths leap).take months) ∧
      daysIn ((monthLengths leap).take months) ≤
        daysIn ((monthLengths false).take months) + 1 := by
  cases leap with
  | false => omega
  | true =>
    rcases months with _ | _ | months
    · decide
    · decide
    · simp only [monthLengths, List.take_succ_cons, daysIn]
      simp only [Bool.false_eq_true, if_false, if_true]
      omega

namespace Change

theorem wall_bounds (c : Change) (year : Int) :
    (firstDay year + c.earliest) * secondsPerDay + c.second ≤ c.wall year ∧
      c.wall year ≤ (firstDay year + c.earliest + 7) * secondsPerDay + c.second := by
  obtain ⟨hlow, hhigh⟩ := sundayOfMonth_bounds year c.month c.week
  obtain ⟨hcommon, hleap⟩ := daysIn_take_bounds (isLeapYear year) (c.month - 1)
  simp only [wall, earliest, secondsPerDay]
  omega

theorem IsMidyear.wall_inside {c : Change} (h : c.IsMidyear) (year : Int) :
    (firstDay year + 2) * secondsPerDay ≤ c.wall year ∧
      c.wall year ≤ (firstDay (year + 1) - 2) * secondsPerDay := by
  obtain ⟨hlow, hhigh⟩ := c.wall_bounds year
  obtain ⟨hshort, -⟩ := yearLength_bounds year
  have hnext := firstDay_succ year
  have hnonneg := h.second_nonneg
  have hle := h.second_le
  have htwo := h.two_le
  have hearliest := h.earliest_le
  simp only [secondsPerDay] at *
  omega

theorem IsMidyear.wall_lt {c d : Change} (hc : c.IsMidyear) (hd : d.IsMidyear)
    (h : c.earliest + 9 ≤ d.earliest) (year : Int) : c.wall year + secondsPerDay ≤ d.wall year := by
  have hfirst := (c.wall_bounds year).2
  have hsecond := (d.wall_bounds year).1
  have hle := hc.second_le
  have hnonneg := hd.second_nonneg
  simp only [secondsPerDay] at *
  omega

end Change

namespace Zone

def servers : List Zone :=
  [utc, kolkata, newYork, sydney]

/-- Whether an hour later the wall clocks show again what they show at a second. Such a second lies
on the summer side of the hour that the end of summer repeats. -/
def ShowsAgain (zone : Zone) (seconds : Int) : Prop :=
  seconds + 3600 + zone.offsetAt (seconds + 3600) = seconds + zone.offsetAt seconds

instance (zone : Zone) (seconds : Int) : Decidable (zone.ShowsAgain seconds) :=
  inferInstanceAs (Decidable (_ = _))

/-- The second lies in the last hour of summer, the one that wall clocks show twice. -/
def InRepeatedHour : Zone → Int → Prop
  | .fixed _, _ => False
  | .seasonal standard summer _ ends, seconds =>
    ends.wall (yearOfSecond seconds) - summer - (summer - standard) ≤ seconds ∧
      seconds < ends.wall (yearOfSecond seconds) - summer

instance : (zone : Zone) → (seconds : Int) → Decidable (zone.InRepeatedHour seconds)
  | .fixed _, _ => inferInstanceAs (Decidable False)
  | .seasonal .., _ => inferInstanceAs (Decidable (_ ∧ _))

/-- Offsets are whole minutes and at most half a day. Where there is a summer, it brings the
clocks forward by an hour, and its changes keep away from each other and from the turn of the
year. -/
def IsRegular : Zone → Prop
  | .fixed offset => -43200 ≤ offset ∧ offset ≤ 43200 ∧ offset % 60 = 0
  | .seasonal standard summer starts ends =>
    -43200 ≤ standard ∧ summer ≤ 43200 ∧ standard % 60 = 0 ∧ summer = standard + 3600 ∧
      starts.IsMidyear ∧ ends.IsMidyear ∧
        (starts.earliest + 9 ≤ ends.earliest ∨ ends.earliest + 9 ≤ starts.earliest)

theorem isRegular_of_mem_servers {zone : Zone} (h : zone ∈ servers) : zone.IsRegular := by
  simp only [servers, List.mem_cons, List.not_mem_nil, or_false] at h
  rcases h with rfl | rfl | rfl | rfl <;> simp only [utc, kolkata, newYork, sydney, IsRegular] <;>
    decide

theorem offsetAt_seasonal (standard summer : Int) (starts ends : Change) (seconds : Int) :
    (seasonal standard summer starts ends).offsetAt seconds = summer ∨
      (seasonal standard summer starts ends).offsetAt seconds = standard := by
  simp only [offsetAt]
  exact (ite_eq_or_eq _ summer standard)

theorem offsetAt_bounds {zone : Zone} (h : zone.IsRegular) (seconds : Int) :
    -43200 ≤ zone.offsetAt seconds ∧ zone.offsetAt seconds ≤ 43200 ∧
      zone.offsetAt seconds % 60 = 0 := by
  cases zone with
  | fixed offset => exact h
  | seasonal standard summer starts ends =>
    obtain ⟨hlow, hhigh, hminutes, hgain, -⟩ := h
    simp only [offsetAt]
    split <;> omega

section

variable {standard : Int} {starts ends : Change} {seconds wall year : Int}

private theorem northern_order (standard : Int)
    (hapart : ∀ year, starts.wall year + secondsPerDay ≤ ends.wall year) (year : Int) :
    starts.wall year ≤ ends.wall year ∧
      starts.wall year - standard ≤ ends.wall year - (standard + 3600) := by
  have hgap := hapart year
  simp only [secondsPerDay] at hgap
  omega

private theorem southern_order (standard : Int)
    (hapart : ∀ year, ends.wall year + secondsPerDay ≤ starts.wall year) (year : Int) :
    ¬ starts.wall year ≤ ends.wall year ∧
      ¬ starts.wall year - standard ≤ ends.wall year - (standard + 3600) := by
  have hgap := hapart year
  simp only [secondsPerDay] at hgap
  omega

private theorem offsetAt_northern (standard : Int)
    (hapart : ∀ year, starts.wall year + secondsPerDay ≤ ends.wall year)
    (hyear : yearOfSecond seconds = year) :
    (seasonal standard (standard + 3600) starts ends).offsetAt seconds =
      if starts.wall year - standard ≤ seconds ∧ seconds < ends.wall year - (standard + 3600) then
        standard + 3600
      else standard := by
  simp only [offsetAt, hyear, (northern_order standard hapart year).2, if_true]

private theorem offsetAt_southern (standard : Int)
    (hapart : ∀ year, ends.wall year + secondsPerDay ≤ starts.wall year)
    (hyear : yearOfSecond seconds = year) :
    (seasonal standard (standard + 3600) starts ends).offsetAt seconds =
      if seconds < ends.wall year - (standard + 3600) ∨ starts.wall year - standard ≤ seconds then
        standard + 3600
      else standard := by
  simp only [offsetAt, hyear, (southern_order standard hapart year).2, if_false]

private theorem offsetOfWall?_northern
    (hapart : ∀ year, starts.wall year + secondsPerDay ≤ ends.wall year)
    (hyear : yearOfSecond wall = year) :
    (seasonal standard (standard + 3600) starts ends).offsetOfWall? wall =
      if wall ≤ starts.wall year then some standard
      else if wall < starts.wall year + 3600 then none
      else if wall < ends.wall year - 3600 then some (standard + 3600)
      else some standard := by
  have hgain : standard + 3600 - standard = 3600 := by omega
  simp only [offsetOfWall?, hyear, (northern_order standard hapart year).1, if_true, hgain]

private theorem offsetOfWall?_southern
    (hapart : ∀ year, ends.wall year + secondsPerDay ≤ starts.wall year)
    (hyear : yearOfSecond wall = year) :
    (seasonal standard (standard + 3600) starts ends).offsetOfWall? wall =
      if wall < ends.wall year - 3600 then some (standard + 3600)
      else if wall < starts.wall year then some standard
      else if wall < starts.wall year + 3600 then none
      else some (standard + 3600) := by
  have hgain : standard + 3600 - standard = 3600 := by omega
  simp only [offsetOfWall?, hyear, (southern_order standard hapart year).1, if_false, hgain]

private theorem exists_year (hstarts : starts.IsMidyear) (hends : ends.IsMidyear) (seconds : Int) :
    ∃ year, yearOfSecond seconds = year ∧
      (firstDay year * secondsPerDay ≤ seconds ∧
        seconds < firstDay (year + 1) * secondsPerDay) ∧
      ((firstDay year + 2) * secondsPerDay ≤ starts.wall year ∧
        starts.wall year ≤ (firstDay (year + 1) - 2) * secondsPerDay) ∧
      (firstDay year + 2) * secondsPerDay ≤ ends.wall year ∧
        ends.wall year ≤ (firstDay (year + 1) - 2) * secondsPerDay :=
  ⟨_, rfl, yearOfSecond_spec seconds, hstarts.wall_inside _, hends.wall_inside _⟩

/-- A wall clock is half a day ahead or behind at most, so it shows the year of UTC or one next
to it. -/
private theorem yearOfSecond_add (seconds offset : Int) (hlow : -43200 ≤ offset)
    (hhigh : offset ≤ 43200) :
    (yearOfSecond (seconds + offset) = yearOfSecond seconds - 1 ∧
        seconds + offset < firstDay (yearOfSecond seconds) * secondsPerDay) ∨
      yearOfSecond (seconds + offset) = yearOfSecond seconds ∨
      (yearOfSecond (seconds + offset) = yearOfSecond seconds + 1 ∧
        firstDay (yearOfSecond seconds + 1) * secondsPerDay ≤ seconds + offset) := by
  obtain ⟨hle, hlt⟩ := yearOfSecond_spec seconds
  generalize yearOfSecond seconds = year at *
  have hbefore := firstDay_succ (year - 1)
  have hafter := firstDay_succ (year + 1)
  have hlengths := And.intro (yearLength_bounds (year - 1)) (yearLength_bounds (year + 1))
  rw [Int.sub_add_cancel] at hbefore
  by_cases hprevious : seconds + offset < firstDay year * secondsPerDay
  · refine .inl ⟨yearOfSecond_eq ?_ ?_, hprevious⟩
    · simp only [secondsPerDay] at *
      omega
    · rwa [Int.sub_add_cancel]
  · by_cases hnext : firstDay (year + 1) * secondsPerDay ≤ seconds + offset
    · refine .inr (.inr ⟨yearOfSecond_eq hnext ?_, hnext⟩)
      simp only [secondsPerDay] at *
      omega
    · exact .inr (.inl (yearOfSecond_eq (Int.not_lt.mp hprevious) (Int.not_le.mp hnext)))

private theorem showsAgain_northern_iff (hlow : -43200 ≤ standard)
    (hhigh : standard + 3600 ≤ 43200) (hstarts : starts.IsMidyear) (hends : ends.IsMidyear)
    (hapart : ∀ year, starts.wall year + secondsPerDay ≤ ends.wall year) :
    (seasonal standard (standard + 3600) starts ends).ShowsAgain seconds ↔
      (seasonal standard (standard + 3600) starts ends).InRepeatedHour seconds := by
  obtain ⟨year, hyear, hinside, hstart, hstop⟩ := exists_year hstarts hends seconds
  have hoffset := offsetAt_northern standard hapart hyear
  have hgap := hapart year
  rw [ShowsAgain, InRepeatedHour, hyear]
  by_cases hsummer : starts.wall year - standard ≤ seconds ∧
      seconds < ends.wall year - (standard + 3600)
  · have hhour : yearOfSecond (seconds + 3600) = year := by
      apply yearOfSecond_eq <;> simp only [secondsPerDay] at * <;> omega
    rw [hoffset, if_pos hsummer, offsetAt_northern standard hapart hhour]
    simp only [secondsPerDay] at *
    split <;> omega
  · -- In winter the clocks are not set back, whatever they show an hour later.
    have hlater := offsetAt_seasonal standard (standard + 3600) starts ends (seconds + 3600)
    rw [hoffset, if_neg hsummer]
    simp only [secondsPerDay] at *
    omega

private theorem showsAgain_southern_iff (hlow : -43200 ≤ standard)
    (hhigh : standard + 3600 ≤ 43200) (hstarts : starts.IsMidyear) (hends : ends.IsMidyear)
    (hapart : ∀ year, ends.wall year + secondsPerDay ≤ starts.wall year) :
    (seasonal standard (standard + 3600) starts ends).ShowsAgain seconds ↔
      (seasonal standard (standard + 3600) starts ends).InRepeatedHour seconds := by
  obtain ⟨year, hyear, hinside, hstart, hstop⟩ := exists_year hstarts hends seconds
  have hoffset := offsetAt_southern standard hapart hyear
  have hgap := hapart year
  rw [ShowsAgain, InRepeatedHour, hyear]
  by_cases hautumn : seconds < ends.wall year - (standard + 3600)
  · have hhour : yearOfSecond (seconds + 3600) = year := by
      apply yearOfSecond_eq <;> simp only [secondsPerDay] at * <;> omega
    rw [hoffset, if_pos (.inl hautumn), offsetAt_southern standard hapart hhour]
    simp only [secondsPerDay] at *
    split <;> omega
  · have hkept : (seasonal standard (standard + 3600) starts ends).offsetAt seconds ≤
        (seasonal standard (standard + 3600) starts ends).offsetAt (seconds + 3600) := by
      rw [hoffset]
      split
      · next hsummer =>
        have hspring : starts.wall year - standard ≤ seconds := hsummer.resolve_left hautumn
        -- Summer that began in this year goes on in the next one.
        rcases yearOfSecond_add seconds 3600 (by omega) (by omega) with
          ⟨-, hbefore⟩ | hsame | ⟨hnext, -⟩
        · rw [hyear] at hbefore
          omega
        · have hlater := offsetAt_southern standard hapart (hsame.trans hyear)
          rw [if_pos (.inr (by omega))] at hlater
          exact Int.le_of_eq hlater.symm
        · have hnextStop := hends.wall_inside (year + 1)
          have hearly : seconds + 3600 < ends.wall (year + 1) - (standard + 3600) := by
            simp only [secondsPerDay] at *
            omega
          rw [hyear] at hnext
          have hlater := offsetAt_southern standard hapart hnext
          rw [if_pos (.inl hearly)] at hlater
          exact Int.le_of_eq hlater.symm
      · have hlater := offsetAt_seasonal standard (standard + 3600) starts ends (seconds + 3600)
        omega
    omega

private theorem offsetOfWall?_northern_local (hlow : -43200 ≤ standard)
    (hhigh : standard + 3600 ≤ 43200) (hstarts : starts.IsMidyear) (hends : ends.IsMidyear)
    (hapart : ∀ year, starts.wall year + secondsPerDay ≤ ends.wall year)
    (honce : ¬ (seasonal standard (standard + 3600) starts ends).ShowsAgain seconds) :
    (seasonal standard (standard + 3600) starts ends).offsetOfWall?
        (seconds + (seasonal standard (standard + 3600) starts ends).offsetAt seconds) =
      some ((seasonal standard (standard + 3600) starts ends).offsetAt seconds) := by
  obtain ⟨year, hyear, hinside, hstart, hstop⟩ := exists_year hstarts hends seconds
  have hyears := yearOfSecond_add seconds _ hlow (by omega)
  rw [hyear] at hyears
  have hoffset := offsetAt_northern standard hapart hyear
  have hgap := hapart year
  by_cases hsummer : starts.wall year - standard ≤ seconds ∧
      seconds < ends.wall year - (standard + 3600)
  · rw [if_pos hsummer] at hoffset
    have hwall : yearOfSecond (seconds + (standard + 3600)) = year := by
      apply yearOfSecond_eq <;> simp only [secondsPerDay] at * <;> omega
    -- What is left out is the summer side of the repeated hour.
    have hfirst : seconds + (standard + 3600) < ends.wall year - 3600 := by
      rw [showsAgain_northern_iff hlow hhigh hstarts hends hapart, InRepeatedHour, hyear] at honce
      omega
    rw [hoffset, offsetOfWall?_northern hapart hwall, if_neg (by omega), if_neg (by omega),
      if_pos (by omega)]
  · rw [if_neg hsummer] at hoffset
    rw [hoffset]
    rcases hyears with ⟨hwall, hprevious⟩ | hwall | ⟨hwall, hnext⟩
    · have hlast := hends.wall_inside (year - 1)
      have hfirst := hapart (year - 1)
      rw [Int.sub_add_cancel] at hlast
      simp only [secondsPerDay] at *
      rw [offsetOfWall?_northern hapart hwall, if_neg (by omega), if_neg (by omega),
        if_neg (by omega)]
    · rw [offsetOfWall?_northern hapart hwall]
      simp only [secondsPerDay] at *
      by_cases hspring : seconds + standard ≤ starts.wall year
      · rw [if_pos hspring]
      · rw [if_neg hspring, if_neg (by omega), if_neg (by omega)]
    · have hlast := hstarts.wall_inside (year + 1)
      simp only [secondsPerDay] at *
      rw [offsetOfWall?_northern hapart hwall, if_pos (by omega)]

private theorem offsetOfWall?_southern_local (hlow : -43200 ≤ standard)
    (hhigh : standard + 3600 ≤ 43200) (hstarts : starts.IsMidyear) (hends : ends.IsMidyear)
    (hapart : ∀ year, ends.wall year + secondsPerDay ≤ starts.wall year)
    (honce : ¬ (seasonal standard (standard + 3600) starts ends).ShowsAgain seconds) :
    (seasonal standard (standard + 3600) starts ends).offsetOfWall?
        (seconds + (seasonal standard (standard + 3600) starts ends).offsetAt seconds) =
      some ((seasonal standard (standard + 3600) starts ends).offsetAt seconds) := by
  obtain ⟨year, hyear, hinside, hstart, hstop⟩ := exists_year hstarts hends seconds
  have hearly : -43200 ≤ standard + 3600 := by omega
  have hyears := yearOfSecond_add seconds _ hearly hhigh
  rw [hyear] at hyears
  have hoffset := offsetAt_southern standard hapart hyear
  have hgap := hapart year
  by_cases hsummer : seconds < ends.wall year - (standard + 3600) ∨
      starts.wall year - standard ≤ seconds
  · rw [if_pos hsummer] at hoffset
    rw [hoffset]
    rcases hyears with ⟨hwall, hprevious⟩ | hwall | ⟨hwall, hnext⟩
    · have hlast := hstarts.wall_inside (year - 1)
      have hfirst := hapart (year - 1)
      rw [Int.sub_add_cancel] at hlast
      simp only [secondsPerDay] at *
      rw [offsetOfWall?_southern hapart hwall, if_neg (by omega), if_neg (by omega),
        if_neg (by omega)]
    · rw [offsetOfWall?_southern hapart hwall]
      rcases hsummer with hautumn | hspring
      · have hfirst : seconds + (standard + 3600) < ends.wall year - 3600 := by
          rw [showsAgain_southern_iff hlow hhigh hstarts hends hapart, InRepeatedHour,
            hyear] at honce
          omega
        rw [if_pos (by omega)]
      · simp only [secondsPerDay] at *
        rw [if_neg (by omega), if_neg (by omega), if_neg (by omega)]
    · have hlast := hends.wall_inside (year + 1)
      simp only [secondsPerDay] at *
      rw [offsetOfWall?_southern hapart hwall, if_pos (by omega)]
  · rw [if_neg hsummer] at hoffset
    have hwall : yearOfSecond (seconds + standard) = year := by
      apply yearOfSecond_eq <;> simp only [secondsPerDay] at * <;> omega
    rw [hoffset, offsetOfWall?_southern hapart hwall, if_neg (by omega), if_pos (by omega)]

end

/-- The clocks show a second again an hour later exactly in the last hour of summer. -/
theorem showsAgain_iff {zone : Zone} (h : zone.IsRegular) (seconds : Int) :
    zone.ShowsAgain seconds ↔ zone.InRepeatedHour seconds := by
  cases zone with
  | fixed offset =>
    constructor
    · intro hagain
      simp only [ShowsAgain, offsetAt] at hagain
      omega
    · exact False.elim
  | seasonal standard summer starts ends =>
    obtain ⟨hlow, hhigh, -, rfl, hstarts, hends, hapart | hapart⟩ := h
    · exact showsAgain_northern_iff hlow hhigh hstarts hends (hstarts.wall_lt hends hapart)
    · exact showsAgain_southern_iff hlow hhigh hstarts hends (hends.wall_lt hstarts hapart)

theorem not_showsAgain_add {zone : Zone} (h : zone.IsRegular) {seconds : Int}
    (hagain : zone.ShowsAgain seconds) : ¬ zone.ShowsAgain (seconds + 3600) := by
  cases zone with
  | fixed offset =>
    simp only [ShowsAgain, offsetAt] at hagain
    omega
  | seasonal standard summer starts ends =>
    obtain ⟨-, -, -, hgain, -⟩ := h
    have hfirst := offsetAt_seasonal standard summer starts ends seconds
    have hsecond := offsetAt_seasonal standard summer starts ends (seconds + 3600)
    have hthird := offsetAt_seasonal standard summer starts ends (seconds + 3600 + 3600)
    intro hthrice
    rw [ShowsAgain] at hagain hthrice
    omega

/-- A wall clock is read as it was set, unless it shows the same again an hour later. -/
theorem offsetOfWall?_add_offsetAt {zone : Zone} (h : zone.IsRegular) {seconds : Int}
    (honce : ¬ zone.ShowsAgain seconds) :
    zone.offsetOfWall? (seconds + zone.offsetAt seconds) = some (zone.offsetAt seconds) := by
  cases zone with
  | fixed offset => rfl
  | seasonal standard summer starts ends =>
    obtain ⟨hlow, hhigh, -, rfl, hstarts, hends, hapart | hapart⟩ := h
    · exact offsetOfWall?_northern_local hlow hhigh hstarts hends
        (hstarts.wall_lt hends hapart) honce
    · exact offsetOfWall?_southern_local hlow hhigh hstarts hends
        (hends.wall_lt hstarts hapart) honce

end Zone

end CounterBoard.Time
