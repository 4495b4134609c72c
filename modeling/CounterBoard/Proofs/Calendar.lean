import CounterBoard.Time.Zone
import Mathlib.Tactic.Common

/-!
Days and dates name each other: the date of a numbered day is a day of the calendar, and its number
is the given one. Years follow each other without gap, so a day lies in the year whose first day is
not after it while the first day of the next year is.
-/

set_option autoImplicit false
set_option relaxedAutoImplicit false

namespace CounterBoard.Time

def yearLength (year : Int) : Int :=
  if isLeapYear year then 366 else 365

theorem isLeapYear_iff (year : Int) :
    isLeapYear year = true ↔ year % 4 = 0 ∧ (year % 100 ≠ 0 ∨ year % 400 = 0) := by
  simp [isLeapYear]

theorem daysBeforeYear_succ (year : Int) :
    daysBeforeYear (year + 1) = daysBeforeYear year + yearLength year := by
  simp only [daysBeforeYear, yearLength]
  split
  · next hleap =>
    rw [isLeapYear_iff] at hleap
    omega
  · next hcommon =>
    rw [isLeapYear_iff] at hcommon
    omega

theorem daysBeforeYear_le {y z : Int} (h : y ≤ z) : daysBeforeYear y ≤ daysBeforeYear z := by
  simp only [daysBeforeYear]
  omega

theorem yearOfDay_spec (days : Int) :
    daysBeforeYear (yearOfDay days) ≤ days ∧ days < daysBeforeYear (yearOfDay days + 1) := by
  have hlow : daysBeforeYear (400 * days / 146097) ≤ days := by
    simp only [daysBeforeYear]
    omega
  have hhigh : days < daysBeforeYear (400 * days / 146097 + 3) := by
    simp only [daysBeforeYear]
    omega
  simp only [yearOfDay]
  split
  · next hbefore =>
    rw [Int.add_sub_cancel]
    exact ⟨hlow, hbefore⟩
  · next hstart =>
    split
    · next hafter =>
      refine ⟨hafter, ?_⟩
      rwa [Int.add_assoc, Int.add_assoc]
    · next hend => exact ⟨Int.not_lt.mp hstart, Int.not_le.mp hend⟩

theorem yearOfDay_eq {days year : Int} (hlow : daysBeforeYear year ≤ days)
    (hhigh : days < daysBeforeYear (year + 1)) : yearOfDay days = year := by
  obtain ⟨hle, hlt⟩ := yearOfDay_spec days
  have hnot_before : ¬ yearOfDay days + 1 ≤ year := by
    intro h
    have := daysBeforeYear_le h
    omega
  have hnot_after : ¬ year + 1 ≤ yearOfDay days := by
    intro h
    have := daysBeforeYear_le h
    omega
  omega

theorem daysIn_monthLengths (year : Int) :
    (daysIn (monthLengths (isLeapYear year)) : Int) = yearLength year := by
  unfold yearLength
  cases isLeapYear year <;> rfl

namespace Date

theorem monthAndDay_spec (lengths : List Nat) (month days : Nat) (h : days < daysIn lengths) :
    ∃ (passed rest length : Nat), monthAndDay lengths month days = (month + passed, rest + 1) ∧
      lengths[passed]? = some length ∧ rest < length ∧
      daysIn (lengths.take passed) + rest = days := by
  induction lengths generalizing month days with
  | nil => simp [daysIn] at h
  | cons length lengths ih =>
    rw [monthAndDay]
    by_cases hlt : days < length
    · exact ⟨0, days, length, by rw [if_pos hlt]; rfl, rfl, hlt, by simp [daysIn]⟩
    · have hrest : days - length < daysIn lengths := by
        rw [daysIn] at h
        omega
      obtain ⟨passed, rest, length', heq, hlength, hlt', hsum⟩ := ih (month + 1) _ hrest
      refine ⟨passed + 1, rest, length', ?_, hlength, hlt', ?_⟩
      · rw [if_neg hlt, heq]
        congr 1
        omega
      · rw [List.take_succ_cons, daysIn]
        omega

theorem ofDays_spec (days : Int) : ∃ (year : Int) (passed rest length : Nat),
    ofDays days = ⟨year, passed + 1, rest + 1⟩ ∧
      year = yearOfDay (days + epochDay) ∧
      (monthLengths (isLeapYear year))[passed]? = some length ∧ rest < length ∧
      daysBeforeYear year + (daysIn ((monthLengths (isLeapYear year)).take passed) + rest : Nat) =
        days + epochDay := by
  obtain ⟨hle, hlt⟩ := yearOfDay_spec (days + epochDay)
  rw [daysBeforeYear_succ, ← daysIn_monthLengths] at hlt
  obtain ⟨passed, rest, length, heq, hlength, hrest, hsum⟩ :=
    monthAndDay_spec (monthLengths (isLeapYear (yearOfDay (days + epochDay)))) 1
      (days + epochDay - daysBeforeYear (yearOfDay (days + epochDay))).toNat (by omega)
  refine ⟨_, passed, rest, length, ?_, rfl, hlength, hrest, by omega⟩
  simp only [ofDays, heq, Nat.add_comm 1 passed]

theorem ofDays_year (days : Int) : (ofDays days).year = yearOfDay (days + epochDay) := rfl

theorem isValid_ofDays (days : Int) : (ofDays days).isValid = true := by
  obtain ⟨year, passed, rest, length, heq, -, hlength, hrest, -⟩ := ofDays_spec days
  rw [heq]
  simp only [isValid, hlength, Bool.and_eq_true, decide_eq_true_eq]
  omega

theorem toDays_ofDays (days : Int) : (ofDays days).toDays = days := by
  obtain ⟨year, passed, rest, length, heq, -, -, -, hsum⟩ := ofDays_spec days
  rw [heq]
  simp only [toDays, Nat.add_sub_cancel]
  omega

theorem month_and_day_lt_of_isValid {d : Date} (h : d.isValid = true) :
    d.month < 100 ∧ d.day < 100 := by
  rcases d with ⟨year, _ | month, day⟩
  · simp [isValid] at h
  · have hlengths : ∀ leap, ∀ length ∈ monthLengths leap, length < 100 := by decide
    simp only [isValid] at h
    split at h
    · next length hlength =>
      have hmonth : month < 12 := (List.getElem?_eq_some_iff.mp hlength).1
      have hlt := hlengths _ length (List.mem_of_getElem? hlength)
      simp only [Bool.and_eq_true, decide_eq_true_eq] at h
      change month + 1 < 100 ∧ day < 100
      omega
    · cases h

end Date

/-- The number of the first day of a year, counted from the first day of 1970. -/
def firstDay (year : Int) : Int :=
  daysBeforeYear year - epochDay

theorem firstDay_succ (year : Int) : firstDay (year + 1) = firstDay year + yearLength year := by
  rw [firstDay, daysBeforeYear_succ, firstDay]
  omega

namespace Date

private theorem daysIn_take_add_le {lengths : List Nat} {passed length : Nat}
    (h : lengths[passed]? = some length) :
    daysIn (lengths.take passed) + length ≤ daysIn lengths := by
  induction lengths generalizing passed with
  | nil => cases h
  | cons first lengths ih =>
    cases passed with
    | zero =>
      cases h
      simp [daysIn]
    | succ passed =>
      have hrest := ih h
      rw [List.take_succ_cons, daysIn, daysIn]
      omega

theorem toDays_bounds {d : Date} (h : d.isValid = true) :
    firstDay d.year ≤ d.toDays ∧ d.toDays < firstDay (d.year + 1) := by
  rcases d with ⟨year, _ | month, day⟩
  · simp [isValid] at h
  · simp only [isValid] at h
    split at h
    · next length hlength =>
      have hfits := daysIn_take_add_le hlength
      have hyear := daysIn_monthLengths year
      simp only [Bool.and_eq_true, decide_eq_true_eq] at h
      rw [firstDay_succ]
      simp only [toDays, firstDay, Nat.add_sub_cancel]
      omega
    · cases h

end Date

theorem yearLength_bounds (year : Int) : 365 ≤ yearLength year ∧ yearLength year ≤ 366 := by
  unfold yearLength
  split <;> omega

namespace Zone

theorem yearOfSecond_eq {seconds year : Int} (hlow : firstDay year * secondsPerDay ≤ seconds)
    (hhigh : seconds < firstDay (year + 1) * secondsPerDay) : yearOfSecond seconds = year := by
  simp only [firstDay, secondsPerDay] at hlow hhigh
  apply yearOfDay_eq <;> simp only [secondsPerDay] <;> omega

theorem yearOfSecond_spec (seconds : Int) :
    firstDay (yearOfSecond seconds) * secondsPerDay ≤ seconds ∧
      seconds < firstDay (yearOfSecond seconds + 1) * secondsPerDay := by
  obtain ⟨hle, hlt⟩ := yearOfDay_spec (seconds / secondsPerDay + epochDay)
  rw [← Date.ofDays_year] at hle hlt
  change daysBeforeYear (yearOfSecond seconds) ≤ _ at hle
  change _ < daysBeforeYear (yearOfSecond seconds + 1) at hlt
  simp only [firstDay, secondsPerDay] at *
  omega

end Zone

theorem sundayOfMonth_bounds (year : Int) (month week : Nat) :
    firstDay year + daysIn ((monthLengths (isLeapYear year)).take (month - 1)) +
        7 * (week - 1 : Nat) ≤ sundayOfMonth year month week ∧
      sundayOfMonth year month week ≤
        firstDay year + daysIn ((monthLengths (isLeapYear year)).take (month - 1)) +
          7 * (week - 1 : Nat) + 6 := by
  simp only [sundayOfMonth, Date.toDays, firstDay]
  omega

end CounterBoard.Time
