import CounterBoard.Proofs.WallText
import Mathlib.Data.List.Induction

/-!
Which texts the strict grammar accepts: those that a clock writes with a year of four digits,
followed by a fraction of a second and an offset. Such a text always names an instant. Its year
keeps it in the calendar, and its offset is of whole minutes, so that a second 60 is a leap second
in UTC too.
-/

set_option autoImplicit false
set_option relaxedAutoImplicit false

namespace CounterBoard.Text

theorem digitValue_lt {c : Char} (h : c.isDigit = true) : digitValue c < 10 := by
  simp only [Char.isDigit, Bool.and_eq_true, decide_eq_true_eq] at h
  have hnine : c.toNat ≤ 57 := h.2
  change c.toNat - 48 < 10
  omega

theorem digit_digitValue {c : Char} (h : c.isDigit = true) (n : Nat) :
    digit (10 * n + digitValue c) = c := by
  have hplace : (10 * n + digitValue c) % 10 = digitValue c := by
    have := digitValue_lt h
    omega
  simp only [Char.isDigit, Bool.and_eq_true, decide_eq_true_eq] at h
  have hzero : 48 ≤ c.toNat := h.1
  have hcode : 48 + (c.toNat - 48) = c.toNat := by omega
  rw [digit, hplace]
  change Char.ofNat (48 + (c.toNat - 48)) = c
  rw [hcode, Char.ofNat_toNat]

theorem padded_number {ds : List Char} (h : ∀ c ∈ ds, c.isDigit = true) :
    padded ds.length (number ds) = ds := by
  induction ds using List.reverseRecOn with
  | nil => rfl
  | append_singleton ds c ih =>
    have hc : c.isDigit = true := h c (by simp)
    have hds := ih fun d hd => h d (List.mem_append_left _ hd)
    have hnumber : number (ds ++ [c]) = 10 * number ds + digitValue c := by
      rw [number_append]
      rfl
    have hfront : (10 * number ds + digitValue c) / 10 = number ds := by
      have := digitValue_lt hc
      omega
    rw [List.length_append, hnumber]
    change padded ds.length _ ++ [digit _] = _
    rw [hfront, hds, digit_digitValue hc]

theorem number_lt {ds : List Char} (h : ∀ c ∈ ds, c.isDigit = true) :
    number ds < tenTo ds.length := by
  have hmod := number_padded ds.length (number ds)
  rw [padded_number h] at hmod
  rw [hmod]
  exact Nat.mod_lt _ (Nat.pow_pos (by decide))

theorem digits?_padded_of_lt {width n : Nat} (hn : n < tenTo width) (rest : List Char) :
    digits? width (padded width n ++ rest) = some (n, rest) := by
  rw [digits?_padded, Nat.mod_eq_of_lt hn]

theorem digits?_eq_some_iff {width n : Nat} {t rest : List Char} :
    digits? width t = some (n, rest) ↔ n < tenTo width ∧ t = padded width n ++ rest := by
  constructor
  · intro h
    have happend := splitDigits_append width t
    have hdigits := fun c => @isDigit_of_mem_splitDigits width t c
    rw [digits?] at h
    generalize splitDigits width t = parts at *
    obtain ⟨ds, left⟩ := parts
    by_cases hwidth : ds.length = width
    · simp only [hwidth, if_true, Option.some.injEq, Prod.mk.injEq] at h
      obtain ⟨rfl, rfl⟩ := h
      rw [← hwidth]
      exact ⟨number_lt hdigits, by rw [padded_number hdigits]; exact happend.symm⟩
    · simp [hwidth] at h
  · rintro ⟨hn, rfl⟩
    exact digits?_padded_of_lt hn rest

theorem expect?_eq_some_iff {c : Char} {t rest : List Char} :
    expect? c t = some rest ↔ t = c :: rest := by
  cases t with
  | nil => simp [expect?]
  | cons d t => simp [expect?]

end CounterBoard.Text

namespace CounterBoard.Time

open CounterBoard.Text

theorem dateEnd?_eq_some_iff {t rest : List Char} :
    dateEnd? t = some rest ↔ ∃ c, isDateEnd c = true ∧ t = c :: rest := by
  cases t with
  | nil => simp [dateEnd?]
  | cons c t => simp [dateEnd?]

theorem decimals?_lt {t rest : List Char} {n : Nat} (h : decimals? t = some (n, rest)) :
    n < nanosPerSecond := by
  have hdigits := fun c => @isDigit_of_mem_splitDigits 9 t c
  have hlength := length_splitDigits_le 9 t
  rw [decimals?] at h
  generalize splitDigits 9 t = parts at *
  obtain ⟨ds, left⟩ := parts
  have hsplit : tenTo 9 = tenTo ds.length * tenTo (9 - ds.length) := by
    rw [tenTo, tenTo, tenTo, Nat.pow_eq, Nat.pow_eq, Nat.pow_eq, ← Nat.pow_add]
    congr 1
    simp only at hlength
    omega
  cases ds with
  | nil => cases h
  | cons d ds =>
    cases h
    change _ < tenTo 9
    rw [hsplit]
    exact Nat.mul_lt_mul_of_pos_right (number_lt hdigits) (Nat.pow_pos (by decide))

theorem fraction?_lt {t rest : List Char} {n : Nat} (h : fraction? t = some (n, rest)) :
    n < nanosPerSecond := by
  unfold fraction? at h
  split at h
  · exact decimals?_lt h
  · cases h
    decide

theorem sign?_cases {t rest : List Char} {sign : Int} (h : sign? t = some (sign, rest)) :
    sign = 1 ∨ sign = -1 := by
  unfold sign? at h
  split at h <;> cases h <;> decide

theorem offset?_bounds {part : List Char → Option (List Char)} {t rest : List Char} {offset : Int}
    (h : offset? part t = some (offset, rest)) :
    -86400 < offset ∧ offset < 86400 ∧ offset % 60 = 0 := by
  unfold offset? at h
  split at h
  · cases h
    decide
  · cases h
    decide
  · obtain ⟨⟨sign, t₁⟩, hsign, h⟩ := exists_of_bind_eq_some h
    obtain ⟨⟨hours, t₂⟩, -, h⟩ := exists_of_bind_eq_some h
    obtain ⟨t₃, -, h⟩ := exists_of_bind_eq_some h
    obtain ⟨⟨minutes, t₄⟩, -, h⟩ := exists_of_bind_eq_some h
    obtain ⟨_, hguard, h⟩ := exists_of_bind_eq_some h
    have hbounds : minutes ≤ 59 ∧ hours ≤ 23 := by
      simpa [guard] using hguard
    have hsign := sign?_cases hsign
    cases h
    rcases hsign with rfl | rfl <;> omega

/-- A text of the strict form, with the clock that it shows and the offset of that clock. -/
inductive StrictForm : List Char → Clock → Int → Prop
  | intro {c : Clock} {parting : Char} {tail zone : List Char} {offset : Int}
      (valid : c.isValid = true) (plain : 0 ≤ c.date.year ∧ c.date.year ≤ 9999)
      (parts : isDateEnd parting = true) (fraction : fraction? tail = some (c.fraction, zone))
      (east : offset? (expect? ':') zone = some (offset, [])) :
      StrictForm (Clock.dateText c.date ++ parting :: (c.timeText ++ tail)) c offset

private theorem dateText_of_plain {year : Nat} (hyear : year < tenTo 4) (month day : Nat) :
    Clock.dateText ⟨year, month, day⟩ =
      padded 4 year ++ '-' :: (padded 2 month ++ '-' :: padded 2 day) := by
  have hplain : (0 : Int) ≤ year ∧ (year : Int) ≤ 9999 := by
    change year < 10000 at hyear
    omega
  simp only [Clock.dateText, Clock.yearText, if_pos hplain, Int.toNat_natCast, List.append_assoc,
    List.cons_append]

theorem strict?_sound {t : List Char} {i : Instant} (h : strict? t = some i) :
    ∃ c offset, StrictForm t c offset ∧ instantOf? c offset = some i := by
  obtain ⟨⟨year, t₁⟩, hyear, h⟩ := exists_of_bind_eq_some h
  obtain ⟨t₂, hfirst, h⟩ := exists_of_bind_eq_some h
  obtain ⟨⟨month, t₃⟩, hmonth, h⟩ := exists_of_bind_eq_some h
  obtain ⟨t₄, hsecond, h⟩ := exists_of_bind_eq_some h
  obtain ⟨⟨day, t₅⟩, hday, h⟩ := exists_of_bind_eq_some h
  obtain ⟨t₆, hparting, h⟩ := exists_of_bind_eq_some h
  obtain ⟨⟨hour, t₇⟩, hhour, h⟩ := exists_of_bind_eq_some h
  obtain ⟨t₈, hthird, h⟩ := exists_of_bind_eq_some h
  obtain ⟨⟨minute, t₉⟩, hminute, h⟩ := exists_of_bind_eq_some h
  obtain ⟨t₁₀, hfourth, h⟩ := exists_of_bind_eq_some h
  obtain ⟨⟨second, tail⟩, hlast, h⟩ := exists_of_bind_eq_some h
  obtain ⟨⟨fraction, zone⟩, hfraction, h⟩ := exists_of_bind_eq_some h
  obtain ⟨⟨offset, rest⟩, hoffset, h⟩ := exists_of_bind_eq_some h
  obtain ⟨_, hguard, h⟩ := exists_of_bind_eq_some h
  have hend : rest = [] := by simpa [guard] using hguard
  have hvalid : (⟨⟨year, month, day⟩, hour, minute, second, fraction⟩ : Clock).isValid = true := by
    by_contra hinvalid
    rw [instantOf?, if_neg hinvalid] at h
    cases h
  rw [digits?_eq_some_iff] at hyear hmonth hday hhour hminute hlast
  rw [expect?_eq_some_iff] at hfirst hsecond hthird hfourth
  rw [hend] at hoffset
  obtain ⟨parting, hparting, ht₅⟩ := dateEnd?_eq_some_iff.mp hparting
  have hplain : (0 : Int) ≤ year ∧ (year : Int) ≤ 9999 := by
    have hfour : year < 10000 := hyear.1
    omega
  have htext : t = Clock.dateText ⟨year, month, day⟩ ++
      parting :: (Clock.timeText ⟨⟨year, month, day⟩, hour, minute, second, fraction⟩ ++ tail) := by
    rw [dateText_of_plain hyear.1, hyear.2, hfirst, hmonth.2, hsecond, hday.2, ht₅, hhour.2, hthird,
      hminute.2, hfourth, hlast.2]
    simp [Clock.timeText]
  rw [htext]
  exact ⟨_, _, .intro hvalid hplain hparting hfraction hoffset, h⟩

theorem StrictForm.strict?_eq {t : List Char} {c : Clock} {offset : Int}
    (h : StrictForm t c offset) : strict? t = instantOf? c offset := by
  obtain ⟨hvalid, hplain, hparting, hfraction, heast⟩ := h
  next parting tail zone =>
  obtain ⟨hmonth, hday⟩ := Date.month_and_day_lt_of_isValid (Clock.isValid_date hvalid)
  obtain ⟨hhour, hminute, hsecond⟩ : c.hour < 100 ∧ c.minute < 100 ∧ c.second < 100 := by
    simp only [Clock.isValid, Bool.and_eq_true, decide_eq_true_eq] at hvalid
    omega
  have hfour : c.date.year.toNat < tenTo 4 := by
    change _ < 10000
    omega
  have htext : Clock.dateText c.date ++ parting :: (c.timeText ++ tail) =
      padded 4 c.date.year.toNat ++ '-' :: (padded 2 c.date.month ++ '-' :: (padded 2 c.date.day ++
        parting :: (padded 2 c.hour ++ ':' :: (padded 2 c.minute ++ ':' ::
          (padded 2 c.second ++ tail))))) := by
    simp only [Clock.dateText, Clock.timeText, Clock.yearText, if_pos hplain, List.append_assoc,
      List.cons_append]
  rw [htext]
  refine bind_eq_of_some (digits?_padded_of_lt hfour _) ?_
  refine bind_eq_of_some (expect?_self '-' _) ?_
  refine bind_eq_of_some (digits?_padded_of_lt hmonth _) ?_
  refine bind_eq_of_some (expect?_self '-' _) ?_
  refine bind_eq_of_some (digits?_padded_of_lt hday _) ?_
  refine bind_eq_of_some (dateEnd?_eq_some_iff.mpr ⟨parting, hparting, rfl⟩) ?_
  refine bind_eq_of_some (digits?_padded_of_lt hhour _) ?_
  refine bind_eq_of_some (expect?_self ':' _) ?_
  refine bind_eq_of_some (digits?_padded_of_lt hminute _) ?_
  refine bind_eq_of_some (expect?_self ':' _) ?_
  refine bind_eq_of_some (digits?_padded_of_lt hsecond _) ?_
  refine bind_eq_of_some hfraction ?_
  refine bind_eq_of_some heast ?_
  refine bind_eq_of_some (show guard _ = some () from rfl) ?_
  rw [Int.toNat_of_nonneg hplain.1]

theorem exists_instantOf? {c : Clock} (h : c.isValid = true)
    (hfraction : c.fraction < nanosPerSecond) {offset : Int} (hoffset : offset % 60 = 0)
    (hfirst : firstSecond ≤ c.toWall.1 - offset) (hlast : c.toWall.1 - offset ≤ lastSecond) :
    ∃ i : Instant, instantOf? c offset = some i ∧ i.seconds = c.toWall.1 - offset ∧
      i.nanos = c.toWall.2 := by
  obtain ⟨hnanos, hleap⟩ := Clock.toWall_nanos h hfraction
  have hvalid : Representable (c.toWall.1 - offset) c.toWall.2 :=
    ⟨hfirst, hlast, hnanos, fun hreach => by
      have := hleap hreach
      omega⟩
  refine ⟨⟨_, _, hvalid⟩, ?_, rfl, rfl⟩
  rw [instantOf?, if_pos h]
  exact Instant.ofParts?_eq_some_iff.mpr ⟨rfl, rfl⟩

namespace StrictForm

variable {t : List Char} {c : Clock} {offset : Int}

theorem isValid (h : StrictForm t c offset) : c.isValid = true := by
  obtain ⟨hvalid, -, -, -, -⟩ := h
  exact hvalid

theorem fraction_lt (h : StrictForm t c offset) : c.fraction < nanosPerSecond := by
  obtain ⟨-, -, -, hfraction, -⟩ := h
  exact fraction?_lt hfraction

theorem offset_bounds (h : StrictForm t c offset) :
    -86400 < offset ∧ offset < 86400 ∧ offset % 60 = 0 := by
  obtain ⟨-, -, -, -, heast⟩ := h
  exact offset?_bounds heast

/-- Four digits keep a year so far from the ends of the calendar that no offset leads out of it. -/
theorem second_in_calendar (h : StrictForm t c offset) :
    firstSecond ≤ c.toWall.1 - offset ∧ c.toWall.1 - offset ≤ lastSecond := by
  have hoffset := h.offset_bounds
  obtain ⟨hvalid, hplain, -, -, -⟩ := h
  obtain ⟨hfirst, hlast⟩ := Clock.toWall_bounds hvalid
  have hlow : daysBeforeYear 0 ≤ daysBeforeYear c.date.year := daysBeforeYear_le hplain.1
  have hhigh : daysBeforeYear (c.date.year + 1) ≤ daysBeforeYear 10000 :=
    daysBeforeYear_le (by omega)
  have hzero : daysBeforeYear 0 = -366 := rfl
  have hend : daysBeforeYear 10000 = 3652059 := rfl
  simp only [firstDay, epochDay, secondsPerDay, firstSecond, lastSecond] at *
  omega

theorem exists_instant (h : StrictForm t c offset) :
    ∃ i, strict? t = some i ∧ i.seconds = c.toWall.1 - offset ∧ i.nanos = c.toWall.2 := by
  obtain ⟨hfirst, hlast⟩ := h.second_in_calendar
  rw [h.strict?_eq]
  exact exists_instantOf? h.isValid h.fraction_lt h.offset_bounds.2.2 hfirst hlast

end StrictForm

end CounterBoard.Time
