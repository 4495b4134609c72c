import CounterBoard.Proofs.Calendar
import CounterBoard.Time.Reading

/-!
Texts of wall clocks, read back. The lenient reader takes from the text of a clock just what the clock
shows down to the second, for every year with its sign and as many digits as it has. The strict
reader refuses the text for want of an offset, so the lenient one is asked.
-/

set_option autoImplicit false
set_option relaxedAutoImplicit false

namespace CounterBoard.Text

def StopsDigits (t : List Char) : Prop :=
  ∀ c ∈ t.head?, c.isDigit = false

theorem stopsDigits_cons {c : Char} {t : List Char} (h : c.isDigit = false) :
    StopsDigits (c :: t) := by
  rintro d ⟨rfl⟩
  exact h

theorem isDigit_of_mem_padded {width n : Nat} {c : Char} (h : c ∈ padded width n) :
    c.isDigit = true := by
  induction width generalizing n with
  | zero => cases h
  | succ width ih =>
    rcases List.mem_append.mp h with h | h
    · exact ih h
    · obtain rfl := List.mem_singleton.mp h
      exact isDigit_digit n

theorem isDigit_of_mem_decimal {n : Nat} {c : Char} (h : c ∈ decimal n) : c.isDigit = true := by
  fun_induction decimal n with
  | case1 n hn =>
    obtain rfl := List.mem_singleton.mp h
    exact isDigit_digit n
  | case2 n hn ih =>
    rcases List.mem_append.mp h with h | h
    · exact ih h
    · obtain rfl := List.mem_singleton.mp h
      exact isDigit_digit n

theorem isDigit_of_mem_atLeast {width n : Nat} {c : Char} (h : c ∈ atLeast width n) :
    c.isDigit = true := by
  unfold atLeast at h
  split at h
  · exact isDigit_of_mem_padded h
  · exact isDigit_of_mem_decimal h

theorem number_atLeast (width n : Nat) : number (atLeast width n) = n := by
  unfold atLeast
  split
  · next hn => rw [number_padded, Nat.mod_eq_of_lt hn]
  · exact number_decimal n

theorem splitDigits_of_digits {most : Nat} {ds rest : List Char}
    (hds : ∀ c ∈ ds, c.isDigit = true) (hmost : ds.length ≤ most)
    (hrest : ds.length = most ∨ StopsDigits rest) :
    splitDigits most (ds ++ rest) = (ds, rest) := by
  induction ds generalizing most with
  | nil =>
    rcases most with _ | most
    · rfl
    · rcases rest with _ | ⟨c, rest⟩
      · rfl
      · have hstop : c.isDigit = false := by
          rcases hrest with hlength | hstop
          · cases hlength
          · exact hstop c rfl
        simp [splitDigits, hstop]
  | cons d ds ih =>
    rcases most with _ | most
    · cases hmost
    · have htail : splitDigits most (ds ++ rest) = (ds, rest) := by
        apply ih
        · exact fun c hc => hds c (List.mem_cons_of_mem d hc)
        · exact Nat.le_of_succ_le_succ hmost
        · exact hrest.imp_left Nat.succ.inj
      simp [splitDigits, hds d List.mem_cons_self, htail]

theorem digits?_padded (width n : Nat) (rest : List Char) :
    digits? width (padded width n ++ rest) = some (n % tenTo width, rest) := by
  rw [digits?, splitDigits_of_digits (fun c hc => isDigit_of_mem_padded hc) (by simp)
    (.inl (by simp))]
  simp [number_padded]

theorem digitsUpTo?_of_digits {most : Nat} {ds rest : List Char} (hne : ds ≠ [])
    (hds : ∀ c ∈ ds, c.isDigit = true) (hmost : ds.length ≤ most)
    (hrest : ds.length = most ∨ StopsDigits rest) :
    digitsUpTo? most (ds ++ rest) = some (number ds, rest) := by
  rw [digitsUpTo?, splitDigits_of_digits hds hmost hrest]
  rcases ds with _ | ⟨d, ds⟩
  · exact absurd rfl hne
  · rfl

theorem digitsUpTo?_padded {width : Nat} (hwidth : width ≠ 0) (n : Nat) (rest : List Char) :
    digitsUpTo? width (padded width n ++ rest) = some (n % tenTo width, rest) := by
  have hne : padded width n ≠ [] := by
    intro hnil
    have hlength := length_padded width n
    rw [hnil] at hlength
    exact hwidth hlength.symm
  rw [digitsUpTo?_of_digits hne (fun c hc => isDigit_of_mem_padded hc) (by simp)
    (.inl (by simp)), number_padded]

theorem expect?_self (c : Char) (t : List Char) : expect? c (c :: t) = some t :=
  if_pos rfl

theorem isBlank_of_isDigit {c : Char} (h : c.isDigit = true) : isBlank c = false := by
  have hbounds : 48 ≤ c.toNat ∧ c.toNat ≤ 57 := by
    simp only [Char.isDigit, Bool.and_eq_true, decide_eq_true_eq] at h
    exact h
  simp only [isBlank, Bool.or_eq_false_iff, Bool.and_eq_false_iff, decide_eq_false_iff_not,
    beq_eq_false_iff_ne]
  omega

theorem trimStart_cons {c : Char} (h : isBlank c = false) (t : List Char) :
    trimStart (c :: t) = c :: t := by
  simp [trimStart, h]

theorem trim_eq_self {c d : Char} {t front : List Char} (hhead : isBlank c = false)
    (hlast : isBlank d = false) (h : c :: t = front ++ [d]) : trim (c :: t) = c :: t := by
  have hreverse : (c :: t).reverse = d :: front.reverse := by simp [h]
  rw [trim, trimStart_cons hhead, hreverse, trimStart_cons hlast, ← hreverse, List.reverse_reverse]

end CounterBoard.Text

namespace CounterBoard.Time

open CounterBoard.Text

theorem twoDigits?_padded {n : Nat} (hn : n < 100) (rest : List Char) :
    twoDigits? (padded 2 n ++ rest) = some (n, rest) := by
  have hstart : trimStart (padded 2 n ++ rest) = padded 2 n ++ rest :=
    trimStart_cons (isBlank_of_isDigit (isDigit_digit (n / 10))) _
  have hsmall : n % tenTo 2 = n := Nat.mod_eq_of_lt hn
  rw [twoDigits?, hstart, digitsUpTo?_padded (by decide), hsmall]

theorem bind_eq_of_some {α β : Type} {o : Option α} {a : α} {f : α → Option β} {r : Option β}
    (ho : o = some a) (hf : f a = r) : (o >>= f) = r := by
  rw [ho]
  exact hf

theorem bind_eq_none_of_none {α β : Type} {o : Option α} (h : o = none) {f : α → Option β} :
    (o >>= f) = none := by
  rw [h]
  rfl

theorem exists_of_bind_eq_some {α β : Type} {o : Option α} {f : α → Option β} {b : β}
    (h : (o >>= f) = some b) : ∃ a, o = some a ∧ f a = some b :=
  Option.bind_eq_some_iff.mp h

private theorem year?_digit {c : Char} (hc : c.isDigit = true) (t : List Char) :
    year? (c :: t) = (digitsUpTo? 4 (c :: t)).map fun (n, t) => ((n : Int), t) := by
  rw [year?, trimStart_cons (isBlank_of_isDigit hc)]
  split
  · next heq =>
    cases heq
    cases hc
  · next heq =>
    cases heq
    cases hc
  · rfl

theorem year?_yearText (year : Int) {rest : List Char} (hrest : StopsDigits rest) :
    year? (Clock.yearText year ++ rest) = some (year, rest) := by
  unfold Clock.yearText
  split
  · next hyear =>
    have hsmall : year.toNat % tenTo 4 = year.toNat :=
      Nat.mod_eq_of_lt (by change _ < 10000; omega)
    have hread : digitsUpTo? 4 (padded 4 year.toNat ++ rest) = some (year.toNat, rest) := by
      rw [digitsUpTo?_padded (by decide), hsmall]
    change year? (digit (year.toNat / 10 / 10 / 10) :: _) = _
    rw [year?_digit (isDigit_digit _)]
    change (digitsUpTo? 4 (padded 4 year.toNat ++ rest)).map _ = _
    rw [hread]
    simp only [Option.map_some, Int.toNat_of_nonneg hyear.1]
  · next hyear =>
    have hne : atLeast 4 year.natAbs ≠ [] := by
      intro hnil
      have hnumber := number_atLeast 4 year.natAbs
      rw [hnil] at hnumber
      have hzero : year.natAbs = 0 := hnumber.symm
      omega
    have hread : digitsUpTo? (atLeast 4 year.natAbs ++ rest).length
        (atLeast 4 year.natAbs ++ rest) = some (year.natAbs, rest) := by
      rw [digitsUpTo?_of_digits hne (fun c hc => isDigit_of_mem_atLeast hc) (by simp)
        (.inr hrest), number_atLeast]
    split
    · next hnegative =>
      rw [List.cons_append, year?, trimStart_cons (by decide)]
      simp only [hread, Option.map_some]
      congr 2
      omega
    · next hlarge =>
      rw [List.cons_append, year?, trimStart_cons (by decide)]
      simp only [hread, Option.map_some]
      congr 2
      omega

theorem looseDate?_dateText_of_pause {pause : List Char → List Char}
    (hpause : ∀ t, pause ('-' :: t) = '-' :: t) {d : Date} (h : d.isValid = true)
    (rest : List Char) : looseDate? pause (Clock.dateText d ++ rest) = some (d, rest) := by
  obtain ⟨hmonth, hday⟩ := Date.month_and_day_lt_of_isValid h
  have hyear := year?_yearText d.year (stopsDigits_cons (c := '-')
    (t := padded 2 d.month ++ '-' :: (padded 2 d.day ++ rest)) (by decide))
  simp [looseDate?, Clock.dateText, hyear, hpause, expect?, twoDigits?_padded hmonth,
    twoDigits?_padded hday]

theorem looseDate?_dateText {d : Date} (h : d.isValid = true) (rest : List Char) :
    looseDate? id (Clock.dateText d ++ rest) = some (d, rest) :=
  looseDate?_dateText_of_pause (fun _ => rfl) h rest

theorem Clock.isValid_date {c : Clock} (h : c.isValid = true) : c.date.isValid = true := by
  simp only [isValid, Bool.and_eq_true] at h
  exact h.1.1.1

theorem looseTime?_timeText_of_pause {pause : List Char → List Char}
    (hpause : ∀ t, pause (':' :: t) = ':' :: t) {c : Clock} (h : c.isValid = true)
    (rest : List Char) :
    looseTime? pause (c.timeText ++ rest) = some ((c.hour, c.minute, c.second), rest) := by
  simp only [Clock.isValid, Bool.and_eq_true, decide_eq_true_eq] at h
  simp [looseTime?, Clock.timeText, hpause, expect?, twoDigits?_padded (n := c.hour) (by omega),
    twoDigits?_padded (n := c.minute) (by omega), twoDigits?_padded (n := c.second) (by omega)]

theorem looseTime?_timeText {c : Clock} (h : c.isValid = true) (rest : List Char) :
    looseTime? id (c.timeText ++ rest) = some ((c.hour, c.minute, c.second), rest) :=
  looseTime?_timeText_of_pause (fun _ => rfl) h rest

theorem trimStart_space_timeText (c : Clock) (rest : List Char) :
    trimStart (' ' :: (c.timeText ++ rest)) = c.timeText ++ rest := by
  change trimStart (c.timeText ++ rest) = _
  exact trimStart_cons (isBlank_of_isDigit (isDigit_digit (c.hour / 10))) _

theorem spacedClock?_plainText {c : Clock} (h : c.isValid = true) :
    spacedClock? c.plainText = some { c with fraction := 0 } := by
  have hpause : trimStart (' ' :: c.timeText) = c.timeText := by
    simpa using trimStart_space_timeText c []
  have htime := looseTime?_timeText h []
  rw [List.append_nil] at htime
  have hwhole : ({ c with fraction := 0 } : Clock).isValid = true := h
  simp [spacedClock?, wallClock?, Clock.plainText, looseDate?_dateText (Clock.isValid_date h),
    hpause, htime, hwhole, guard]

theorem wallClock?_eq_none_of_tail {parting : List Char → Option (List Char)} {c : Clock}
    (h : c.isValid = true) {rest tail : List Char}
    (hparting : parting rest = some (c.timeText ++ tail)) (htail : tail ≠ []) :
    wallClock? parting (Clock.dateText c.date ++ rest) = none := by
  have hmore : tail.isEmpty = false := by simpa using htail
  refine bind_eq_of_some (looseDate?_dateText (Clock.isValid_date h) _) ?_
  refine bind_eq_of_some hparting ?_
  refine bind_eq_of_some (looseTime?_timeText h _) ?_
  change (guard (tail.isEmpty = true) >>= fun _ => _) = none
  rw [hmore]
  rfl

theorem strict?_plainText (c : Clock) : strict? c.plainText = none := by
  unfold strict?
  by_cases hyear : 0 ≤ c.date.year ∧ c.date.year ≤ 9999
  · have htext : c.plainText = padded 4 c.date.year.toNat ++ '-' :: (padded 2 c.date.month ++
        '-' :: (padded 2 c.date.day ++ ' ' :: (padded 2 c.hour ++ ':' :: (padded 2 c.minute ++
          ':' :: (padded 2 c.second ++ []))))) := by
      simp only [Clock.plainText, Clock.dateText, Clock.timeText, Clock.yearText, if_pos hyear,
        List.append_assoc, List.cons_append, List.append_nil]
    -- All fields can be read, but after the seconds the text is at its end.
    rw [htext]
    refine bind_eq_of_some (digits?_padded 4 _ _) ?_
    refine bind_eq_of_some (expect?_self '-' _) ?_
    refine bind_eq_of_some (digits?_padded 2 _ _) ?_
    refine bind_eq_of_some (expect?_self '-' _) ?_
    refine bind_eq_of_some (digits?_padded 2 _ _) ?_
    refine bind_eq_of_some (show dateEnd? (' ' :: _) = some _ from rfl) ?_
    refine bind_eq_of_some (digits?_padded 2 _ _) ?_
    refine bind_eq_of_some (expect?_self ':' _) ?_
    refine bind_eq_of_some (digits?_padded 2 _ _) ?_
    refine bind_eq_of_some (expect?_self ':' _) ?_
    exact bind_eq_of_some (digits?_padded 2 _ []) rfl
  · have hsign : digits? 4 c.plainText = none := by
      simp only [Clock.plainText, Clock.dateText, Clock.yearText, if_neg hyear, List.cons_append]
      split <;> rfl
    rw [hsign]
    rfl

theorem isBlank_head_yearText (year : Int) :
    ∃ c t, Clock.yearText year = c :: t ∧ isBlank c = false := by
  unfold Clock.yearText
  split
  · exact ⟨_, _, rfl, isBlank_of_isDigit (isDigit_digit _)⟩
  · refine ⟨_, _, rfl, ?_⟩
    split <;> decide

theorem trim_yearText_append (year : Int) {c : Char} (hc : isBlank c = false) (t : List Char) :
    trim (Clock.yearText year ++ (t ++ [c])) = Clock.yearText year ++ (t ++ [c]) := by
  obtain ⟨first, rest, hyear, hfirst⟩ := isBlank_head_yearText year
  have hlast : first :: (rest ++ (t ++ [c])) = (first :: (rest ++ t)) ++ [c] := by simp
  rw [hyear, List.cons_append]
  exact trim_eq_self hfirst hc hlast

theorem trim_plainText (c : Clock) : trim c.plainText = c.plainText := by
  have hlast : isBlank (digit c.second) = false := isBlank_of_isDigit (isDigit_digit _)
  have hparts : c.plainText = Clock.yearText c.date.year ++ (('-' :: padded 2 c.date.month ++
      '-' :: padded 2 c.date.day ++ ' ' :: (padded 2 c.hour ++ ':' :: padded 2 c.minute ++
        ':' :: padded 1 (c.second / 10))) ++ [digit c.second]) := by
    simp [Clock.plainText, Clock.dateText, Clock.timeText, padded]
  rw [hparts]
  exact trim_yearText_append c.date.year hlast _

/-- The text of a valid clock names the instant at which the wall clocks of the zone show it. -/
theorem parse?_plainText (zone : Zone) {c : Clock} (h : c.isValid = true) :
    parse? zone (String.ofList c.plainText) = instantOfWall? zone { c with fraction := 0 } := by
  rw [parse?, String.toList_ofList, trim_plainText]
  simp only [strict?_plainText, spacedClock?_plainText h, Option.some_or]

namespace Clock

theorem isValid_ofWall (wall : Int) {nanos : Nat} (hnanos : nanos < 2 * nanosPerSecond) :
    (ofWall wall nanos).isValid = true := by
  simp only [isValid, Bool.and_eq_true]
  refine ⟨⟨⟨Date.isValid_ofDays _, decide_eq_true ?_⟩, decide_eq_true ?_⟩, decide_eq_true ?_⟩ <;>
    simp only [ofWall, secondsPerDay, nanosPerSecond] at * <;> omega

theorem toWall_ofWall {wall : Int} {nanos : Nat} (hnanos : nanos < 2 * nanosPerSecond)
    (hleap : nanosPerSecond ≤ nanos → wall % 60 = 59) :
    (ofWall wall nanos).toWall = (wall, nanos) := by
  simp only [toWall, ofWall, Date.toDays_ofDays, secondsPerDay, nanosPerSecond] at *
  refine Prod.ext ?_ ?_
  · simp only
    omega
  · simp only
    omega

theorem toWall_bounds {c : Clock} (h : c.isValid = true) :
    firstDay c.date.year * secondsPerDay ≤ c.toWall.1 ∧
      c.toWall.1 < firstDay (c.date.year + 1) * secondsPerDay := by
  obtain ⟨hfirst, hlast⟩ := Date.toDays_bounds (isValid_date h)
  simp only [isValid, Bool.and_eq_true, decide_eq_true_eq] at h
  simp only [toWall, secondsPerDay]
  omega

theorem toWall_nanos {c : Clock} (h : c.isValid = true) (hfraction : c.fraction < nanosPerSecond) :
    c.toWall.2 < 2 * nanosPerSecond ∧ (nanosPerSecond ≤ c.toWall.2 → c.toWall.1 % 60 = 59) := by
  simp only [isValid, Bool.and_eq_true, decide_eq_true_eq] at h
  have hleap : c.second / 60 = 0 ∨ c.second / 60 = 1 := by omega
  simp only [toWall, secondsPerDay, nanosPerSecond] at *
  rcases hleap with hleap | hleap <;> rw [hleap] <;> omega

end Clock

end CounterBoard.Time
