import CounterBoard.Proofs.StrictForm

/-!
Texts of instants in snapshots, read back. Such a text carries its offset, so every server reads
the same from it: the instant that it was written for, to the nanosecond, if its year has four
digits and no sign. The text of any other year fits none of the grammars, since the strict one takes
no sign and the lenient ones take no offset.
-/

set_option autoImplicit false
set_option relaxedAutoImplicit false

namespace CounterBoard.Text

theorem dropWhile_isDigit {t : List Char} (h : StopsDigits t) : t.dropWhile Char.isDigit = t := by
  rcases t with _ | ⟨c, t⟩
  · rfl
  · have hc : c.isDigit = false := h c rfl
    simp [hc]

end CounterBoard.Text

namespace CounterBoard.Time

open CounterBoard.Text

theorem decimals?_padded {width n : Nat} (hwidth : width ≠ 0) (hnine : width ≤ 9)
    (hn : n < tenTo width) {rest : List Char} (hrest : StopsDigits rest) :
    decimals? (padded width n ++ rest) = some (n * tenTo (9 - width), rest) := by
  have hdigits : ∀ c ∈ padded width n, c.isDigit = true := fun c hc => isDigit_of_mem_padded hc
  have hsplit : splitDigits 9 (padded width n ++ rest) = (padded width n, rest) :=
    splitDigits_of_digits hdigits (by simpa using hnine) (.inr hrest)
  rw [decimals?, hsplit]
  split
  · next hnil =>
    have hlength := length_padded width n
    rw [(Prod.mk.inj hnil).1] at hlength
    exact absurd hlength.symm hwidth
  · next heq =>
    obtain ⟨rfl, rfl⟩ := Prod.mk.inj heq
    rw [number_padded, length_padded, Nat.mod_eq_of_lt hn, dropWhile_isDigit hrest]

theorem fraction?_fractionText {n : Nat} (hn : n < nanosPerSecond) {c : Char} {rest : List Char}
    (hdigit : c.isDigit = false) (hpoint : c ≠ '.') :
    fraction? (Clock.fractionText n ++ c :: rest) = some (n, c :: rest) := by
  have hstop : StopsDigits (c :: rest) := stopsDigits_cons hdigit
  unfold Clock.fractionText
  split
  · next hzero =>
    rw [List.nil_append, fraction?, hzero]
    rintro t ⟨rfl⟩
    exact hpoint rfl
  · split
    · next hmillis =>
      have hsmall : n / 1000000 < tenTo 3 := by
        change _ < 1000
        rw [nanosPerSecond] at hn
        omega
      change decimals? (padded 3 (n / 1000000) ++ c :: rest) = _
      rw [decimals?_padded (by decide) (by decide) hsmall hstop]
      congr 2
      change n / 1000000 * 1000000 = n
      omega
    · split
      · next hmicros =>
        have hsmall : n / 1000 < tenTo 6 := by
          change _ < 1000000
          rw [nanosPerSecond] at hn
          omega
        change decimals? (padded 6 (n / 1000) ++ c :: rest) = _
        rw [decimals?_padded (by decide) (by decide) hsmall hstop]
        congr 2
        change n / 1000 * 1000 = n
        omega
      · change decimals? (padded 9 n ++ c :: rest) = _
        rw [decimals?_padded (by decide) (by decide) hn hstop]
        congr 2
        exact Nat.mul_one n

private theorem fullText_append (c : Clock) (rest : List Char) :
    c.fullText ++ rest = Clock.dateText c.date ++
      'T' :: (c.timeText ++ (Clock.fractionText c.fraction ++ rest)) := by
  simp [Clock.fullText]

theorem strict?_fullText {c : Clock} (h : c.isValid = true)
    (hfraction : c.fraction < nanosPerSecond) (hyear : 0 ≤ c.date.year ∧ c.date.year ≤ 9999) :
    strict? (c.fullText ++ "+00:00".toList) = instantOf? c 0 := by
  have hread : fraction? (Clock.fractionText c.fraction ++ "+00:00".toList) =
      some (c.fraction, "+00:00".toList) :=
    fraction?_fractionText hfraction (by decide) (by decide)
  rw [fullText_append]
  exact (StrictForm.intro h hyear rfl hread rfl).strict?_eq

theorem strict?_fullText_of_signed {c : Clock} (hyear : ¬ (0 ≤ c.date.year ∧ c.date.year ≤ 9999))
    (rest : List Char) : strict? (c.fullText ++ rest) = none := by
  have hsign : digits? 4 (c.fullText ++ rest) = none := by
    simp only [Clock.fullText, Clock.dateText, Clock.yearText, if_neg hyear, List.cons_append]
    split <;> rfl
  rw [strict?, hsign]
  rfl

theorem spacedClock?_fullText {c : Clock} (h : c.isValid = true) (rest : List Char) :
    spacedClock? (c.fullText ++ rest) = none := by
  rw [fullText_append]
  refine bind_eq_of_some (looseDate?_dateText (Clock.isValid_date h) _) ?_
  exact bind_eq_of_some (show some (trimStart ('T' :: _)) = some _ from rfl) rfl

theorem letteredClock?_fullText {c : Clock} (h : c.isValid = true) {rest : List Char}
    (hrest : rest ≠ []) : letteredClock? (c.fullText ++ rest) = none := by
  rw [fullText_append]
  exact wallClock?_eq_none_of_tail h (expect?_self 'T' _) (by simp [hrest])

namespace Instant

def utcYear (t : Instant) : Int :=
  t.utcClock.date.year

/-- The year is written in four digits, with no sign. -/
def HasPlainYear (t : Instant) : Prop :=
  0 ≤ t.utcYear ∧ t.utcYear ≤ 9999

instance (t : Instant) : Decidable t.HasPlainYear :=
  inferInstanceAs (Decidable (_ ∧ _))

theorem isValid_utcClock (t : Instant) : t.utcClock.isValid = true :=
  Clock.isValid_ofWall t.seconds t.valid.2.2.1

theorem instantOf?_utcClock (t : Instant) : instantOf? t.utcClock 0 = some t := by
  have hwall : t.utcClock.toWall = (t.seconds, t.nanos) :=
    Clock.toWall_ofWall t.valid.2.2.1 t.valid.2.2.2
  rw [instantOf?, if_pos t.isValid_utcClock, hwall]
  change ofParts? (t.seconds - 0) t.nanos = some t
  rw [ofParts?_eq_some_iff]
  exact ⟨by omega, rfl⟩

theorem trim_offsetText (t : Instant) : trim t.offsetText = t.offsetText := by
  have hparts : t.offsetText = Clock.yearText t.utcClock.date.year ++ (('-' ::
      padded 2 t.utcClock.date.month ++ '-' :: padded 2 t.utcClock.date.day ++
        'T' :: t.utcClock.timeText ++ Clock.fractionText t.utcClock.fraction ++ "+00:0".toList) ++
          ['0']) := by
    simp [offsetText, Clock.fullText, Clock.dateText]
  rw [hparts]
  exact trim_yearText_append _ (by decide) _

end Instant

/-- The text of an instant with its offset names that instant in every zone if its year is plain,
and nothing in any zone if it is not. -/
theorem parse?_offsetText (zone : Zone) (t : Instant) :
    parse? zone (String.ofList t.offsetText) = if t.HasPlainYear then some t else none := by
  rw [parse?, String.toList_ofList, t.trim_offsetText, Instant.offsetText]
  by_cases hyear : t.HasPlainYear
  · have hfraction : t.utcClock.fraction < nanosPerSecond := Nat.mod_lt _ (by decide)
    have hstrict : strict? (t.utcClock.fullText ++ "+00:00".toList) = some t := by
      rw [strict?_fullText t.isValid_utcClock hfraction hyear, t.instantOf?_utcClock]
    rw [if_pos hyear]
    simp only [hstrict]
  · have hmore : "+00:00".toList ≠ [] := by decide
    rw [if_neg hyear]
    simp only [strict?_fullText_of_signed hyear, spacedClock?_fullText t.isValid_utcClock,
      letteredClock?_fullText t.isValid_utcClock hmore, Option.none_or]

end CounterBoard.Time
