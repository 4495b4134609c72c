import CounterBoard.Proofs.OffsetText

/-!
Texts of instants in charts and series, read back. The relaxed reader takes signs and years of any
length, so it takes every instant of the calendar from its text, to the nanosecond.
-/

set_option autoImplicit false
set_option relaxedAutoImplicit false

namespace CounterBoard.Time

open CounterBoard.Text

theorem Instant.yearInRange_utcYear (t : Instant) : yearInRange t.utcYear = true := by
  obtain ⟨hfirst, hlast, -⟩ := t.valid
  obtain ⟨hlow, hhigh⟩ := Zone.yearOfSecond_spec t.seconds
  have hyear : t.utcYear = Zone.yearOfSecond t.seconds := rfl
  have hstart : firstDay (-262143) * secondsPerDay = firstSecond := by decide
  have hend : firstDay 262143 * secondsPerDay = lastSecond + 1 := by decide
  have hnotBefore : -262143 ≤ t.utcYear := by
    by_contra hbefore
    have hmono := daysBeforeYear_le (y := t.utcYear + 1) (z := -262143) (by omega)
    rw [← hyear] at hhigh
    simp only [firstDay, secondsPerDay] at *
    omega
  have hnotAfter : t.utcYear ≤ 262142 := by
    by_contra hafter
    have hmono := daysBeforeYear_le (y := 262143) (z := t.utcYear) (by omega)
    rw [← hyear] at hlow
    simp only [firstDay, secondsPerDay] at *
    omega
  simp [yearInRange, hnotBefore, hnotAfter]

theorem relaxed?_fullText {c : Clock} (h : c.isValid = true)
    (hfraction : c.fraction < nanosPerSecond) (hyear : yearInRange c.date.year = true) :
    relaxed? (c.fullText ++ ['Z']) = instantOf? c 0 := by
  have hhyphen : ∀ t, trimStart ('-' :: t) = '-' :: t := trimStart_cons (by decide)
  have hcolon : ∀ t, trimStart (':' :: t) = ':' :: t := trimStart_cons (by decide)
  have htext : c.fullText ++ ['Z'] = Clock.dateText c.date ++
      'T' :: (c.timeText ++ (Clock.fractionText c.fraction ++ ['Z'])) := by
    simp [Clock.fullText]
  rw [htext]
  refine bind_eq_of_some (looseDate?_dateText_of_pause hhyphen (Clock.isValid_date h) _) ?_
  refine bind_eq_of_some (show dateEnd? ('T' :: _) = some _ from rfl) ?_
  refine bind_eq_of_some (looseTime?_timeText_of_pause hcolon h _) ?_
  refine bind_eq_of_some (fraction?_fractionText hfraction (by decide) (by decide)) ?_
  refine bind_eq_of_some (show relaxedOffset? (trimStart ['Z']) = some (0, []) from rfl) ?_
  simp [hyear, trimStart, guard]

theorem relaxed?_zuluText (t : Instant) : relaxed? t.zuluText = some t := by
  have hfraction : t.utcClock.fraction < nanosPerSecond := Nat.mod_lt _ (by decide)
  rw [Instant.zuluText, relaxed?_fullText t.isValid_utcClock hfraction t.yearInRange_utcYear,
    t.instantOf?_utcClock]

end CounterBoard.Time
