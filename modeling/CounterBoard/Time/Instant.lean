import CounterBoard.Fault

/-!
Instants of the UTC time line with nanosecond precision, leap seconds included, and moving them
by whole seconds. A leap second is a second second numbered 59: its nanoseconds go on from one
thousand million. Instants are ordered by seconds, then by nanoseconds, so a leap second lies
between the ordinary second of its number and the next second.
-/

set_option autoImplicit false
set_option relaxedAutoImplicit false

namespace CounterBoard.Time

/-- Midnight that opens the year -262143, in seconds of the Unix epoch. -/
def firstSecond : Int := -8334601228800

/-- The last second of the year 262142, in seconds of the Unix epoch. -/
def lastSecond : Int := 8210266876799

def nanosPerSecond : Nat := 1000000000

/-- The second lies in the calendar, and only the last second of a minute can be a leap second. -/
def Representable (seconds : Int) (nanos : Nat) : Prop :=
  firstSecond ≤ seconds ∧ seconds ≤ lastSecond ∧ nanos < 2 * nanosPerSecond ∧
    (nanosPerSecond ≤ nanos → seconds % 60 = 59)

instance (seconds : Int) (nanos : Nat) : Decidable (Representable seconds nanos) := by
  unfold Representable; infer_instance

/-- A point of the UTC time line: seconds of the Unix epoch, and nanoseconds within the second. -/
structure Instant where
  seconds : Int
  nanos : Nat
  valid : Representable seconds nanos
  deriving DecidableEq

namespace Instant

@[ext]
theorem ext {s t : Instant} (hs : s.seconds = t.seconds) (hn : s.nanos = t.nanos) : s = t := by
  cases s; cases t; simp_all

def ofParts? (seconds : Int) (nanos : Nat) : Option Instant :=
  if h : Representable seconds nanos then some ⟨seconds, nanos, h⟩ else none

instance : LE Instant where
  le s t := s.seconds < t.seconds ∨ s.seconds = t.seconds ∧ s.nanos ≤ t.nanos

instance : LT Instant where
  lt s t := s.seconds < t.seconds ∨ s.seconds = t.seconds ∧ s.nanos < t.nanos

instance (s t : Instant) : Decidable (s ≤ t) :=
  inferInstanceAs (Decidable (s.seconds < t.seconds ∨ s.seconds = t.seconds ∧ s.nanos ≤ t.nanos))

instance (s t : Instant) : Decidable (s < t) :=
  inferInstanceAs (Decidable (s.seconds < t.seconds ∨ s.seconds = t.seconds ∧ s.nanos < t.nanos))

theorem le_iff {s t : Instant} :
    s ≤ t ↔ s.seconds < t.seconds ∨ s.seconds = t.seconds ∧ s.nanos ≤ t.nanos := Iff.rfl

theorem lt_iff {s t : Instant} :
    s < t ↔ s.seconds < t.seconds ∨ s.seconds = t.seconds ∧ s.nanos < t.nanos := Iff.rfl

theorem le_refl (s : Instant) : s ≤ s := by
  rw [le_iff]; omega

theorem le_trans {s t u : Instant} (hst : s ≤ t) (htu : t ≤ u) : s ≤ u := by
  rw [le_iff] at *; omega

theorem le_antisymm {s t : Instant} (hst : s ≤ t) (hts : t ≤ s) : s = t := by
  rw [le_iff] at hst hts
  exact ext (by omega) (by omega)

theorem not_le {s t : Instant} : ¬ s ≤ t ↔ t < s := by
  rw [le_iff, lt_iff]; omega

theorem le_of_lt {s t : Instant} (h : s < t) : s ≤ t := by
  rw [lt_iff] at h
  rw [le_iff]
  omega

theorem lt_of_lt_of_le {s t u : Instant} (hst : s < t) (htu : t ≤ u) : s < u := by
  rw [lt_iff] at hst
  rw [le_iff] at htu
  rw [lt_iff]
  omega

theorem lt_of_le_of_lt {s t u : Instant} (hst : s ≤ t) (htu : t < u) : s < u := by
  rw [le_iff] at hst
  rw [lt_iff] at htu
  rw [lt_iff]
  omega

def isLeap (t : Instant) : Bool :=
  nanosPerSecond ≤ t.nanos

/-- The nanoseconds within the second, a leap second counted as a second of its own. -/
def fraction (t : Instant) : Nat :=
  t.nanos % nanosPerSecond

theorem isLeap_eq_false_iff {t : Instant} : t.isLeap = false ↔ t.nanos < nanosPerSecond :=
  decide_eq_false_iff_not.trans Nat.not_le

theorem fraction_lt (t : Instant) : t.fraction < nanosPerSecond :=
  Nat.mod_lt _ (by decide)

theorem fraction_eq_nanos {t : Instant} (ht : t.isLeap = false) : t.fraction = t.nanos :=
  Nat.mod_eq_of_lt (isLeap_eq_false_iff.mp ht)

theorem fraction_eq_of_nanos_eq {t u : Instant} (h : u.nanos = t.fraction) :
    u.fraction = t.fraction := by
  rw [fraction, h]
  exact Nat.mod_mod _ _

/-- The instant a positive number of seconds later; a leap second counts as the ordinary second
of its number. -/
def later (t : Instant) (span : Nat) : Except Fault Instant :=
  match ofParts? (t.seconds + span) t.fraction with
  | some u => .ok u
  | none => .error .afterLastInstant

/-- The instant a positive number of seconds earlier; a leap second counts as the second that
follows it. -/
def earlier (t : Instant) (span : Nat) : Except Fault Instant :=
  let seconds := if t.isLeap then t.seconds + 1 else t.seconds
  match ofParts? (seconds - span) t.fraction with
  | some u => .ok u
  | none => .error .beforeFirstInstant

theorem ofParts?_eq_some_iff {seconds : Int} {nanos : Nat} {t : Instant} :
    ofParts? seconds nanos = some t ↔ t.seconds = seconds ∧ t.nanos = nanos := by
  unfold ofParts?
  constructor
  · intro h
    split at h
    · cases h; exact ⟨rfl, rfl⟩
    · cases h
  · rintro ⟨rfl, rfl⟩
    simp [t.valid]

theorem later_eq_ok_iff {t u : Instant} {span : Nat} :
    t.later span = .ok u ↔ u.seconds = t.seconds + span ∧ u.nanos = t.fraction := by
  rw [← ofParts?_eq_some_iff]
  unfold later
  split <;> simp_all

theorem earlier_eq_ok_iff {t u : Instant} {span : Nat} :
    t.earlier span = .ok u ↔
      u.seconds = t.seconds + (if t.isLeap then 1 else 0) - span ∧ u.nanos = t.fraction := by
  rw [← ofParts?_eq_some_iff]
  unfold earlier
  by_cases h : t.isLeap <;> simp only [h, if_true, if_false, Bool.false_eq_true, Int.add_zero] <;>
    split <;> simp_all

end Instant

end CounterBoard.Time
