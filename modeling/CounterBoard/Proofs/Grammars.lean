import CounterBoard.Proofs.ServerZone
import CounterBoard.Proofs.StrictForm

/-!
The grammars of times in snapshots do not overlap. A text that the strict grammar accepts goes on
after its seconds, where the lenient ones want it to end, and of the lenient ones one takes the
letter T for what follows the date while the other stops at it. So the grammar that accepts a text,
and not the order in which the grammars are tried, says which clock the text shows; the strict one
says also where that clock stands.
-/

set_option autoImplicit false
set_option relaxedAutoImplicit false

namespace CounterBoard.Time

open CounterBoard.Text

/-! ### Where the grammars part -/

theorem ne_nil_of_fraction? {tail zone : List Char} {n : Nat} {offset : Int}
    (hfraction : fraction? tail = some (n, zone))
    (heast : offset? (expect? ':') zone = some (offset, [])) : tail ≠ [] := by
  rintro rfl
  cases hfraction
  cases heast

theorem StrictForm.spacedClock?_eq_none {t : List Char} {c : Clock} {offset : Int}
    (h : StrictForm t c offset) : spacedClock? t = none := by
  obtain ⟨hvalid, -, hparting, hfraction, heast⟩ := h
  next parting tail zone =>
  have hdate := looseDate?_dateText (Clock.isValid_date hvalid) (parting :: (c.timeText ++ tail))
  simp only [isDateEnd, Bool.or_eq_true, beq_iff_eq] at hparting
  rcases hparting with (rfl | rfl) | rfl
  · exact bind_eq_of_some hdate rfl
  · exact bind_eq_of_some hdate rfl
  · exact wallClock?_eq_none_of_tail hvalid (congrArg some (trimStart_space_timeText c tail))
      (ne_nil_of_fraction? hfraction heast)

theorem StrictForm.letteredClock?_eq_none {t : List Char} {c : Clock} {offset : Int}
    (h : StrictForm t c offset) : letteredClock? t = none := by
  obtain ⟨hvalid, -, hparting, hfraction, heast⟩ := h
  next parting tail zone =>
  by_cases hletter : parting = 'T'
  · rw [hletter]
    exact wallClock?_eq_none_of_tail hvalid (expect?_self 'T' _)
      (ne_nil_of_fraction? hfraction heast)
  · refine bind_eq_of_some (looseDate?_dateText (Clock.isValid_date hvalid) _) ?_
    exact bind_eq_none_of_none (if_neg hletter)

theorem letteredClock?_eq_none_of_spacedClock? {t : List Char} {c : Clock}
    (h : spacedClock? t = some c) : letteredClock? t = none := by
  obtain ⟨⟨date, rest⟩, hdate, h⟩ := exists_of_bind_eq_some h
  have hletter : expect? 'T' rest = none := by
    cases hletter : expect? 'T' rest with
    | none => rfl
    | some after =>
      -- A letter is no blank, so the time of day would have to start with it.
      obtain rfl := expect?_eq_some_iff.mp hletter
      cases h
  exact bind_eq_of_some hdate (bind_eq_none_of_none hletter)

/-! ### The grammar that accepts a text -/

theorem isValid_and_fraction_of_wallClock? {parting : List Char → Option (List Char)}
    {t : List Char} {c : Clock} (h : wallClock? parting t = some c) : c.isValid = true ∧ c.fraction = 0 := by
  obtain ⟨⟨date, t₁⟩, -, h⟩ := exists_of_bind_eq_some h
  obtain ⟨t₂, -, h⟩ := exists_of_bind_eq_some h
  obtain ⟨⟨⟨hour, minute, second⟩, t₃⟩, -, h⟩ := exists_of_bind_eq_some h
  obtain ⟨-, -, h⟩ := exists_of_bind_eq_some h
  obtain ⟨_, hguard, h⟩ := exists_of_bind_eq_some h
  have hvalid : (⟨date, hour, minute, second, 0⟩ : Clock).isValid = true := by
    simpa [guard] using hguard
  cases h
  exact ⟨hvalid, rfl⟩

theorem instantOfWall?_eq_some_iff {zone : Zone} {c : Clock} {i : Instant} :
    instantOfWall? zone c = some i ↔ yearInRange c.date.year = true ∧
      ∃ offset, zone.offsetOfWall? c.toWall.1 = some offset ∧
        i.seconds = c.toWall.1 - offset ∧ i.nanos = c.toWall.2 := by
  constructor
  · intro h
    obtain ⟨_, hguard, h⟩ := exists_of_bind_eq_some h
    obtain ⟨offset, heast, h⟩ := exists_of_bind_eq_some h
    have hyear : yearInRange c.date.year = true := by simpa [guard] using hguard
    exact ⟨hyear, offset, heast, Instant.ofParts?_eq_some_iff.mp h⟩
  · rintro ⟨hyear, offset, heast, hparts⟩
    refine bind_eq_of_some (a := ()) (if_pos hyear) ?_
    exact bind_eq_of_some heast (Instant.ofParts?_eq_some_iff.mpr hparts)

inductive Grammar
  | strict
  | spaced
  | lettered
  deriving DecidableEq

namespace Grammar

def accepts : Grammar → List Char → Bool
  | strict, t => (strict? t).isSome
  | spaced, t => (spacedClock? t).any fun c => yearInRange c.date.year
  | lettered, t => (letteredClock? t).any fun c => yearInRange c.date.year

/-- The instant that the time which a grammar takes from a text names in a zone. -/
def read? (zone : Zone) : Grammar → List Char → Option Instant
  | strict, t => strict? t
  | spaced, t => (spacedClock? t).bind (instantOfWall? zone)
  | lettered, t => (letteredClock? t).bind (instantOfWall? zone)

/-- The instant that the first of some grammars to accept a text takes from it. -/
def readFirst? (zone : Zone) (order : List Grammar) (t : List Char) : Option Instant :=
  (order.find? fun g => g.accepts t).bind fun g => g.read? zone t

variable {t : List Char}

theorem strict_accepts_iff : strict.accepts t = true ↔ ∃ c offset, StrictForm t c offset := by
  constructor
  · intro h
    obtain ⟨i, hi⟩ := Option.isSome_iff_exists.mp h
    obtain ⟨c, offset, hform, -⟩ := strict?_sound hi
    exact ⟨c, offset, hform⟩
  · rintro ⟨c, offset, hform⟩
    obtain ⟨i, hi, -⟩ := hform.exists_instant
    simp [accepts, hi]

theorem spaced_accepts_iff : spaced.accepts t = true ↔
    ∃ c, spacedClock? t = some c ∧ yearInRange c.date.year = true := by
  simp [accepts, Option.any_eq_true]

theorem lettered_accepts_iff : lettered.accepts t = true ↔
    ∃ c, letteredClock? t = some c ∧ yearInRange c.date.year = true := by
  simp [accepts, Option.any_eq_true]

theorem not_accepts_of_strict (h : strict.accepts t = true) :
    spaced.accepts t = false ∧ lettered.accepts t = false := by
  obtain ⟨c, offset, hform⟩ := strict_accepts_iff.mp h
  rw [accepts, accepts, hform.spacedClock?_eq_none, hform.letteredClock?_eq_none]
  exact ⟨rfl, rfl⟩

theorem not_accepts_of_spaced (h : spaced.accepts t = true) : lettered.accepts t = false := by
  obtain ⟨c, hc, -⟩ := spaced_accepts_iff.mp h
  rw [accepts, letteredClock?_eq_none_of_spacedClock? hc]
  rfl

/-- At most one grammar accepts a text. -/
theorem eq_of_accepts {g h : Grammar} (hg : g.accepts t = true) (hh : h.accepts t = true) :
    g = h := by
  have hstrict := not_accepts_of_strict (t := t)
  have hspaced := not_accepts_of_spaced (t := t)
  cases g <;> cases h <;> simp_all

theorem accepts_of_read? {zone : Zone} {g : Grammar} {i : Instant} (h : g.read? zone t = some i) :
    g.accepts t = true := by
  cases g with
  | strict => exact Option.isSome_iff_exists.mpr ⟨i, h⟩
  | spaced =>
    obtain ⟨c, hc, hwall⟩ := Option.bind_eq_some_iff.mp h
    exact spaced_accepts_iff.mpr ⟨c, hc, (instantOfWall?_eq_some_iff.mp hwall).1⟩
  | lettered =>
    obtain ⟨c, hc, hwall⟩ := Option.bind_eq_some_iff.mp h
    exact lettered_accepts_iff.mpr ⟨c, hc, (instantOfWall?_eq_some_iff.mp hwall).1⟩

theorem readFirst?_eq_some_iff {zone : Zone} {order : List Grammar} (hall : ∀ g, g ∈ order)
    {i : Instant} : readFirst? zone order t = some i ↔ ∃ g : Grammar, g.read? zone t = some i := by
  constructor
  · intro h
    obtain ⟨g, -, hread⟩ := Option.bind_eq_some_iff.mp h
    exact ⟨g, hread⟩
  · rintro ⟨g, hread⟩
    have hg := accepts_of_read? hread
    obtain ⟨first, hfirst⟩ : ∃ first, order.find? (fun h => h.accepts t) = some first :=
      Option.isSome_iff_exists.mp (List.find?_isSome.mpr ⟨g, hall g, hg⟩)
    have haccepts : first.accepts t = true :=
      List.find?_some (p := fun h : Grammar => h.accepts t) hfirst
    obtain rfl := eq_of_accepts haccepts hg
    exact Option.bind_eq_some_iff.mpr ⟨first, hfirst, hread⟩

theorem exists_read?_iff {zone : Zone} {i : Instant} :
    (∃ g : Grammar, g.read? zone t = some i) ↔ strict? t = some i ∨
      ∃ c, (spacedClock? t = some c ∨ letteredClock? t = some c) ∧
        instantOfWall? zone c = some i := by
  constructor
  · rintro ⟨_ | _ | _, h⟩
    · exact .inl h
    · obtain ⟨c, hc, hwall⟩ := Option.bind_eq_some_iff.mp h
      exact .inr ⟨c, .inl hc, hwall⟩
    · obtain ⟨c, hc, hwall⟩ := Option.bind_eq_some_iff.mp h
      exact .inr ⟨c, .inr hc, hwall⟩
  · rintro (h | ⟨c, hc | hc, hwall⟩)
    · exact ⟨.strict, h⟩
    · exact ⟨.spaced, Option.bind_eq_some_iff.mpr ⟨c, hc, hwall⟩⟩
    · exact ⟨.lettered, Option.bind_eq_some_iff.mpr ⟨c, hc, hwall⟩⟩

end Grammar

/-- In a zone, a text shows a clock that stands so many seconds east of UTC: as the text says
itself, or as the wall clocks of the zone stand. -/
inductive Shows (zone : Zone) (t : List Char) (c : Clock) (offset : Int) : Prop
  | strict (form : StrictForm t c offset)
  | wall (form : spacedClock? t = some c ∨ letteredClock? t = some c)
      (year : yearInRange c.date.year = true) (east : zone.offsetOfWall? c.toWall.1 = some offset)

theorem exists_read?_iff_shows {zone : Zone} {t : List Char} {i : Instant} :
    (∃ g : Grammar, g.read? zone t = some i) ↔ ∃ c offset, Shows zone t c offset ∧
      i.seconds = c.toWall.1 - offset ∧ i.nanos = c.toWall.2 := by
  rw [Grammar.exists_read?_iff]
  constructor
  · rintro (h | ⟨c, hc, hwall⟩)
    · obtain ⟨c, offset, hform, hinstant⟩ := strict?_sound h
      rw [instantOf?, if_pos hform.isValid] at hinstant
      exact ⟨c, offset, .strict hform, Instant.ofParts?_eq_some_iff.mp hinstant⟩
    · obtain ⟨hyear, offset, heast, hparts⟩ := instantOfWall?_eq_some_iff.mp hwall
      exact ⟨c, offset, .wall hc hyear heast, hparts⟩
  · rintro ⟨c, offset, hform | ⟨hc, hyear, heast⟩, hparts⟩
    · rw [hform.strict?_eq, instantOf?, if_pos hform.isValid]
      exact .inl (Instant.ofParts?_eq_some_iff.mpr hparts)
    · exact .inr ⟨c, hc, instantOfWall?_eq_some_iff.mpr ⟨hyear, offset, heast, hparts⟩⟩

theorem strict?_eq_none_of_wall {t : List Char} {c : Clock}
    (h : spacedClock? t = some c ∨ letteredClock? t = some c) : strict? t = none := by
  cases hstrict : strict? t with
  | none => rfl
  | some i =>
    obtain ⟨d, offset, hform, -⟩ := strict?_sound hstrict
    rcases h with h | h
    · rw [hform.spacedClock?_eq_none] at h
      cases h
    · rw [hform.letteredClock?_eq_none] at h
      cases h

theorem spaced_or_lettered_eq_some_iff {t : List Char} {c : Clock} :
    (spacedClock? t).or (letteredClock? t) = some c ↔
      spacedClock? t = some c ∨ letteredClock? t = some c := by
  cases hspaced : spacedClock? t with
  | none => simp
  | some d => simp [letteredClock?_eq_none_of_spacedClock? hspaced]

theorem parse?_eq_some_iff_read? {zone : Zone} {text : String} {i : Instant} :
    parse? zone text = some i ↔ ∃ g : Grammar, g.read? zone (trim text.toList) = some i := by
  rw [parse?, Grammar.exists_read?_iff]
  generalize trim text.toList = t
  cases hstrict : strict? t with
  | some j =>
    have hnone : ¬ ∃ c, (spacedClock? t = some c ∨ letteredClock? t = some c) ∧
        instantOfWall? zone c = some i := by
      rintro ⟨c, hc, -⟩
      rw [strict?_eq_none_of_wall hc] at hstrict
      cases hstrict
    simp only [hnone, or_false]
  | none =>
    simp only [← spaced_or_lettered_eq_some_iff, reduceCtorEq, false_or]
    cases (spacedClock? t).or (letteredClock? t) <;> simp

theorem Zone.offsetOfWall?_mod_sixty {zone : Zone} (h : zone.IsRegular) {wall offset : Int}
    (heast : zone.offsetOfWall? wall = some offset) : offset % 60 = 0 := by
  cases zone with
  | fixed east =>
    cases heast
    exact h.2.2
  | seasonal standard summer starts ends =>
    obtain ⟨-, -, hminutes, rfl, -⟩ := h
    have hcases : offset = standard ∨ offset = standard + 3600 := by
      simp only [offsetOfWall?] at heast
      split at heast <;> split at heast <;> grind
    omega

theorem Shows.offset_mod_sixty {zone : Zone} (hzone : zone.IsRegular) {t : List Char} {c : Clock}
    {offset : Int} (h : Shows zone t c offset) : offset % 60 = 0 := by
  rcases h with hform | ⟨-, -, heast⟩
  · exact hform.offset_bounds.2.2
  · exact Zone.offsetOfWall?_mod_sixty hzone heast

theorem Shows.isValid_and_fraction_lt {zone : Zone} {t : List Char} {c : Clock} {offset : Int}
    (h : Shows zone t c offset) : c.isValid = true ∧ c.fraction < nanosPerSecond := by
  have hwhole : ∀ {parting}, wallClock? parting t = some c →
      c.isValid = true ∧ c.fraction < nanosPerSecond := by
    intro parting hc
    obtain ⟨hvalid, hzero⟩ := isValid_and_fraction_of_wallClock? hc
    rw [hzero]
    exact ⟨hvalid, by decide⟩
  rcases h with hform | ⟨hc | hc, -, -⟩
  · exact ⟨hform.isValid, hform.fraction_lt⟩
  · exact hwhole hc
  · exact hwhole hc

theorem parse?_eq_some_iff_shows {zone : Zone} {text : String} {i : Instant} :
    parse? zone text = some i ↔ ∃ c offset, Shows zone (trim text.toList) c offset ∧
      i.seconds = c.toWall.1 - offset ∧ i.nanos = c.toWall.2 :=
  parse?_eq_some_iff_read?.trans exists_read?_iff_shows

theorem Grammar.readFirst?_eq_parse? {zone : Zone} {order : List Grammar} (hall : ∀ g, g ∈ order)
    (text : String) : readFirst? zone order (trim text.toList) = parse? zone text := by
  ext i
  rw [readFirst?_eq_some_iff hall, parse?_eq_some_iff_read?]

theorem StrictForm.exists_parse? {text : String} {c : Clock} {offset : Int}
    (h : StrictForm (trim text.toList) c offset) :
    ∃ i : Instant, i.seconds = c.toWall.1 - offset ∧ i.nanos = c.toWall.2 ∧
      ∀ zone, parse? zone text = some i := by
  obtain ⟨i, -, hseconds, hnanos⟩ := h.exists_instant
  refine ⟨i, hseconds, hnanos, fun zone => ?_⟩
  exact parse?_eq_some_iff_shows.mpr ⟨c, offset, .strict h, hseconds, hnanos⟩

theorem Shows.toWall_nanos {zone : Zone} (hzone : zone.IsRegular) {t : List Char} {c : Clock}
    {offset : Int} (h : Shows zone t c offset) : c.toWall.2 < 2 * nanosPerSecond ∧
      (nanosPerSecond ≤ c.toWall.2 → (c.toWall.1 - offset) % 60 = 59) := by
  obtain ⟨hvalid, hfraction⟩ := h.isValid_and_fraction_lt
  obtain ⟨hnanos, hleap⟩ := Clock.toWall_nanos hvalid hfraction
  have hminutes := h.offset_mod_sixty hzone
  refine ⟨hnanos, fun hreach => ?_⟩
  have := hleap hreach
  omega

/-- The text of a time is unambiguous. At most one grammar accepts it, so grammars that are tried in
another order, or more than once, read the same. A text that the strict grammar accepts names one
instant in every zone. In each zone a text names an instant exactly if it shows a clock there whose
second lies in the calendar, and in the zones of servers a second 60 of that clock is a leap
second in UTC too. -/
theorem text_names_one_instant (text : String) :
    (∀ g h : Grammar, g.accepts (trim text.toList) = true → h.accepts (trim text.toList) = true →
      g = h) ∧
    (∀ (zone : Zone) (order : List Grammar), (∀ g, g ∈ order) →
      Grammar.readFirst? zone order (trim text.toList) = parse? zone text) ∧
    (Grammar.strict.accepts (trim text.toList) = true →
      ∃ (c : Clock) (offset : Int) (i : Instant), StrictForm (trim text.toList) c offset ∧
        i.seconds = c.toWall.1 - offset ∧ i.nanos = c.toWall.2 ∧
          ∀ zone, parse? zone text = some i) ∧
    (∀ (zone : Zone) (i : Instant), parse? zone text = some i ↔
      ∃ c offset, Shows zone (trim text.toList) c offset ∧
        i.seconds = c.toWall.1 - offset ∧ i.nanos = c.toWall.2) ∧
    ∀ zone ∈ Zone.servers, ∀ c offset, Shows zone (trim text.toList) c offset →
      c.toWall.2 < 2 * nanosPerSecond ∧
        (nanosPerSecond ≤ c.toWall.2 → (c.toWall.1 - offset) % 60 = 59) ∧
          (firstSecond ≤ c.toWall.1 - offset → c.toWall.1 - offset ≤ lastSecond →
            ∃ i : Instant, parse? zone text = some i ∧ i.seconds = c.toWall.1 - offset ∧
              i.nanos = c.toWall.2) := by
  refine ⟨fun g h => Grammar.eq_of_accepts,
    fun zone order hall => Grammar.readFirst?_eq_parse? hall text, ?strict,
    fun zone i => parse?_eq_some_iff_shows, ?servers⟩
  case strict =>
    intro haccepts
    obtain ⟨c, offset, hform⟩ := Grammar.strict_accepts_iff.mp haccepts
    obtain ⟨i, hseconds, hnanos, hzones⟩ := hform.exists_parse?
    exact ⟨c, offset, i, hform, hseconds, hnanos, hzones⟩
  case servers =>
    intro zone hzone c offset hshows
    obtain ⟨hnanos, hleap⟩ := hshows.toWall_nanos (Zone.isRegular_of_mem_servers hzone)
    refine ⟨hnanos, hleap, fun hfirst hlast => ?_⟩
    have hvalid : Representable (c.toWall.1 - offset) c.toWall.2 := ⟨hfirst, hlast, hnanos, hleap⟩
    exact ⟨⟨_, _, hvalid⟩, parse?_eq_some_iff_shows.mpr ⟨c, offset, hshows, rfl, rfl⟩, rfl, rfl⟩

private def leapText : String := "2015-07-01T08:59:60.125+09:00"

private def shortText : String := " 2024-7-1 9:30:60\t"

private def shortClock : Clock := ⟨⟨2024, 7, 1⟩, 9, 30, 60, 0⟩

/-- A leap second by a clock nine hours ahead, and a second 60 by a wall clock in New York. -/
theorem text_names_one_instant_second_sixty :
    Grammar.strict.accepts (trim leapText.toList) = true ∧
      (∀ g, g ∈ [Grammar.lettered, .spaced, .strict]) ∧
      Grammar.readFirst? .sydney [.lettered, .spaced, .strict] (trim leapText.toList) =
        some ⟨1435708799, 1125000000, by decide⟩ ∧
      (∀ zone, parse? zone leapText = some ⟨1435708799, 1125000000, by decide⟩) ∧
      Grammar.spaced.accepts (trim shortText.toList) = true ∧
      (∀ g : Grammar, g.accepts (trim shortText.toList) = true → g = .spaced) ∧
      Zone.newYork ∈ Zone.servers ∧ Shows .newYork (trim shortText.toList) shortClock (-14400) ∧
      ∃ i : Instant, parse? .newYork shortText = some i ∧ i.seconds = 1719840659 ∧
        i.nanos = 1000000000 ∧ i.seconds % 60 = 59 := by
  obtain ⟨-, horder, hstrict, -, -⟩ := text_names_one_instant leapText
  obtain ⟨hone, -, -, -, hservers⟩ := text_names_one_instant shortText
  have haccepts : Grammar.strict.accepts (trim leapText.toList) = true := by decide +kernel
  have hall : ∀ g, g ∈ [Grammar.lettered, .spaced, .strict] := by
    rintro (_ | _ | _) <;> decide
  have hleap : ∀ zone, parse? zone leapText = some ⟨1435708799, 1125000000, by decide⟩ := by
    obtain ⟨-, -, i, -, -, -, hzones⟩ := hstrict haccepts
    have hutc : parse? .utc leapText = some ⟨1435708799, 1125000000, by decide⟩ := by
      decide +kernel
    intro zone
    rw [hzones zone, ← hzones .utc, hutc]
  have hspaced : Grammar.spaced.accepts (trim shortText.toList) = true := by decide +kernel
  have hshows : Shows .newYork (trim shortText.toList) shortClock (-14400) :=
    .wall (.inl (by decide +kernel)) (by decide) (by decide +kernel)
  have hwall : shortClock.toWall = (1719826259, 1000000000) := by decide +kernel
  have hzone : Zone.newYork ∈ Zone.servers := by decide
  obtain ⟨-, hsixty, hread⟩ := hservers _ hzone _ _ hshows
  rw [hwall] at hsixty hread
  obtain ⟨i, hi, hseconds, hnanos⟩ := hread (by decide) (by decide)
  refine ⟨haccepts, hall, ?_, hleap, hspaced, fun g hg => hone g .spaced hg hspaced, hzone, hshows,
    i, hi, hseconds, hnanos, ?_⟩
  · rw [horder _ _ hall, hleap]
  · rw [hseconds]
    exact hsixty (by decide)

end CounterBoard.Time
