import CounterBoard.Proofs.JsonText
import CounterBoard.Proofs.Window
import CounterBoard.Wire.Status
import Mathlib.Data.List.Nodup

/-!
The labels that a body carries. It is an object with at most one member of each of the two names, or
an array of both labels; null carries no label, and members of other names are passed over. A body
is accepted exactly if it carries labels, and as what it carries.
-/

set_option autoImplicit false
set_option relaxedAutoImplicit false

namespace CounterBoard.Json

theorem bind_eq_ok_iff {ε α β : Type} {x : Except ε α} {next : α → Except ε β} {b : β} :
    x >>= next = .ok b ↔ ∃ a, x = .ok a ∧ next a = .ok b :=
  ⟨exists_of_bind_eq_ok, fun ⟨_, hx, hnext⟩ => bind_eq_of_ok hx hnext⟩

theorem word_eq_ok_iff {cs : List Char} {t rest : Input} :
    word cs t = .ok rest ↔ t = cs.map some ++ rest := by
  induction cs generalizing t with
  | nil => simp [word]
  | cons c cs ih =>
    cases t with
    | nil => simp [word]
    | cons d t =>
      by_cases hd : d = some c <;> simp [word, hd, ih]

theorem blanks_blanks (t : Input) : blanks (blanks t) = blanks t := by
  fun_induction blanks t with
  | case1 t ih | case2 t ih | case3 t ih | case4 t ih => exact ih
  | case5 t hspace htab hfeed hreturn => exact blanks.eq_5 t hspace htab hfeed hreturn

theorem length_blanks_le (t : Input) : (blanks t).length ≤ t.length := by
  fun_induction blanks t with
  | case1 t ih | case2 t ih | case3 t ih | case4 t ih => exact Nat.le_succ_of_le ih
  | case5 => exact Nat.le_refl _

theorem length_le_of_skipFrom {frames : List Frame} {place : Place} {t rest : Input}
    (h : skipFrom frames place t = .ok rest) : rest.length ≤ t.length := by
  induction t generalizing frames place with
  | nil =>
    rw [skipFrom] at h
    split at h <;> cases h
    exact Nat.le_refl _
  | cons s t ih =>
    rw [skipFrom] at h
    split at h
    · exact Nat.le_succ_of_le (ih h)
    · cases h
      exact Nat.le_succ _
    · cases h
      exact Nat.le_refl _
    · cases h

/-- An input starts with the inside of a string and its closing quote. -/
inductive Spells : Input → List Char → Input → Prop
  | close (t : Input) : Spells (some '"' :: t) [] t
  | plain {c : Char} {cs : List Char} {t rest : Input} (hquote : c ≠ '"') (hslash : c ≠ '\\')
      (hcontrol : 0x20 ≤ c.toNat) (hmore : Spells t cs rest) : Spells (some c :: t) (c :: cs) rest
  | escape {e c : Char} {cs : List Char} {t rest : Input} (hescape : plainEscape? e = some c)
      (hmore : Spells t cs rest) : Spells (some '\\' :: some e :: t) (c :: cs) rest
  | unit {a b c d : Char} {n : Nat} {cs : List Char} {t rest : Input}
      (hunit : codeUnit? a b c d = some n) (hplane : n < 0xD800 ∨ 0xE000 ≤ n)
      (hmore : Spells t cs rest) :
      Spells (some '\\' :: some 'u' :: some a :: some b :: some c :: some d :: t)
        (Char.ofNat n :: cs) rest
  | pair {a b c d e f g h : Char} {high low : Nat} {cs : List Char} {t rest : Input}
      (hunit : codeUnit? a b c d = some high) (hhigh : 0xD800 ≤ high ∧ high < 0xDC00)
      (hnext : codeUnit? e f g h = some low) (hlow : 0xDC00 ≤ low ∧ low < 0xE000)
      (hmore : Spells t cs rest) :
      Spells (some '\\' :: some 'u' :: some a :: some b :: some c :: some d ::
          some '\\' :: some 'u' :: some e :: some f :: some g :: some h :: t)
        (Char.ofNat (0x10000 + (high - 0xD800) * 0x400 + (low - 0xDC00)) :: cs) rest

theorem Spells.length_lt {t rest : Input} {cs : List Char} (h : Spells t cs rest) :
    rest.length < t.length := by
  induction h with
  | close => exact Nat.lt_succ_self _
  | plain _ _ _ _ ih | escape _ _ ih | unit _ _ _ ih | pair _ _ _ _ _ ih =>
    simp only [List.length_cons]
    omega

theorem isHighSurrogate_iff {n : Nat} : isHighSurrogate n = true ↔ 0xD800 ≤ n ∧ n < 0xDC00 := by
  simp [isHighSurrogate]

theorem isLowSurrogate_iff {n : Nat} : isLowSurrogate n = true ↔ 0xDC00 ≤ n ∧ n < 0xE000 := by
  simp [isLowSurrogate]

theorem exists_spells_of_characters {read cs : List Char} {t rest : Input}
    (h : characters read t = .ok (cs, rest)) :
    ∃ more, Spells t more rest ∧ cs = read.reverse ++ more := by
  have hcons : ∀ {read more : List Char} {c : Char}, cs = (c :: read).reverse ++ more →
      cs = read.reverse ++ c :: more := by
    intro read more c hcs
    simpa using hcs
  fun_induction characters read t with
  | case1 read t =>
    cases h
    exact ⟨[], .close _, (List.append_nil _).symm⟩
  | case4 read a b c d unit hunit hlow hhigh e f g i t low hnext hpair ih =>
    obtain ⟨more, hspells, hcs⟩ := ih h
    have hpair := isLowSurrogate_iff.mp hpair
    exact ⟨_, .pair hunit (isHighSurrogate_iff.mp hhigh) hnext hpair hspells, hcons hcs⟩
  | case8 read a b c d t unit hunit hlow hhigh ih =>
    obtain ⟨more, hspells, hcs⟩ := ih h
    refine ⟨_, .unit hunit ?_ hspells, hcons hcs⟩
    rw [isLowSurrogate_iff] at hlow
    rw [isHighSurrogate_iff] at hhigh
    omega
  | case9 read e t hshort c hescape ih =>
    obtain ⟨more, hspells, hcs⟩ := ih h
    exact ⟨_, .escape hescape hspells, hcons hcs⟩
  | case12 read c t hquote hunit hescape hplain ih =>
    obtain ⟨more, hspells, hcs⟩ := ih h
    rw [not_or, Nat.not_lt] at hplain
    exact ⟨_, .plain hquote hplain.1 hplain.2 hspells, hcons hcs⟩
  | _ => cases h

theorem characters_of_spells {t rest : Input} {cs : List Char} (h : Spells t cs rest)
    (read : List Char) : characters read t = .ok (read.reverse ++ cs, rest) := by
  induction h generalizing read with
  | close => simp [characters]
  | plain hquote hslash hcontrol _ ih =>
    rw [characters]
    · rw [if_neg (by simp [hslash, hcontrol]), ih, List.reverse_cons, List.append_assoc]
      rfl
    · exact hquote
    · intro _ _ _ _ _ _
      exact hslash
    · intro _ _ _
      exact hslash
  | escape hescape _ ih =>
    rw [characters_plainEscape hescape, ih, List.reverse_cons, List.append_assoc]
    rfl
  | @unit _ _ _ _ n _ _ _ hunit hplane _ ih =>
    have hlow : ¬ isLowSurrogate n = true := by
      rw [isLowSurrogate_iff]
      omega
    have hhigh : ¬ isHighSurrogate n = true := by
      rw [isHighSurrogate_iff]
      omega
    simp [characters, hunit, hlow, hhigh, ih]
  | @pair _ _ _ _ _ _ _ _ high low _ _ _ hunit hhigh hnext hlow _ ih =>
    have hfirst : ¬ isLowSurrogate high = true := by
      rw [isLowSurrogate_iff]
      omega
    rw [← isHighSurrogate_iff] at hhigh
    rw [← isLowSurrogate_iff] at hlow
    simp [characters, hunit, hfirst, hhigh, hnext, hlow, pairChar, ih]

theorem characters_eq_ok_iff {cs : List Char} {t rest : Input} :
    characters [] t = .ok (cs, rest) ↔ Spells t cs rest := by
  constructor
  · intro h
    obtain ⟨more, hspells, rfl⟩ := exists_spells_of_characters h
    exact hspells
  · intro h
    exact characters_of_spells h []

end CounterBoard.Json

namespace CounterBoard.SelectionRequest

open CounterBoard.Json

/-- A label is null or a string. -/
inductive Label (t : Input) : Option String → Input → Prop
  | null {rest : Input} (h : blanks t = some 'n' :: some 'u' :: some 'l' :: some 'l' :: rest) :
      Label t none rest
  | text {inside rest : Input} {cs : List Char} (h : blanks t = some '"' :: inside)
      (hspells : Spells inside cs rest) : Label t (some (String.ofList cs)) rest

theorem nullable_string_eq_ok_iff {t rest : Input} {value : Option String} :
    nullable string t = .ok (value, rest) ↔ Label t value rest := by
  constructor
  · intro h
    rw [nullable] at h
    split at h
    · next hnull =>
      obtain ⟨after, hword, hvalue⟩ := exists_of_bind_eq_ok h
      cases hvalue
      rw [word_eq_ok_iff] at hword
      exact .null (hnull.trans (by rw [hword]; rfl))
    · obtain ⟨⟨text, after⟩, hstring, hvalue⟩ := exists_of_bind_eq_ok h
      cases hvalue
      rw [string, blanks_blanks] at hstring
      split at hstring
      · next hquote =>
        obtain ⟨⟨cs, behind⟩, hchars, htext⟩ := exists_of_bind_eq_ok hstring
        cases htext
        exact .text hquote (characters_eq_ok_iff.mp hchars)
      · cases hstring
  · rintro (hnull | ⟨hquote, hspells⟩)
    · rw [nullable, hnull]
      rfl
    · rw [nullable, hquote]
      refine bind_eq_of_ok (a := (_, rest)) ?_ rfl
      rw [string]
      exact bind_eq_of_ok (characters_eq_ok_iff.mpr hspells) rfl

inductive Name (t : Input) : String → Input → Prop
  | intro {inside after rest : Input} {cs : List Char} (hquote : blanks t = some '"' :: inside)
      (hspells : Spells inside cs after) (hcolon : blanks after = some ':' :: rest) :
      Name t (String.ofList cs) rest

/-- The first member of an object has nothing in front, and every other one has a comma. -/
def IsNext : Bool → Input → Input → Prop
  | true, t, u => u = t
  | false, t, u => blanks t = some ',' :: u

/-- The members of an object up to its end, with what is given under one of the two names. Members
of other names are passed over. -/
inductive Members : Bool → Input → List (String × Option String) → Input → Prop
  | close {isFirst : Bool} {t rest : Input} (h : blanks t = some '\x7d' :: rest) :
      Members isFirst t [] rest
  | label {isFirst : Bool} {t u v w rest : Input} {name : String} {value : Option String}
      {given : List (String × Option String)} (hnext : IsNext isFirst t u) (hname : Name u name v)
      (hknown : name = "granularity" ∨ name = "lookback") (hvalue : Label v value w)
      (hmore : Members false w given rest) : Members isFirst t ((name, value) :: given) rest
  | other {isFirst : Bool} {t u v w rest : Input} {name : String}
      {given : List (String × Option String)} (hnext : IsNext isFirst t u) (hname : Name u name v)
      (hother : name ≠ "granularity" ∧ name ≠ "lookback") (hskip : skip v = .ok w)
      (hmore : Members false w given rest) : Members isFirst t given rest

/-- The labels that a text carries, with nothing but blanks behind them. -/
inductive Carries (t : Input) : SelectionRequest → Prop
  | object {u rest : Input} {given : List (String × Option String)}
      (hopen : blanks t = some '\x7b' :: u) (hmembers : Members true u given rest)
      (honce : (given.map Prod.fst).Nodup) (hend : blanks rest = []) :
      Carries t ⟨(given.lookup "granularity").getD none, (given.lookup "lookback").getD none⟩
  | array {u v w x rest : Input} {granularity lookback : Option String}
      (hopen : blanks t = some '[' :: u) (hfirst : Label u granularity v)
      (hcomma : blanks v = some ',' :: w) (hsecond : Label w lookback x)
      (hclose : blanks x = some ']' :: rest) (hend : blanks rest = []) :
      Carries t ⟨granularity, lookback⟩

def draftOf (given : List (String × Option String)) : Draft :=
  ⟨given.lookup "granularity", given.lookup "lookback"⟩

theorem exists_field {name : String} (h : name = "granularity" ∨ name = "lookback") :
    ∃ field, fields.find? (fun f => f.name = name) = some field ∧
      ∀ given, (field.isGiven (draftOf given) = (given.lookup name).isSome) ∧
        (given.lookup name = none → ∀ t, field.read (draftOf given) t =
          nullable string t >>= fun read => .ok (draftOf (given ++ [(name, read.1)]), read.2)) := by
  rcases h with rfl | rfl
  · refine ⟨_, rfl, fun given => ⟨rfl, fun hnone t => ?_⟩⟩
    change (nullable string t >>= _) = _
    have hdraft : ∀ value : Option String, draftOf (given ++ [("granularity", value)]) =
        { draftOf given with granularity := some value } := by
      intro value
      have hother : List.lookup "lookback" [("granularity", value)] = none := rfl
      simp [draftOf, List.lookup_append, hnone, hother]
    simp only [hdraft]
  · refine ⟨_, rfl, fun given => ⟨rfl, fun hnone t => ?_⟩⟩
    change (nullable string t >>= _) = _
    have hdraft : ∀ value : Option String, draftOf (given ++ [("lookback", value)]) =
        { draftOf given with lookback := some value } := by
      intro value
      have hother : List.lookup "granularity" [("lookback", value)] = none := rfl
      simp [draftOf, List.lookup_append, hnone, hother]
    simp only [hdraft]

theorem find?_eq_none {name : String} (h : name ≠ "granularity" ∧ name ≠ "lookback") :
    fields.find? (fun f => f.name = name) = none := by
  simp [fields, FieldReader.kept, h.1.symm, h.2.symm]

theorem name_blanks {t rest : Input} {name : String} :
    Name (blanks t) name rest ↔ Name t name rest := by
  constructor
  · rintro ⟨hquote, hspells, hcolon⟩
    exact ⟨blanks_blanks t ▸ hquote, hspells, hcolon⟩
  · rintro ⟨hquote, hspells, hcolon⟩
    exact ⟨(blanks_blanks t).trans hquote, hspells, hcolon⟩

/-- What one member does to the draft. -/
inductive Adds (given : List (String × Option String)) (t : Input) :
    List (String × Option String) → Input → Prop
  | label {u rest : Input} {name : String} {value : Option String} (hname : Name t name u)
      (hknown : name = "granularity" ∨ name = "lookback") (honce : given.lookup name = none)
      (hvalue : Label u value rest) : Adds given t (given ++ [(name, value)]) rest
  | other {u rest : Input} {name : String} (hname : Name t name u)
      (hother : name ≠ "granularity" ∧ name ≠ "lookback") (hskip : skip u = .ok rest) :
      Adds given t given rest

theorem member_eq_of_name {t u : Input} {name : String} (h : Name t name u) (draft : Draft) :
    member fields draft t = match fields.find? fun f => f.name = name with
      | some field =>
        if field.isGiven draft then .error .mismatch else field.read draft u
      | none => skip u >>= fun rest => .ok (draft, rest) := by
  obtain ⟨hquote, hspells, hcolon⟩ := h
  have hread : ∀ {after : Input}, blanks after = some ':' :: u → colon after = .ok u :=
    fun h => word_eq_ok_iff.mpr h
  refine bind_eq_of_ok (word_eq_ok_iff.mpr hquote) ?_
  refine bind_eq_of_ok (characters_eq_ok_iff.mpr hspells) ?_
  simp only [hread hcolon]
  cases List.find? _ fields <;> rfl

theorem exists_name {draft : Draft} {t : Input} {read : Draft × Input}
    (h : member fields draft t = .ok read) : ∃ name u, Name t name u := by
  obtain ⟨inside, hquote, hinside⟩ := exists_of_bind_eq_ok h
  obtain ⟨⟨cs, after⟩, hchars, hafter⟩ := exists_of_bind_eq_ok hinside
  have hcolon : ∃ u, colon after = .ok u := by
    dsimp only at hafter
    split at hafter
    · split at hafter
      · cases hafter
      · obtain ⟨u, hcolon, -⟩ := exists_of_bind_eq_ok hafter
        exact ⟨u, hcolon⟩
    · obtain ⟨u, hcolon, -⟩ := exists_of_bind_eq_ok hafter
      exact ⟨u, hcolon⟩
  obtain ⟨u, hcolon⟩ := hcolon
  exact ⟨_, u, word_eq_ok_iff.mp hquote, characters_eq_ok_iff.mp hchars, word_eq_ok_iff.mp hcolon⟩

theorem member_eq_ok_iff {given : List (String × Option String)} {t rest : Input} {draft : Draft} :
    member fields (draftOf given) t = .ok (draft, rest) ↔
      ∃ next, Adds given t next rest ∧ draft = draftOf next := by
  constructor
  · intro h
    obtain ⟨name, u, hname⟩ := exists_name h
    rw [member_eq_of_name hname] at h
    by_cases hknown : name = "granularity" ∨ name = "lookback"
    · obtain ⟨field, hfield, hread⟩ := exists_field hknown
      obtain ⟨hgiven, hread⟩ := hread given
      simp only [hfield, hgiven] at h
      cases honce : given.lookup name with
      | some value =>
        rw [honce] at h
        cases h
      | none =>
        rw [honce] at h
        obtain ⟨⟨value, behind⟩, hlabel, hdraft⟩ :=
          exists_of_bind_eq_ok ((hread honce u).symm.trans h)
        cases hdraft
        exact ⟨_, .label hname hknown honce (nullable_string_eq_ok_iff.mp hlabel), rfl⟩
    · rw [not_or] at hknown
      simp only [find?_eq_none hknown] at h
      obtain ⟨behind, hskip, hdraft⟩ := exists_of_bind_eq_ok h
      cases hdraft
      exact ⟨_, .other hname hknown hskip, rfl⟩
  · rintro ⟨next, hadds, rfl⟩
    cases hadds with
    | label hname hknown honce hvalue =>
      obtain ⟨field, hfield, hread⟩ := exists_field hknown
      obtain ⟨hgiven, hread⟩ := hread given
      rw [member_eq_of_name hname, hfield]
      simp only [hgiven, honce, Option.isSome_none, Bool.false_eq_true, if_false]
      rw [hread honce]
      exact bind_eq_of_ok (nullable_string_eq_ok_iff.mpr hvalue) rfl
    | other hname hother hskip =>
      rw [member_eq_of_name hname, find?_eq_none hother]
      exact bind_eq_of_ok hskip rfl

theorem Name.length_lt {t rest : Input} {name : String} (h : Name t name rest) :
    rest.length < t.length := by
  obtain @⟨inside, after, _, _, hquote, hspells, hcolon⟩ := h
  have hstart := length_blanks_le t
  have hinside := hspells.length_lt
  have hbehind := length_blanks_le after
  rw [hcolon] at hbehind
  rw [hquote] at hstart
  simp only [List.length_cons] at hstart hbehind
  omega

theorem Label.length_lt {t rest : Input} {value : Option String} (h : Label t value rest) :
    rest.length < t.length := by
  have hstart := length_blanks_le t
  cases h with
  | null h =>
    rw [h] at hstart
    simp only [List.length_cons] at hstart
    omega
  | text h hspells =>
    have hinside := hspells.length_lt
    rw [h] at hstart
    simp only [List.length_cons] at hstart
    omega

theorem IsNext.length_le {isFirst : Bool} {t u : Input} (h : IsNext isFirst t u) :
    u.length ≤ t.length := by
  cases isFirst with
  | true => exact Nat.le_of_eq (congrArg List.length h)
  | false =>
    have hstart := length_blanks_le t
    rw [show blanks t = some ',' :: u from h, List.length_cons] at hstart
    omega

theorem IsNext.ne_close {isFirst : Bool} {t u v : Input} {name : String} (h : IsNext isFirst t u)
    (hname : Name u name v) (rest : Input) : blanks t ≠ some '\x7d' :: rest := by
  obtain ⟨hquote, -, -⟩ := hname
  intro hclose
  cases isFirst with
  | true =>
    cases h
    cases hquote.symm.trans hclose
  | false => cases (show blanks t = some ',' :: u from h).symm.trans hclose

theorem members_succ {t : Input} (hopen : ∀ rest, blanks t ≠ some '\x7d' :: rest) (fuel : Nat)
    (isFirst : Bool) (draft : Draft) :
    members fields (fuel + 1) isFirst draft t =
      (if isFirst then .ok (blanks t) else word [','] (blanks t)) >>= fun u =>
        member fields draft u >>= fun read => members fields fuel false read.1 read.2 := by
  rw [members]
  split
  · next hclose => exact absurd hclose (hopen _)
  · cases isFirst <;> rfl

theorem front_eq_ok_iff {isFirst : Bool} {t u : Input} :
    (if isFirst then .ok (blanks t) else word [','] (blanks t)) = .ok u ↔
      ∃ v, IsNext isFirst t v ∧ u = if isFirst then blanks v else v := by
  cases isFirst with
  | true => simp [IsNext, eq_comm]
  | false => simp [IsNext, word_eq_ok_iff]

theorem Adds.of_name {given next : List (String × Option String)} {t u rest : Input}
    (h : Adds given t next rest) (hname : ∀ {name after}, Name t name after → Name u name after) :
    Adds given u next rest := by
  cases h with
  | label hfound hknown honce hvalue => exact .label (hname hfound) hknown honce hvalue
  | other hfound hother hskip => exact .other (hname hfound) hother hskip

theorem adds_front {given next : List (String × Option String)} {t rest : Input} (isFirst : Bool) :
    Adds given (if isFirst then blanks t else t) next rest ↔ Adds given t next rest := by
  cases isFirst with
  | false => exact Iff.rfl
  | true => exact ⟨fun h => h.of_name name_blanks.mp, fun h => h.of_name name_blanks.mpr⟩

theorem members_succ_eq_ok_iff {given : List (String × Option String)} {t rest : Input}
    (hopen : ∀ rest, blanks t ≠ some '\x7d' :: rest) {fuel : Nat} {isFirst : Bool} {draft : Draft} :
    members fields (fuel + 1) isFirst (draftOf given) t = .ok (draft, rest) ↔
      ∃ u next v, IsNext isFirst t u ∧ Adds given u next v ∧
        members fields fuel false (draftOf next) v = .ok (draft, rest) := by
  rw [members_succ hopen]
  simp only [bind_eq_ok_iff, front_eq_ok_iff, member_eq_ok_iff, Prod.exists]
  constructor
  · rintro ⟨_, ⟨u, hnext, rfl⟩, _, v, ⟨next, hadds, rfl⟩, hmore⟩
    exact ⟨u, next, v, hnext, (adds_front isFirst).mp hadds, hmore⟩
  · rintro ⟨u, next, v, hnext, hadds, hmore⟩
    exact ⟨_, ⟨u, hnext, rfl⟩, _, v, ⟨next, (adds_front isFirst).mpr hadds, rfl⟩, hmore⟩

theorem nodup_append_single {given : List (String × Option String)} {name : String}
    (value : Option String) : ((given ++ [(name, value)]).map Prod.fst).Nodup ↔
      (given.map Prod.fst).Nodup ∧ given.lookup name = none := by
  have hfresh : given.lookup name = none ↔ name ∉ given.map Prod.fst := by
    simp only [List.lookup_eq_none_iff, List.mem_map, not_exists, not_and, bne_iff_ne]
    exact forall₂_congr fun p _ => ne_comm
  rw [hfresh, List.map_append, List.nodup_append_comm]
  exact List.nodup_cons.trans and_comm

theorem exists_members {given : List (String × Option String)} {fuel : Nat} {isFirst : Bool}
    {t rest : Input} {draft : Draft}
    (h : members fields fuel isFirst (draftOf given) t = .ok (draft, rest))
    (honce : (given.map Prod.fst).Nodup) :
    ∃ more, Members isFirst t more rest ∧ ((given ++ more).map Prod.fst).Nodup ∧
      draft = draftOf (given ++ more) := by
  induction fuel generalizing given isFirst t with
  | zero => cases h
  | succ fuel ih =>
    by_cases hclose : ∃ after, blanks t = some '\x7d' :: after
    · obtain ⟨after, hclose⟩ := hclose
      rw [members, hclose] at h
      cases h
      exact ⟨[], .close hclose, by rwa [List.append_nil], by rw [List.append_nil]⟩
    · obtain ⟨u, next, v, hnext, hadds, hmore⟩ :=
        (members_succ_eq_ok_iff (not_exists.mp hclose)).mp h
      cases hadds with
      | @label w _ name value hname hknown hfresh hvalue =>
        obtain ⟨more, hmembers, hnodup, rfl⟩ :=
          ih hmore ((nodup_append_single value).mpr ⟨honce, hfresh⟩)
        refine ⟨(name, value) :: more, .label hnext hname hknown hvalue hmembers, ?_, ?_⟩
        · rwa [List.append_assoc] at hnodup
        · rw [List.append_assoc]
          rfl
      | other hname hother hskip =>
        obtain ⟨more, hmembers, hnodup, rfl⟩ := ih hmore honce
        exact ⟨more, .other hnext hname hother hskip hmembers, hnodup, rfl⟩

theorem members_of_members {given more : List (String × Option String)} {fuel : Nat}
    {isFirst : Bool} {t rest : Input} (h : Members isFirst t more rest)
    (honce : ((given ++ more).map Prod.fst).Nodup) (hfuel : t.length < fuel) :
    members fields fuel isFirst (draftOf given) t = .ok (draftOf (given ++ more), rest) := by
  obtain ⟨fuel, rfl⟩ := Nat.exists_eq_succ_of_ne_zero (Nat.ne_zero_of_lt hfuel)
  induction h generalizing given fuel with
  | close hclose =>
    rw [members, hclose, List.append_nil]
    rfl
  | @label isFirst t u v w rest name value more hnext hname hknown hvalue hmore ih =>
    have hsplit : given ++ (name, value) :: more = (given ++ [(name, value)]) ++ more := by
      simp
    rw [hsplit] at honce ⊢
    have hbefore : ((given ++ [(name, value)]).map Prod.fst).Nodup := by
      rw [List.map_append] at honce
      exact honce.of_append_left
    have hfresh := ((nodup_append_single value).mp hbefore).2
    refine (members_succ_eq_ok_iff (hnext.ne_close hname)).mpr
      ⟨u, _, w, hnext, .label hname hknown hfresh hvalue, ?_⟩
    have hshorter : w.length < fuel := by
      have hfront := hnext.length_le
      have hkey := hname.length_lt
      have hlabel := hvalue.length_lt
      omega
    obtain ⟨fuel, rfl⟩ := Nat.exists_eq_succ_of_ne_zero (Nat.ne_zero_of_lt hshorter)
    exact ih honce fuel hshorter
  | @other isFirst t u v w rest name more hnext hname hother hskip hmore ih =>
    refine (members_succ_eq_ok_iff (hnext.ne_close hname)).mpr
      ⟨u, given, w, hnext, .other hname hother hskip, ?_⟩
    have hshorter : w.length < fuel := by
      have hfront := hnext.length_le
      have hkey := hname.length_lt
      have hbehind := length_le_of_skipFrom hskip
      omega
    obtain ⟨fuel, rfl⟩ := Nat.exists_eq_succ_of_ne_zero (Nat.ne_zero_of_lt hshorter)
    exact ih honce fuel hshorter

theorem label_blanks {t rest : Input} {value : Option String} :
    Label (blanks t) value rest ↔ Label t value rest := by
  rw [← nullable_string_eq_ok_iff, ← nullable_string_eq_ok_iff, nullable, nullable, blanks_blanks]

theorem nextItem_first_eq_ok {t u : Input} (h : nextItem true t = .ok (true, u)) :
    u = blanks t := by
  rw [nextItem] at h
  split at h
  · cases h
  · cases h
    rfl

theorem nextItem_later_eq_ok {t u : Input} (h : nextItem false t = .ok (true, u)) :
    ∃ v, blanks t = some ',' :: v ∧ u = blanks v := by
  rw [nextItem] at h
  split at h
  · cases h
  · rw [if_neg Bool.false_ne_true] at h
    split at h
    · next v hcomma =>
      split at h
      · cases h
      · cases h
      · cases h
        exact ⟨v, hcomma, rfl⟩
    · cases h

theorem Label.nextItem_eq_ok {t rest : Input} {value : Option String} (h : Label t value rest) :
    nextItem true t = .ok (true, blanks t) ∧
      ∀ {before : Input}, blanks before = some ',' :: t →
        nextItem false before = .ok (true, blanks t) := by
  cases h with
  | null hnull =>
    refine ⟨by rw [nextItem, hnull]; rfl, fun hcomma => ?_⟩
    simp [nextItem, hcomma, hnull]
  | text hquote =>
    refine ⟨by rw [nextItem, hquote]; rfl, fun hcomma => ?_⟩
    simp [nextItem, hcomma, hquote]

theorem columns_eq_ok_iff {t rest : Input} {draft : Draft} :
    columns fields true (draftOf []) t = .ok (draft, rest) ↔
      ∃ granularity lookback u v w, Label t granularity u ∧ blanks u = some ',' :: v ∧
        Label v lookback w ∧ blanks w = some ']' :: rest ∧
        draft = ⟨some granularity, some lookback⟩ := by
  constructor
  · intro h
    obtain ⟨⟨isThere, u⟩, hfirst, h⟩ := exists_of_bind_eq_ok h
    cases isThere with
    | false => cases h
    | true =>
      obtain ⟨⟨_, v⟩, hgranularity, h⟩ := exists_of_bind_eq_ok h
      obtain ⟨⟨granularity, v⟩, hgranularity, hv⟩ := exists_of_bind_eq_ok hgranularity
      cases hv
      obtain ⟨⟨isThere, w⟩, hsecond, h⟩ := exists_of_bind_eq_ok h
      cases isThere with
      | false => cases h
      | true =>
        obtain ⟨⟨_, x⟩, hlookback, h⟩ := exists_of_bind_eq_ok h
        obtain ⟨⟨lookback, x⟩, hlookback, hx⟩ := exists_of_bind_eq_ok hlookback
        cases hx
        obtain ⟨y, hclose, h⟩ := exists_of_bind_eq_ok h
        cases h
        rw [nullable_string_eq_ok_iff] at hgranularity hlookback
        rw [closeArray, word_eq_ok_iff] at hclose
        obtain rfl := nextItem_first_eq_ok hfirst
        obtain ⟨w, hcomma, rfl⟩ := nextItem_later_eq_ok hsecond
        exact ⟨granularity, lookback, v, w, x, label_blanks.mp hgranularity, hcomma,
          label_blanks.mp hlookback, hclose, rfl⟩
  · rintro ⟨granularity, lookback, u, v, w, hfirst, hcomma, hsecond, hclose, rfl⟩
    have hgranularity := nullable_string_eq_ok_iff.mpr (label_blanks.mpr hfirst)
    have hlookback := nullable_string_eq_ok_iff.mpr (label_blanks.mpr hsecond)
    refine bind_eq_of_ok hfirst.nextItem_eq_ok.1 ?_
    refine bind_eq_of_ok (bind_eq_of_ok hgranularity rfl) ?_
    refine bind_eq_of_ok (hsecond.nextItem_eq_ok.2 hcomma) ?_
    refine bind_eq_of_ok (bind_eq_of_ok hlookback rfl) ?_
    exact bind_eq_of_ok (word_eq_ok_iff.mpr hclose) rfl

/-- A body is accepted exactly if it carries labels, and as those that it carries. -/
theorem whole_read_eq_ok_iff {t : Input} {labels : SelectionRequest} :
    whole read t = .ok labels ↔ Carries t labels := by
  constructor
  · intro h
    obtain ⟨⟨value, rest⟩, hread, hend⟩ := exists_of_bind_eq_ok h
    dsimp only at hend
    split at hend
    · next hempty =>
      cases hend
      have hend : blanks rest = [] := List.isEmpty_iff.mp hempty
      rw [read, object] at hread
      split at hread
      · next hopen =>
        obtain ⟨⟨draft, behind⟩, hmembers, hdraft⟩ := exists_of_bind_eq_ok hread
        cases hdraft
        change members fields _ true (draftOf []) _ = _ at hmembers
        obtain ⟨given, hgiven, honce, rfl⟩ := exists_members hmembers List.nodup_nil
        exact .object hopen hgiven honce hend
      · next hopen =>
        obtain ⟨⟨draft, behind⟩, hcolumns, hdraft⟩ := exists_of_bind_eq_ok hread
        cases hdraft
        obtain ⟨granularity, lookback, u, v, w, hfirst, hcomma, hsecond, hclose, rfl⟩ :=
          columns_eq_ok_iff.mp hcolumns
        exact .array hopen hfirst hcomma hsecond hclose hend
      · cases hread
    · cases hend
  · rintro (⟨hopen, hmembers, honce, hend⟩ | ⟨hopen, hfirst, hcomma, hsecond, hclose, hend⟩)
    · have hread : members fields _ true (draftOf []) _ = .ok (draftOf _, _) :=
        members_of_members hmembers honce (Nat.lt_succ_self _)
      refine bind_eq_of_ok (a := (_, _)) ?_ (if_pos (List.isEmpty_iff.mpr hend))
      rw [read, object, hopen]
      exact bind_eq_of_ok hread rfl
    · have hread := columns_eq_ok_iff.mpr
        ⟨_, _, _, _, _, hfirst, hcomma, hsecond, hclose, rfl⟩
      refine bind_eq_of_ok (a := (_, _)) ?_ (if_pos (List.isEmpty_iff.mpr hend))
      rw [read, object, hopen]
      exact bind_eq_of_ok hread rfl

end CounterBoard.SelectionRequest
