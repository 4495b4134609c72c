import CounterBoard.Http.Router
import Mathlib.Data.List.TakeWhile

/-!
What a request says before its body: the path that its target aims at, and whether its header says
that the body is JSON. Both are described by how the text is put together, and the service takes
the texts that are put together in this way and no others.
-/

set_option autoImplicit false
set_option relaxedAutoImplicit false

namespace CounterBoard.Http

section

variable {α : Type} {p : α → Bool} {front rest : List α}

theorem span_append (hfront : ∀ a ∈ front, p a = true) (hrest : ∀ a ∈ rest.head?, p a = false) :
    (front ++ rest).takeWhile p = front ∧ (front ++ rest).dropWhile p = rest := by
  rw [List.takeWhile_append_of_pos hfront, List.dropWhile_append_of_pos hfront]
  cases rest with
  | nil => simp
  | cons a rest =>
    have ha : p a = false := hrest a rfl
    rw [List.takeWhile_cons_of_neg (by simp [ha]), List.dropWhile_cons_of_neg (by simp [ha])]
    simp

theorem exists_span (p : α → Bool) (l : List α) : ∃ front rest, l = front ++ rest ∧
    (∀ a ∈ front, p a = true) ∧ ∀ a ∈ rest.head?, p a = false := by
  refine ⟨l.takeWhile p, l.dropWhile p, List.takeWhile_append_dropWhile.symm,
    fun a => List.mem_takeWhile_imp, ?_⟩
  intro a ha
  have hhead := List.head?_dropWhile_not p l
  rw [ha] at hhead
  simpa using hhead

end

/-- What may stand behind a path: nothing, a query or a fragment. -/
def EndsPath (rest : List Char) : Prop :=
  ∀ c ∈ rest.head?, c = '?' ∨ c = '#'

/-- The target of a request aims at a path. A query or a fragment may follow; a scheme and an
authority may stand in front, and behind these the root need not be written. -/
inductive AimsAt (path target : String) : Prop
  | plain {rest : List Char} (hrest : EndsPath rest)
      (htarget : target.toList = path.toList ++ rest) : AimsAt path target
  | absolute {scheme authority written rest : List Char}
      (hscheme : ∀ c ∈ scheme, c.isAlphanum = true ∨ c = '+' ∨ c = '-' ∨ c = '.')
      (hauthority : ∀ c ∈ authority, c ≠ '/' ∧ c ≠ '?' ∧ c ≠ '#')
      (hwritten : written = path.toList ∨ path = "/" ∧ written = []) (hrest : EndsPath rest)
      (htarget : target.toList = scheme ++ "://".toList ++ authority ++ written ++ rest) :
      AimsAt path target

namespace Route

def path : Route → String
  | .root => "/"
  | .version => "/version"
  | .snapshot => "/database.json"
  | .status => "/api/status"
  | .chart => "/api/chart"
  | .selection => "/api/selection"
  | .reload => "/api/reload"

theorem ofPath?_eq_some_iff {text : String} {r : Route} :
    ofPath? text = some r ↔ text = r.path := by
  constructor
  · intro h
    unfold ofPath? at h
    split at h <;> cases h <;> rfl
  · rintro rfl
    cases r <;> rfl

theorem exists_path_eq (r : Route) : ∃ t, r.path.toList = '/' :: t ∧
    ∀ c ∈ r.path.toList, (c != '?' && c != '#') = true := by
  cases r <;> exact ⟨_, rfl, List.all_eq_true.mp (by decide)⟩

theorem barePath_append {written rest : List Char}
    (hwritten : ∀ c ∈ written, (c != '?' && c != '#') = true) (hrest : EndsPath rest) :
    barePath (written ++ rest) = written := by
  refine (span_append hwritten fun c hc => ?_).1
  rcases hrest c hc with rfl | rfl <;> rfl

theorem exists_barePath (t : List Char) : ∃ rest, EndsPath rest ∧ t = barePath t ++ rest := by
  obtain ⟨written, rest, rfl, hwritten, hrest⟩ := exists_span (fun c => c != '?' && c != '#') t
  have hends : EndsPath rest := by
    intro c hc
    simpa [or_iff_not_imp_left] using hrest c hc
  exact ⟨rest, hends, by rw [barePath_append hwritten hends]⟩

theorem isSchemeChar_iff {c : Char} :
    isSchemeChar c = true ↔ c.isAlphanum = true ∨ c = '+' ∨ c = '-' ∨ c = '.' := by
  simp [isSchemeChar, or_assoc]

theorem isAuthorityChar_iff {c : Char} :
    (c != '/' && c != '?' && c != '#') = true ↔ c ≠ '/' ∧ c ≠ '?' ∧ c ≠ '#' := by
  simp [and_assoc]

theorem pathOf?_absolute {scheme authority written rest : List Char}
    (hscheme : ∀ c ∈ scheme, isSchemeChar c = true)
    (hauthority : ∀ c ∈ authority, (c != '/' && c != '?' && c != '#') = true)
    (hslash : ∀ c ∈ (written ++ rest).head?, (c != '/' && c != '?' && c != '#') = false)
    (hwritten : ∀ c ∈ written, (c != '?' && c != '#') = true) (hrest : EndsPath rest) :
    pathOf? (scheme ++ "://".toList ++ authority ++ written ++ rest) =
      some (if written = [] then ['/'] else written) := by
  have hsplit : scheme ++ "://".toList ++ authority ++ written ++ rest =
      scheme ++ ':' :: '/' :: '/' :: (authority ++ (written ++ rest)) := by
    simp
  have hdrop : (scheme ++ ':' :: '/' :: '/' :: (authority ++ (written ++ rest))).dropWhile
      isSchemeChar = ':' :: '/' :: '/' :: (authority ++ (written ++ rest)) := by
    refine (span_append hscheme fun c hc => ?_).2
    cases hc
    rfl
  have hfirst : ∀ t,
      scheme ++ ':' :: '/' :: '/' :: (authority ++ (written ++ rest)) ≠ '/' :: t := by
    intro t h
    cases scheme with
    | nil => cases h
    | cons c scheme =>
      cases h
      exact absurd (hscheme _ List.mem_cons_self) (by decide)
  rw [hsplit]
  unfold pathOf?
  split
  · next hslash => exact absurd hslash (hfirst _)
  · next t ht _ =>
    rw [hdrop] at ht
    cases ht
    rw [(span_append hauthority hslash).2, barePath_append hwritten hrest]
    cases written <;> rfl
  · next _ hnone => exact absurd hdrop (hnone _)

theorem aimsAt_of_pathOf? {path target : String}
    (h : pathOf? target.toList = some path.toList) : AimsAt path target := by
  unfold pathOf? at h
  split at h
  · obtain ⟨rest, hrest, hsplit⟩ := exists_barePath target.toList
    exact .plain hrest (by rw [← Option.some.inj h]; exact hsplit)
  · next u hdrop _ =>
    obtain ⟨scheme, behind, hsplit, hscheme, hbehind⟩ := exists_span isSchemeChar target.toList
    rw [hsplit, (span_append hscheme hbehind).2] at hdrop
    obtain ⟨authority, site, rfl, hauthority, hsite⟩ :=
      exists_span (fun c => c != '/' && c != '?' && c != '#') u
    rw [(span_append hauthority hsite).2] at h
    obtain ⟨rest, hrest, hbare⟩ := exists_barePath site
    have hwritten : barePath site = path.toList ∨ path = "/" ∧ barePath site = [] := by
      split at h
      · next hnil => exact .inr ⟨String.toList_injective (Option.some.inj h).symm, hnil⟩
      · exact .inl (Option.some.inj h)
    refine .absolute (fun c hc => isSchemeChar_iff.mp (hscheme c hc))
      (fun c hc => isAuthorityChar_iff.mp (hauthority c hc)) hwritten hrest ?_
    rw [hsplit, hdrop]
    simp [← hbare]
  · cases h

theorem pathOf?_of_aimsAt {path target : String} {t : List Char} (hpath : path.toList = '/' :: t)
    (hplain : ∀ c ∈ path.toList, (c != '?' && c != '#') = true) (h : AimsAt path target) :
    pathOf? target.toList = some path.toList := by
  cases h with
  | plain hrest htarget =>
    rw [htarget, hpath]
    change some (barePath ('/' :: t ++ _)) = _
    rw [← hpath, barePath_append hplain hrest]
  | @absolute scheme authority written rest hscheme hauthority hwritten hrest htarget =>
    have hslash : ∀ c ∈ (written ++ rest).head?, (c != '/' && c != '?' && c != '#') = false := by
      rcases hwritten with rfl | ⟨-, rfl⟩
      · rw [hpath]
        intro c hc
        cases hc
        rfl
      · intro c hc
        rcases hrest c hc with rfl | rfl <;> rfl
    have hbare : ∀ c ∈ written, (c != '?' && c != '#') = true := by
      rcases hwritten with rfl | ⟨-, rfl⟩
      · exact hplain
      · simp
    rw [htarget, pathOf?_absolute (fun c hc => isSchemeChar_iff.mpr (hscheme c hc))
      (fun c hc => isAuthorityChar_iff.mpr (hauthority c hc)) hslash hbare hrest]
    rcases hwritten with rfl | ⟨rfl, rfl⟩
    · rw [if_neg (by simp [hpath])]
    · rfl

theorem ofTarget?_eq_some_iff {target : String} {r : Route} :
    ofTarget? target = some r ↔ AimsAt r.path target := by
  rw [ofTarget?, Option.bind_eq_some_iff]
  constructor
  · rintro ⟨path, hfound, hroute⟩
    rw [ofPath?_eq_some_iff] at hroute
    refine aimsAt_of_pathOf? ?_
    rw [hfound, ← hroute, String.toList_ofList]
  · intro haims
    obtain ⟨t, hpath, hplain⟩ := r.exists_path_eq
    refine ⟨_, pathOf?_of_aimsAt hpath hplain haims, ofPath?_eq_some_iff.mpr ?_⟩
    rw [String.ofList_toList]

end Route

/-- A subtype is JSON, or is JSON before or behind the last plus sign in it. -/
inductive IsJson (subtype : List Char) : Prop
  | whole (hsubtype : lowered subtype = "json")
  | front {front suffix : List Char} (hsplit : subtype = front ++ '+' :: suffix)
      (hlast : '+' ∉ suffix) (hfront : lowered front = "json")
  | suffix {front suffix : List Char} (hsplit : subtype = front ++ '+' :: suffix)
      (hfront : front ≠ []) (hsuffix : lowered suffix = "json")

/-- A header says that the body is JSON: in either case, and with well-formed parameters, if any. -/
inductive SaysJson (header : String) : Prop
  | intro {type subtype tail : List Char}
      (hheader : header.toList = type ++ '/' :: (subtype ++ tail))
      (htype : lowered type = "application") (hsubtype : IsJson subtype)
      (htokens : ∀ c ∈ type ++ subtype, isTokenChar c = true)
      (htail : tail = [] ∨ ∃ parameters, tail = ';' :: parameters ∧
        parametersFrom .start parameters = true)
      (hchars : ∀ c ∈ header.toList, isHeaderChar c = true) : SaysJson header

theorem splitSuffix_of_not_mem {s : List Char} (h : '+' ∉ s) : splitSuffix s = (s, none) := by
  have hall : ∀ c ∈ s.reverse, (c != '+') = true := by
    intro c hc
    exact bne_iff_ne.mpr (ne_of_mem_of_not_mem (List.mem_reverse.mp hc) h)
  have htake : s.reverse.takeWhile (· != '+') = s.reverse := List.takeWhile_eq_self_iff.mpr hall
  simp [splitSuffix, htake]

theorem splitSuffix_append {front suffix : List Char} (h : '+' ∉ suffix) :
    splitSuffix (front ++ '+' :: suffix) =
      if front = [] then (front ++ '+' :: suffix, none) else (front, some suffix) := by
  have hall : ∀ c ∈ suffix.reverse, (c != '+') = true := by
    intro c hc
    exact bne_iff_ne.mpr (ne_of_mem_of_not_mem (List.mem_reverse.mp hc) h)
  have htake : (front ++ '+' :: suffix).reverse.takeWhile (· != '+') = suffix.reverse := by
    rw [List.reverse_append, List.reverse_cons, List.append_assoc]
    exact (span_append hall (by simp)).1
  have hlength : (front ++ '+' :: suffix).length - suffix.length - 1 = front.length := by
    simp only [List.length_append, List.length_cons]
    omega
  simp only [splitSuffix, htake, List.reverse_reverse, hlength, List.take_left]
  cases front with
  | nil => simp
  | cons c front =>
    have hshort : ¬ suffix.length = front.length + (suffix.length + 1) + 1 := by omega
    simp [hshort]

theorem not_mem_plus_of_lowered {s : List Char} (h : lowered s = "json") : '+' ∉ s := by
  intro hmem
  have hlower : '+' ∈ (lowered s).toList := by
    rw [lowered, String.toList_ofList]
    exact List.mem_map.mpr ⟨'+', hmem, rfl⟩
  rw [h] at hlower
  revert hlower
  decide

theorem isJson_iff {s : List Char} : (lowered (splitSuffix s).1 == "json" ||
    (splitSuffix s).2.any fun suffix => lowered suffix == "json") = true ↔ IsJson s := by
  constructor
  · intro h
    by_cases hplus : '+' ∈ s
    · obtain ⟨back, front, hreverse, hback⟩ :=
        List.eq_append_cons_of_mem (List.mem_reverse.mpr hplus)
      have hsplit : s = front.reverse ++ '+' :: back.reverse := by
        rw [← List.reverse_reverse s, hreverse]
        simp
      have hlast : '+' ∉ back.reverse := by rwa [List.mem_reverse]
      rw [hsplit, splitSuffix_append hlast] at h
      split at h
      · next hnil =>
        refine .whole ?_
        rw [hsplit]
        simpa using h
      · next hfront =>
        rcases Bool.or_eq_true_iff.mp h with hjson | hjson
        · exact .front hsplit hlast (by simpa using hjson)
        · exact .suffix hsplit hfront (by simpa using hjson)
    · rw [splitSuffix_of_not_mem hplus] at h
      exact .whole (by simpa using h)
  · rintro (hwhole | ⟨rfl, hlast, hfront⟩ | ⟨rfl, hfront, hsuffix⟩)
    · rw [splitSuffix_of_not_mem (not_mem_plus_of_lowered hwhole)]
      simp [hwhole]
    · rw [splitSuffix_append hlast, if_neg ?_]
      · simp [hfront]
      · rintro rfl
        revert hfront
        decide
    · rw [splitSuffix_append (not_mem_plus_of_lowered hsuffix), if_neg hfront]
      simp [hsuffix]

theorem saysJson_eq {header : String} {type subtype tail : List Char}
    (hheader : header.toList = type ++ '/' :: (subtype ++ tail))
    (htype : ∀ c ∈ type, (c != '/') = true) (hsubtype : ∀ c ∈ subtype, (c != ';') = true)
    (htail : ∀ c ∈ tail.head?, c = ';') :
    saysJson header = (header.toList.all isHeaderChar && !type.isEmpty && type.all isTokenChar &&
      subtype.all isTokenChar && parametersFrom .start (tail.drop 1) &&
      lowered type == "application" && (lowered (splitSuffix subtype).1 == "json" ||
        (splitSuffix subtype).2.any fun suffix => lowered suffix == "json")) := by
  have hfirst : (type ++ '/' :: (subtype ++ tail)).takeWhile (· != '/') = type :=
    (span_append htype (by simp)).1
  have hsecond : (subtype ++ tail).takeWhile (· != ';') = subtype := by
    refine (span_append hsubtype fun c hc => ?_).1
    rw [htail c hc]
    rfl
  have hrest : (type ++ '/' :: (subtype ++ tail)).drop (type.length + 1) = subtype ++ tail := by
    rw [List.drop_append]
    simp
  have hparameters : (subtype ++ tail).drop (subtype.length + 1) = tail.drop 1 := by
    rw [List.drop_append]
    simp
  simp only [saysJson, hheader, hfirst, hrest, hsecond, hparameters]
  simp

theorem ne_of_isTokenChar {c d : Char} (hc : isTokenChar c = true) (hd : isTokenChar d = false) :
    (c != d) = true := by
  rw [bne_iff_ne]
  rintro rfl
  cases hc.symm.trans hd

theorem saysJson_iff {header : String} : saysJson header = true ↔ SaysJson header := by
  constructor
  · intro h
    have hslash : '/' ∈ header.toList := by
      simp only [saysJson, Bool.and_eq_true] at h
      exact List.contains_iff_mem.mp h.1.1.1.1.1.1.2
    obtain ⟨type, behind, hheader, htype, hbehind⟩ := exists_span (· != '/') header.toList
    obtain ⟨rest, rfl⟩ : ∃ rest, behind = '/' :: rest := by
      cases behind with
      | nil =>
        rw [hheader, List.append_nil] at hslash
        simpa using htype _ hslash
      | cons c rest => exact ⟨rest, by simpa using hbehind c rfl⟩
    obtain ⟨subtype, tail, rfl, hsubtype, htail⟩ := exists_span (· != ';') rest
    have htail : ∀ c ∈ tail.head?, c = ';' := fun c hc => by simpa using htail c hc
    rw [saysJson_eq hheader htype hsubtype htail] at h
    simp only [Bool.and_eq_true, List.all_eq_true, beq_iff_eq] at h
    obtain ⟨⟨⟨⟨⟨⟨hchars, -⟩, htype⟩, hsubtype⟩, hparameters⟩, happlication⟩, hjson⟩ := h
    refine ⟨hheader, happlication, isJson_iff.mp hjson, ?_, ?_, hchars⟩
    · rintro c hc
      exact (List.mem_append.mp hc).elim (htype c) (hsubtype c)
    · cases tail with
      | nil => exact .inl rfl
      | cons c parameters =>
        obtain rfl := htail c rfl
        exact .inr ⟨parameters, rfl, hparameters⟩
  · rintro ⟨hheader, htype, hsubtype, htokens, htail, hchars⟩
    obtain ⟨htypeTokens, hsubtypeTokens⟩ := List.forall_mem_append.mp htokens
    rw [saysJson_eq hheader (fun c hc => ne_of_isTokenChar (htypeTokens c hc) (by decide))
      (fun c hc => ne_of_isTokenChar (hsubtypeTokens c hc) (by decide))]
    · simp only [Bool.and_eq_true, List.all_eq_true, beq_iff_eq]
      refine ⟨⟨⟨⟨⟨⟨hchars, ?_⟩, htypeTokens⟩, hsubtypeTokens⟩, ?_⟩, htype⟩, isJson_iff.mpr hsubtype⟩
      · rw [Bool.not_eq_true', List.isEmpty_eq_false_iff]
        rintro rfl
        revert htype
        decide
      · rcases htail with rfl | ⟨parameters, rfl, hparameters⟩
        · rfl
        · exact hparameters
    · rcases htail with rfl | ⟨parameters, rfl, -⟩ <;> simp

end CounterBoard.Http
