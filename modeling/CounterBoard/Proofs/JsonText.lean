import CounterBoard.Json.Reader
import CounterBoard.Json.Writer
import CounterBoard.Proofs.WallText

/-!
Written JSON, read back. A reader takes a written value from the front of any text that goes on as
a text may behind a value, and leaves the rest. Arrays and objects get this from their parts, so it
is stated once for each way in which values are put together.
-/

set_option autoImplicit false
set_option relaxedAutoImplicit false

namespace CounterBoard.Text

theorem exists_digit_of_decimal (n : Nat) : ∃ c t, decimal n = c :: t ∧ c.isDigit = true := by
  have hdigits : ∀ c ∈ decimal n, c.isDigit = true := fun c hc => isDigit_of_mem_decimal hc
  cases hdecimal : decimal n with
  | nil =>
    unfold decimal at hdecimal
    split at hdecimal
    · cases hdecimal
    · simp at hdecimal
  | cons c t =>
    rw [hdecimal] at hdigits
    exact ⟨c, t, rfl, hdigits c List.mem_cons_self⟩

theorem eq_nil_of_decimal_eq_zero_cons {n : Nat} {t : List Char} (h : decimal n = '0' :: t) :
    t = [] := by
  fun_induction decimal n generalizing t with
  | case1 n hn => exact (List.cons.inj h).2.symm
  | case2 n hn ih =>
    obtain ⟨c, front, hfront, -⟩ := exists_digit_of_decimal (n / 10)
    rw [hfront, List.cons_append] at h
    obtain ⟨rfl, -⟩ := List.cons.inj h
    have hzero : decimal (n / 10) = ['0'] := by rw [hfront, ih hfront]
    have hnumber := number_decimal (n / 10)
    rw [hzero] at hnumber
    change 0 = n / 10 at hnumber
    omega

end CounterBoard.Text

namespace CounterBoard.Json

open CounterBoard.Text

def written (text : List Char) (rest : Input) : Input :=
  text.map some ++ rest

@[simp]
theorem written_nil (rest : Input) : written [] rest = rest :=
  rfl

@[simp]
theorem written_cons (c : Char) (text : List Char) (rest : Input) :
    written (c :: text) rest = some c :: written text rest :=
  rfl

@[simp]
theorem written_append (front back : List Char) (rest : Input) :
    written (front ++ back) rest = written front (written back rest) := by
  simp [written]

theorem length_written (text : List Char) (rest : Input) :
    (written text rest).length = text.length + rest.length := by
  simp [written]

/-- Where a value may end: at the end of the text, before a comma, or before a bracket that closes
what the value is in. -/
def EndsValue (rest : Input) : Prop :=
  ∀ c ∈ rest.head?, c ∈ [some ',', some ']', some '\x7d']

theorem endsValue_nil : EndsValue [] := by
  rintro c ⟨⟩

theorem endsValue_cons {c : Char} (h : some c ∈ [some ',', some ']', some '\x7d']) (rest : Input) :
    EndsValue (some c :: rest) := by
  rintro d ⟨rfl⟩
  exact h

theorem EndsValue.eq_nil_or_cons {rest : Input} (h : EndsValue rest) :
    rest = [] ∨ ∃ t, rest = some ',' :: t ∨ rest = some ']' :: t ∨ rest = some '\x7d' :: t := by
  rcases rest with _ | ⟨c, t⟩
  · exact .inl rfl
  · have hc := h c rfl
    simp only [List.mem_cons, List.not_mem_nil, or_false] at hc
    exact .inr ⟨t, by rcases hc with rfl | rfl | rfl <;> simp⟩

/-- A value starts with no blank, and not like the end of an array or a null. -/
def StartsValue (c : Char) : Prop :=
  c ∉ [' ', '\t', '\n', '\r', ']', 'n']

instance (c : Char) : Decidable (StartsValue c) :=
  inferInstanceAs (Decidable (_ ∉ _))

theorem startsValue_of_isDigit {c : Char} (h : c.isDigit = true) : StartsValue c := by
  intro hmem
  simp only [List.mem_cons, List.not_mem_nil, or_false] at hmem
  rcases hmem with rfl | rfl | rfl | rfl | rfl | rfl <;> cases h

theorem StartsValue.ne {c d : Char} (h : StartsValue c) (hd : ¬ StartsValue d) : c ≠ d := by
  rintro rfl
  exact hd h

theorem blanks_of_startsValue {c : Char} (h : StartsValue c) (t : Input) :
    blanks (some c :: t) = some c :: t := by
  simp only [StartsValue, List.mem_cons, List.not_mem_nil, or_false, not_or] at h
  simp [blanks, h]

theorem bind_eq_of_ok {ε α β : Type} {x : Except ε α} {a : α} {next : α → Except ε β}
    {r : Except ε β} (hx : x = .ok a) (hnext : next a = r) : x >>= next = r := by
  rw [hx]
  exact hnext

/-- A reader takes a value back from its text, whatever follows behind the value. -/
structure ReadsBack {α : Type} (read : Reader α) (text : List Char) (value : α) : Prop where
  starts : ∃ c t, text = c :: t ∧ StartsValue c
  reads : ∀ rest, EndsValue rest → read (written text rest) = .ok (value, rest)

theorem ReadsBack.decode {α : Type} {read : Reader α} {text : List Char} {value : α}
    (h : ReadsBack read text value) : decode read (String.ofList text) = .ok value := by
  have hread := h.reads [] endsValue_nil
  have hinput : Input.ofString (String.ofList text) = written text [] := by
    simp [Input.ofString, written]
  rw [Json.decode, whole, hinput]
  exact bind_eq_of_ok hread rfl

section Strings

theorem characters_plainEscape {e c : Char} (h : plainEscape? e = some c) (read : List Char)
    (t : Input) : characters read (some '\\' :: some e :: t) = characters (c :: read) t := by
  have hunicode : e ≠ 'u' := by
    rintro rfl
    cases h
  rw [characters]
  · rw [h]
  · intro _ _ _ _ _ _
    exact hunicode

theorem codeUnit?_hexDigits {n : Nat} (h : n < 0x20) :
    codeUnit? '0' '0' (hexDigit (n / 16)) (hexDigit (n % 16)) = some n := by
  have key : ∀ n < 0x20, codeUnit? '0' '0' (hexDigit (n / 16)) (hexDigit (n % 16)) = some n := by
    decide
  exact key n h

theorem characters_escaped (read : List Char) (c : Char) (t : Input) :
    characters read (written (escaped c) t) = characters (c :: read) t := by
  unfold escaped
  split_ifs with hquote hbackslash hb hf hn hr ht hcontrol
  · exact characters_plainEscape (by rw [hquote]; rfl) read t
  · exact characters_plainEscape (by rw [hbackslash]; rfl) read t
  · exact characters_plainEscape (by rw [hb]; rfl) read t
  · exact characters_plainEscape (by rw [hf]; rfl) read t
  · exact characters_plainEscape (by rw [hn]; rfl) read t
  · exact characters_plainEscape (by rw [hr]; rfl) read t
  · exact characters_plainEscape (by rw [ht]; rfl) read t
  · -- A control character is no surrogate, so one code unit stands for it.
    have hlow : isLowSurrogate c.toNat = false := by
      simp only [isLowSurrogate, Bool.and_eq_false_iff, decide_eq_false_iff_not]
      omega
    have hhigh : isHighSurrogate c.toNat = false := by
      simp only [isHighSurrogate, Bool.and_eq_false_iff, decide_eq_false_iff_not]
      omega
    simp [characters, codeUnit?_hexDigits hcontrol, hlow, hhigh]
  · simp [characters, hbackslash, hcontrol]

theorem characters_written (read cs : List Char) (rest : Input) :
    characters read (written (cs.flatMap escaped) (some '"' :: rest)) =
      .ok (read.reverse ++ cs, rest) := by
  induction cs generalizing read with
  | nil => simp [characters]
  | cons c cs ih =>
    rw [List.flatMap_cons, written_append, characters_escaped, ih]
    simp

theorem string_writeString (s : String) (rest : Input) :
    string (written (writeString s) rest) = .ok (s, rest) := by
  have hchars := characters_written [] s.toList rest
  rw [writeString, written_append]
  refine bind_eq_of_ok hchars ?_
  simp

theorem readsBack_string (s : String) : ReadsBack string (writeString s) s where
  starts := ⟨'"', _, rfl, by decide⟩
  reads rest _ := string_writeString s rest

theorem readsBack_choice {α : Type} {choices : List (String × α)} {name : String} {value : α}
    (h : choices.lookup name = some value) :
    ReadsBack (choice choices) (writeString name) value where
  starts := ⟨'"', _, rfl, by decide⟩
  reads rest _ := by
    have hnamed : named choices name = .ok value := by rw [named, h]
    change string (written (writeString name) rest) >>= _ = _
    refine bind_eq_of_ok (string_writeString name rest) ?_
    exact bind_eq_of_ok hnamed rfl

end Strings

section Counts

theorem splitDigits_written {ds : List Char} (hds : ∀ c ∈ ds, c.isDigit = true) {rest : Input}
    (hrest : EndsValue rest) : splitDigits (written ds rest) = (ds, rest) := by
  induction ds with
  | nil => rcases hrest.eq_nil_or_cons with rfl | ⟨t, rfl | rfl | rfl⟩ <;> rfl
  | cons d ds ih =>
    have htail := ih fun c hc => hds c (List.mem_cons_of_mem d hc)
    simp [splitDigits, hds d List.mem_cons_self, htail]

theorem wholeDigits_decimal (n : Nat) {rest : Input} (hrest : EndsValue rest) :
    wholeDigits (written (decimal n) rest) = .ok (decimal n, rest) := by
  have hsplit := splitDigits_written (fun c hc => isDigit_of_mem_decimal (n := n) hc) hrest
  obtain ⟨c, t, hdecimal, -⟩ := exists_digit_of_decimal n
  rw [wholeDigits, hsplit]
  split
  · next heq =>
    rw [hdecimal] at heq
    cases heq
  · next heq =>
    have hzero := eq_nil_of_decimal_eq_zero_cons (Prod.mk.inj heq).1
    cases hzero
  · next heq =>
    obtain ⟨rfl, rfl⟩ := Prod.mk.inj heq
    rfl

theorem unsigned_decimal (n : Nat) {rest : Input} (hrest : EndsValue rest) :
    unsigned false (written (decimal n) rest) = .ok (⟨false, decimal n, [], none⟩, rest) := by
  have hend : decimalDigits rest = .ok ([], rest) ∧ exponent rest = .ok (none, rest) := by
    rcases hrest.eq_nil_or_cons with rfl | ⟨t, rfl | rfl | rfl⟩ <;> exact ⟨rfl, rfl⟩
  refine bind_eq_of_ok (wholeDigits_decimal n hrest) ?_
  refine bind_eq_of_ok hend.1 ?_
  exact bind_eq_of_ok hend.2 rfl

theorem readsBack_decimal {n : Nat} (hn : n < UInt64.size) :
    ReadsBack count (decimal n) (UInt64.ofNat n) where
  starts := by
    obtain ⟨c, t, hdecimal, hc⟩ := exists_digit_of_decimal n
    exact ⟨c, t, hdecimal, startsValue_of_isDigit hc⟩
  reads rest hrest := by
    have hcount : (⟨false, decimal n, [], none⟩ : Numeral).count? = some (UInt64.ofNat n) := by
      simp [Numeral.count?, number_decimal, hn]
    have hunsigned := unsigned_decimal n hrest
    obtain ⟨c, t, hdecimal, hc⟩ := exists_digit_of_decimal n
    rw [hdecimal, written_cons] at hunsigned ⊢
    have hsign :
        numeral (some c :: written t rest) = unsigned false (some c :: written t rest) := by
      rw [numeral]
      rintro t' heq
      cases heq
      cases hc
    rw [count, blanks_of_startsValue (startsValue_of_isDigit hc)]
    simp only [startsNumber, hc, Bool.or_true, if_true]
    refine bind_eq_of_ok (hsign.trans hunsigned) ?_
    rw [← hdecimal]
    simp only [hcount]

theorem readsBack_count (n : UInt64) : ReadsBack count (writeCount n) n := by
  have h := readsBack_decimal n.toNat_lt
  rwa [UInt64.ofNat_toNat] at h

end Counts

/-- Written values that stand behind another one, each behind a comma. -/
def followers (texts : List (List Char)) : List Char :=
  texts.flatMap (',' :: ·)

@[simp]
theorem followers_cons (text : List Char) (texts : List (List Char)) :
    followers (text :: texts) = ',' :: text ++ followers texts :=
  rfl

theorem writeJoined_cons (text : List Char) (texts : List (List Char)) :
    writeJoined (text :: texts) = text ++ followers texts := by
  induction texts generalizing text with
  | nil => simp [writeJoined, followers]
  | cons next texts ih =>
    change text ++ ',' :: writeJoined (next :: texts) = _
    rw [ih, followers_cons, List.cons_append]

theorem endsValue_followers {c : Char} (hc : some c ∈ [some ',', some ']', some '\x7d'])
    (texts : List (List Char)) (rest : Input) :
    EndsValue (written (followers texts) (some c :: rest)) := by
  cases texts with
  | nil => exact endsValue_cons hc rest
  | cons text texts => exact endsValue_cons (by decide) _

section Arrays

variable {α : Type} {read : Reader α} {write : α → List Char}

theorem nextItem_first {c : Char} (h : StartsValue c) (t : Input) :
    nextItem true (some c :: t) = .ok (true, some c :: t) := by
  have hclose : c ≠ ']' := h.ne (by decide)
  simp [nextItem, blanks_of_startsValue h, hclose]

theorem nextItem_comma {c : Char} (h : StartsValue c) (t : Input) :
    nextItem false (some ',' :: some c :: t) = .ok (true, some c :: t) := by
  have hclose : c ≠ ']' := h.ne (by decide)
  have hcomma : blanks (some ',' :: some c :: t) = some ',' :: some c :: t := rfl
  simp [nextItem, hcomma, blanks_of_startsValue h, hclose]

theorem items_followers {values : List α} (hvalues : ∀ v ∈ values, ReadsBack read (write v) v)
    (rest : Input) (fuel : Nat)
    (hfuel : (written (followers (values.map write)) (some ']' :: rest)).length < fuel) :
    items read fuel false (written (followers (values.map write)) (some ']' :: rest)) =
      .ok (values, rest) := by
  obtain ⟨fuel, rfl⟩ := Nat.exists_eq_succ_of_ne_zero (Nat.ne_zero_of_lt hfuel)
  induction values generalizing fuel with
  | nil => rfl
  | cons v values ih =>
    -- The fuel bounds the symbols left, and each item takes a comma at least.
    have hshorter : (written (followers (values.map write)) (some ']' :: rest)).length < fuel := by
      simp only [List.map_cons, followers_cons, written_append, written_cons, length_written,
        List.length_cons] at hfuel ⊢
      omega
    obtain ⟨fuel, rfl⟩ := Nat.exists_eq_succ_of_ne_zero (Nat.ne_zero_of_lt hshorter)
    obtain ⟨c, t, htext, hstart⟩ := (hvalues v List.mem_cons_self).starts
    have hends := endsValue_followers (c := ']') (by decide) (values.map write) rest
    have hread := (hvalues v List.mem_cons_self).reads _ hends
    have hlater := ih (fun v hv => hvalues v (List.mem_cons_of_mem _ hv)) fuel hshorter
    simp only [List.map_cons, followers_cons, written_append, written_cons]
    rw [htext, written_cons] at hread ⊢
    refine bind_eq_of_ok (nextItem_comma hstart _) ?_
    refine bind_eq_of_ok hread ?_
    exact bind_eq_of_ok hlater rfl

theorem items_written {values : List α} (hvalues : ∀ v ∈ values, ReadsBack read (write v) v)
    (rest : Input) (fuel : Nat)
    (hfuel : (written (writeJoined (values.map write)) (some ']' :: rest)).length < fuel) :
    items read fuel true (written (writeJoined (values.map write)) (some ']' :: rest)) =
      .ok (values, rest) := by
  obtain ⟨fuel, rfl⟩ := Nat.exists_eq_succ_of_ne_zero (Nat.ne_zero_of_lt hfuel)
  cases values with
  | nil => rfl
  | cons v values =>
    obtain ⟨c, t, htext, hstart⟩ := (hvalues v List.mem_cons_self).starts
    have hshorter : (written (followers (values.map write)) (some ']' :: rest)).length < fuel := by
      simp only [List.map_cons, writeJoined_cons, htext, written_append, length_written,
        List.length_cons] at hfuel ⊢
      omega
    have hends := endsValue_followers (c := ']') (by decide) (values.map write) rest
    have hread := (hvalues v List.mem_cons_self).reads _ hends
    have hlater := items_followers (fun v hv => hvalues v (List.mem_cons_of_mem _ hv)) rest fuel
      hshorter
    simp only [List.map_cons, writeJoined_cons, written_append]
    rw [htext, written_cons] at hread ⊢
    refine bind_eq_of_ok (nextItem_first hstart _) ?_
    refine bind_eq_of_ok hread ?_
    exact bind_eq_of_ok hlater rfl

theorem readsBack_array {values : List α} (hvalues : ∀ v ∈ values, ReadsBack read (write v) v) :
    ReadsBack (array read) (writeArray write values) values where
  starts := ⟨'[', _, rfl, by decide⟩
  reads rest _ := by
    have hitems := items_written hvalues rest _ (Nat.lt_succ_self _)
    rw [writeArray, written_append]
    exact hitems

end Arrays

section Objects

variable {δ : Type} {fields : List (FieldReader δ)}

/-- The written members of an object are fields, none of them given before, and reading them one
after the other leads from one draft to another. -/
inductive Fills (fields : List (FieldReader δ)) : δ → List (String × List Char) → δ → Prop
  | done (draft : δ) : Fills fields draft [] draft
  | member {draft next final : δ} {field : FieldReader δ} {name : String} {text : List Char}
      {members : List (String × List Char)}
      (hfield : fields.find? (fun f => f.name = name) = some field)
      (hgiven : field.isGiven draft = false)
      (hread : ReadsBack (field.read draft) text next)
      (hlater : Fills fields next members final) :
      Fills fields draft ((name, text) :: members) final

theorem readsBack_kept {α : Type} {name : String} {get : δ → Option α} {set : δ → α → δ}
    {read : Reader α} {text : List Char} {value : α} (h : ReadsBack read text value) (draft : δ) :
    ReadsBack ((FieldReader.kept name get set read).read draft) text (set draft value) where
  starts := h.starts
  reads rest hrest := bind_eq_of_ok (h.reads rest hrest) rfl

theorem readsBack_nullable {α : Type} {read : Reader α} {text : List Char} {value : α}
    (h : ReadsBack read text value) : ReadsBack (nullable read) text (some value) where
  starts := h.starts
  reads rest hrest := by
    obtain ⟨c, t, htext, hstart⟩ := h.starts
    have hnull : c ≠ 'n' := hstart.ne (by decide)
    have hread := h.reads rest hrest
    rw [htext, written_cons] at hread ⊢
    rw [nullable, blanks_of_startsValue hstart]
    split
    · next heq => exact absurd (Option.some.inj (List.cons.inj heq).1) hnull
    · exact bind_eq_of_ok hread rfl

def memberText (m : String × List Char) : List Char :=
  writeString m.1 ++ ':' :: m.2

theorem member_written {draft next : δ} {field : FieldReader δ} {name : String} {text : List Char}
    (hfield : fields.find? (fun f => f.name = name) = some field)
    (hgiven : field.isGiven draft = false) (hread : ReadsBack (field.read draft) text next)
    {rest : Input} (hrest : EndsValue rest) :
    member fields draft (written (memberText (name, text)) rest) = .ok (next, rest) := by
  have hchars := characters_written [] name.toList (some ':' :: written text rest)
  have htext : written (memberText (name, text)) rest =
      some '"' :: written (name.toList.flatMap escaped) (some '"' :: some ':' ::
        written text rest) := by
    simp [memberText, writeString]
  rw [htext]
  refine bind_eq_of_ok rfl ?_
  refine bind_eq_of_ok hchars ?_
  simp only [List.reverse_nil, List.nil_append, String.ofList_toList, hfield, hgiven]
  exact bind_eq_of_ok rfl (hread.reads rest hrest)

theorem members_followers {draft final : δ} {ms : List (String × List Char)}
    (h : Fills fields draft ms final) (rest : Input) (fuel : Nat)
    (hfuel : (written (followers (ms.map memberText)) (some '\x7d' :: rest)).length < fuel) :
    members fields fuel false draft (written (followers (ms.map memberText))
      (some '\x7d' :: rest)) = .ok (final, rest) := by
  obtain ⟨fuel, rfl⟩ := Nat.exists_eq_succ_of_ne_zero (Nat.ne_zero_of_lt hfuel)
  induction h generalizing fuel with
  | done draft => rfl
  | @member draft next final field name text ms hfield hgiven hread _ ih =>
    have hshorter :
        (written (followers (ms.map memberText)) (some '\x7d' :: rest)).length < fuel := by
      simp only [List.map_cons, followers_cons, written_append, written_cons, length_written,
        List.length_cons] at hfuel ⊢
      omega
    obtain ⟨fuel, rfl⟩ := Nat.exists_eq_succ_of_ne_zero (Nat.ne_zero_of_lt hshorter)
    have hends := endsValue_followers (c := '\x7d') (by decide) (ms.map memberText) rest
    have hmember := member_written hfield hgiven hread hends
    have hcomma : ∀ t, word [','] (some ',' :: t) = .ok t := fun _ => rfl
    simp only [List.map_cons, followers_cons, written_append, written_cons]
    refine bind_eq_of_ok (hcomma _) ?_
    refine bind_eq_of_ok hmember ?_
    exact ih fuel hshorter

theorem members_written {draft final : δ} {ms : List (String × List Char)}
    (h : Fills fields draft ms final) (rest : Input) (fuel : Nat)
    (hfuel : (written (writeJoined (ms.map memberText)) (some '\x7d' :: rest)).length < fuel) :
    members fields fuel true draft (written (writeJoined (ms.map memberText))
      (some '\x7d' :: rest)) = .ok (final, rest) := by
  obtain ⟨fuel, rfl⟩ := Nat.exists_eq_succ_of_ne_zero (Nat.ne_zero_of_lt hfuel)
  cases h with
  | done => rfl
  | @member _ next _ field name text ms hfield hgiven hread hlater =>
    have hshorter :
        (written (followers (ms.map memberText)) (some '\x7d' :: rest)).length < fuel := by
      simp only [List.map_cons, writeJoined_cons, written_append, length_written, memberText,
        writeString, List.length_cons] at hfuel ⊢
      omega
    have hends := endsValue_followers (c := '\x7d') (by decide) (ms.map memberText) rest
    have hmember := member_written hfield hgiven hread hends
    simp only [List.map_cons, writeJoined_cons, written_append]
    refine bind_eq_of_ok (show (Except.ok _ : Except Refusal Input) = _ from rfl) ?_
    refine bind_eq_of_ok hmember ?_
    exact members_followers hlater rest fuel hshorter

theorem readsBack_object {α : Type} {empty : δ} {complete? : δ → Option α} {value : α}
    {ms : List (String × List Char)} (final : δ) (h : Fills fields empty ms final)
    (hcomplete : complete? final = some value) :
    ReadsBack (object empty fields complete?) (writeObject ms) value where
  starts := ⟨'\x7b', _, rfl, by decide⟩
  reads rest _ := by
    have hmembers := members_written h rest _ (Nat.lt_succ_self _)
    rw [writeObject, written_append]
    refine bind_eq_of_ok hmembers ?_
    simp only [hcomplete]

end Objects

end CounterBoard.Json
