/-!
Decimal numerals: the shortest numeral of a number, numerals of a fixed width, and reading
digits from the front of a text.
-/

set_option autoImplicit false
set_option relaxedAutoImplicit false

namespace CounterBoard.Text

/-- The digit that stands for the last place of a number. -/
def digit (n : Nat) : Char :=
  Char.ofNat ('0'.toNat + n % 10)

/-- Exactly `width` digits: the last places of a number, with zeros in front. -/
def padded : Nat → Nat → List Char
  | 0, _ => []
  | width + 1, n => padded width (n / 10) ++ [digit n]

def decimal (n : Nat) : List Char :=
  if n < 10 then [digit n] else decimal (n / 10) ++ [digit n]

def tenTo (n : Nat) : Nat :=
  Nat.pow 10 n

def atLeast (width n : Nat) : List Char :=
  if n < tenTo width then padded width n else decimal n

/-- The value of a digit; other characters count as their distance from zero. -/
def digitValue (c : Char) : Nat :=
  c.toNat - '0'.toNat

def number (ds : List Char) : Nat :=
  ds.foldl (fun n c => 10 * n + digitValue c) 0

/-- The digits at the front of a text, at most `most` of them, and what follows. -/
def splitDigits : Nat → List Char → List Char × List Char
  | 0, t => ([], t)
  | _ + 1, [] => ([], [])
  | most + 1, c :: t =>
    if c.isDigit then
      let (ds, rest) := splitDigits most t
      (c :: ds, rest)
    else ([], c :: t)

def digitsUpTo? (most : Nat) (t : List Char) : Option (Nat × List Char) :=
  match splitDigits most t with
  | ([], _) => none
  | (ds, rest) => some (number ds, rest)

def digits? (width : Nat) (t : List Char) : Option (Nat × List Char) :=
  match splitDigits width t with
  | (ds, rest) => if ds.length = width then some (number ds, rest) else none

theorem number_append (ds es : List Char) :
    number (ds ++ es) = es.foldl (fun n c => 10 * n + digitValue c) (number ds) := by
  simp [number]

theorem digitValue_digit (n : Nat) : digitValue (digit n) = n % 10 := by
  have key : ∀ d < 10, digitValue (Char.ofNat ('0'.toNat + d)) = d := by decide
  exact key (n % 10) (Nat.mod_lt n (by decide))

theorem isDigit_digit (n : Nat) : (digit n).isDigit = true := by
  have key : ∀ d < 10, (Char.ofNat ('0'.toNat + d)).isDigit = true := by decide
  exact key (n % 10) (Nat.mod_lt n (by decide))

@[simp]
theorem length_padded (width n : Nat) : (padded width n).length = width := by
  induction width generalizing n with
  | zero => rfl
  | succ width ih => simp [padded, ih]

theorem number_padded (width n : Nat) : number (padded width n) = n % tenTo width := by
  induction width generalizing n with
  | zero => simp [padded, number, tenTo, Nat.mod_one]
  | succ width ih =>
    have hpow : tenTo (width + 1) = 10 * tenTo width := Nat.mul_comm _ _
    simp only [padded, number_append, List.foldl_cons, List.foldl_nil, ih, digitValue_digit]
    rw [hpow, Nat.mod_mul]
    omega

theorem number_decimal (n : Nat) : number (decimal n) = n := by
  fun_induction decimal n with
  | case1 n hn => simp [number, digitValue_digit, Nat.mod_eq_of_lt hn]
  | case2 n hn ih =>
    simp only [number_append, List.foldl_cons, List.foldl_nil, ih, digitValue_digit]
    omega

theorem splitDigits_append (most : Nat) (t : List Char) :
    (splitDigits most t).1 ++ (splitDigits most t).2 = t := by
  fun_induction splitDigits most t with
  | case1 => rfl
  | case2 => rfl
  | case3 most c t hc ds rest hsplit ih => simpa [hsplit] using ih
  | case4 => rfl

theorem isDigit_of_mem_splitDigits {most : Nat} {t : List Char} {c : Char}
    (h : c ∈ (splitDigits most t).1) : c.isDigit = true := by
  fun_induction splitDigits most t with
  | case1 => cases h
  | case2 => cases h
  | case3 most d t hd ds rest hsplit ih =>
    rcases List.mem_cons.mp h with rfl | hmem
    · exact hd
    · exact ih (by simpa [hsplit] using hmem)
  | case4 => cases h

theorem length_splitDigits_le (most : Nat) (t : List Char) :
    (splitDigits most t).1.length ≤ most := by
  fun_induction splitDigits most t with
  | case1 => exact Nat.le_refl 0
  | case2 => exact Nat.zero_le _
  | case3 most c t hc ds rest hsplit ih =>
    rw [hsplit] at ih
    exact Nat.succ_le_succ ih
  | case4 => exact Nat.zero_le _

/-- The value of a hexadecimal digit, in either case. -/
def hexValue? (c : Char) : Option Nat :=
  if c.isDigit then some (c.toNat - '0'.toNat)
  else if 'a' ≤ c ∧ c ≤ 'f' then some (c.toNat - 'a'.toNat + 10)
  else if 'A' ≤ c ∧ c ≤ 'F' then some (c.toNat - 'A'.toNat + 10)
  else none

def hexNumber? (ds : List Char) : Option Nat :=
  ds.foldlM (fun n c => (hexValue? c).map fun d => 16 * n + d) 0

def expect? (c : Char) : List Char → Option (List Char)
  | [] => none
  | d :: t => if d = c then some t else none

end CounterBoard.Text
