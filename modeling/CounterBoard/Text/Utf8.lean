/-!
Decoding UTF-8. Each well-formed sequence gives its character; every byte that is part of none gives
`none`, so decoding goes on behind it.
-/

set_option autoImplicit false
set_option relaxedAutoImplicit false

namespace CounterBoard.Text

def isTail (b : UInt8) : Bool :=
  0x80 ≤ b && b ≤ 0xBF

def tailBits (b : UInt8) : Nat :=
  b.toNat % 0x40

/-- Whether two bytes open a sequence of three: no number below 2048 and no surrogate is written in
three bytes. -/
def opensThree (a b : UInt8) : Bool :=
  isTail b && (a == 0xE0 && 0xA0 ≤ b || 0xE1 ≤ a && a ≤ 0xEF && (a != 0xED || b ≤ 0x9F))

/-- Whether two bytes open a sequence of four: no number below 65536 and none above 1114111 is
written in four bytes. -/
def opensFour (a b : UInt8) : Bool :=
  isTail b && (a == 0xF0 && 0x90 ≤ b || 0xF1 ≤ a && a ≤ 0xF3 || a == 0xF4 && b ≤ 0x8F)

def two? (a b : UInt8) : Option Char :=
  if 0xC2 ≤ a ∧ a ≤ 0xDF ∧ isTail b then
    some (Char.ofNat (a.toNat % 0x20 * 0x40 + tailBits b))
  else none

def three? (a b c : UInt8) : Option Char :=
  if opensThree a b ∧ isTail c then
    some (Char.ofNat ((a.toNat % 0x10 * 0x40 + tailBits b) * 0x40 + tailBits c))
  else none

def four? (a b c d : UInt8) : Option Char :=
  if opensFour a b ∧ isTail c ∧ isTail d then
    some (Char.ofNat (((a.toNat % 8 * 0x40 + tailBits b) * 0x40 + tailBits c) * 0x40 + tailBits d))
  else none

def decodeUtf8 : List UInt8 → List (Option Char)
  | [] => []
  | a :: t =>
    if a < 0x80 then some (Char.ofNat a.toNat) :: decodeUtf8 t
    else match t with
      | [] => [none]
      | b :: t₂ =>
        match two? a b with
        | some c => some c :: decodeUtf8 t₂
        | none =>
          match t₂ with
          | [] => none :: decodeUtf8 [b]
          | c :: t₃ =>
            match three? a b c with
            | some char => some char :: decodeUtf8 t₃
            | none =>
              match t₃ with
              | [] => none :: decodeUtf8 [b, c]
              | d :: t₄ =>
                match four? a b c d with
                | some char => some char :: decodeUtf8 t₄
                | none => none :: decodeUtf8 (b :: c :: d :: t₄)
termination_by bytes => bytes.length

def textOfUtf8? (bytes : List UInt8) : Option String :=
  ((decodeUtf8 bytes).mapM id).map String.ofList

end CounterBoard.Text
