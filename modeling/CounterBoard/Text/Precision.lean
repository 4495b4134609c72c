import CounterBoard.Text.Digits

/-!
Double precision: numbers of fifty-three binary digits, up to a bound beyond which there is only
infinity. A numeral is held against the bound in one of two ways: exactly, or as the product of two
rounded numbers, which can come out on the other side of it.
-/

set_option autoImplicit false
set_option relaxedAutoImplicit false

namespace CounterBoard.Text

/-- The least magnitude that is rounded to infinity. -/
def firstInfinite : Nat :=
  Nat.pow 2 1024 - Nat.pow 2 970

def largestScale : Nat := 308

/-- Whether a number, given by its digits and the power of ten of the last of them, is rounded to
infinity. -/
def exceedsDouble (ds : List Char) (scale : Int) : Bool :=
  let digits := ds.dropWhile (· = '0')
  let places := digits.length + scale
  if digits.isEmpty || places < largestScale then false
  else if largestScale + 2 < places then true
  else firstInfinite * tenTo (-scale).toNat ≤ number digits * tenTo scale.toNat

def binaryDigits : Nat := 53

/-- The multiple of a unit that is nearest to a number, the even one of two that are equally
near. -/
def roundTo (unit n : Nat) : Nat :=
  let low := n % unit
  let isUp := unit < 2 * low || (unit == 2 * low && n / unit % 2 == 1)
  if isUp then (n / unit + 1) * unit else n / unit * unit

/-- The number of fifty-three binary digits that is nearest to a number below infinity. -/
def rounded (n : Nat) : Nat :=
  roundTo (Nat.pow 2 (n.log2 + 1 - binaryDigits)) n

/-- Whether the product of a number and a power of ten, each rounded, is rounded to infinity. -/
def productExceedsDouble (n : Nat) (scale : Int) : Bool :=
  n != 0 && 0 ≤ scale && (largestScale < scale ||
    firstInfinite ≤ rounded n * rounded (tenTo scale.toNat))

end CounterBoard.Text
