/-!
White space as the Unicode property White_Space has it, and cutting it from the ends of a text.
-/

set_option autoImplicit false
set_option relaxedAutoImplicit false

namespace CounterBoard.Text

/-- The twenty-five characters with the property White_Space. -/
def isBlank (c : Char) : Bool :=
  let n := c.toNat
  (9 ≤ n && n ≤ 13) || n == 0x20 || n == 0x85 || n == 0xA0 || n == 0x1680 ||
    (0x2000 ≤ n && n ≤ 0x200A) || n == 0x2028 || n == 0x2029 || n == 0x202F || n == 0x205F ||
    n == 0x3000

def trimStart (t : List Char) : List Char :=
  t.dropWhile isBlank

def trim (t : List Char) : List Char :=
  (trimStart (trimStart t).reverse).reverse

end CounterBoard.Text
