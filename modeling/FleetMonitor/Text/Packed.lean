/-!
# Packed numbers

Long tables are kept as text: numbers in base 26, one after the other without
separators.  The last digit of a number is a capital, all others are small.
-/

set_option autoImplicit false

namespace FleetMonitor.Text.Packed

/-- The numbers of a packed text; `high` is the value of the digits read of the
number at hand. -/
def numbersFrom : Nat → List Char → List Nat
  | _, [] => []
  | high, c :: rest =>
      if c.isLower then numbersFrom (26 * high + (c.toNat - 'a'.toNat)) rest
      else (26 * high + (c.toNat - 'A'.toNat)) :: numbersFrom 0 rest

def numbers (s : String) : List Nat :=
  numbersFrom 0 s.toList

/-- A number of either sign: the even numbers count up from zero, the odd ones down
from minus one. -/
def signed (n : Nat) : Int :=
  if n % 2 = 0 then n / 2 else -((n : Int) + 1) / 2

def shifted (base n : Nat) : Nat :=
  ((base : Int) + signed n).toNat

end FleetMonitor.Text.Packed
