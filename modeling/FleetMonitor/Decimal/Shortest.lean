/-!
# Shortest decimals

A binary floating-point number stands for an interval of reals: those that
round to it.  Its shortest decimal is the one with the fewest digits in that
interval, and of two such the one nearer to the number.  All comparisons are
made in exact arithmetic on natural numbers.
-/

set_option autoImplicit false

namespace FleetMonitor.Decimal

/-- The positive number `digits * 10 ^ exponent`. -/
structure Scaled where
  digits : Nat
  exponent : Int
deriving DecidableEq, Repr

/-- A positive binary number `mantissa * 2 ^ exponent` of the grid of doubles;
`atPower` tells that the neighbour below is half as far as the one above. -/
structure Binary where
  mantissa : Nat
  exponent : Int
  atPower : Bool
deriving DecidableEq, Repr

namespace Binary

def ofFloat (x : Float) : Binary :=
  let bits : Nat := x.toBits.toNat
  let field : Nat := bits / 0x10000000000000 % 0x800
  let fraction : Nat := bits % 0x10000000000000
  if field = 0 then ⟨fraction, -1074, false⟩
  else ⟨0x10000000000000 + fraction, (field : Int) - 1075, fraction = 0 && field != 1⟩

def quarters (b : Binary) (n : Nat) : Nat :=
  if 0 ≤ b.exponent - 2 then n * Nat.pow 2 (b.exponent - 2).toNat
  else n * Nat.pow 5 (2 - b.exponent).toNat

def places (b : Binary) : Nat :=
  (2 - b.exponent).toNat

def centre (b : Binary) : Nat :=
  b.quarters (4 * b.mantissa)

def low (b : Binary) : Nat :=
  b.quarters (4 * b.mantissa - if b.atPower then 1 else 2)

def high (b : Binary) : Nat :=
  b.quarters (4 * b.mantissa + 2)

/-- A point of the common unit that rounds to the number: ends belong to the
interval exactly if the mantissa is even. -/
def holds (b : Binary) (point : Nat) : Bool :=
  if b.mantissa % 2 = 0 then b.low ≤ point && point ≤ b.high
  else b.low < point && point < b.high

/-- The nearest point of the grid of multiples of `10 ^ dropped` that lies in
the interval, as a multiple; an even multiple wins an exact tie. -/
def nearest? (b : Binary) (dropped : Nat) : Option Nat :=
  let unit := Nat.pow 10 dropped
  let below := b.centre / unit
  let above := below + 1
  match b.holds (below * unit), b.holds (above * unit) with
  | false, false => none
  | true, false => some below
  | false, true => some above
  | true, true =>
      let down := b.centre - below * unit
      let up := above * unit - b.centre
      if down < up then some below
      else if up < down then some above
      else if below % 2 = 0 then some below
      else some above

/-- Tries grids from coarse to fine, at most `tries` of them.  A ten on the
coarsest grid is a one of the grid above it. -/
def firstHit (b : Binary) : Nat → Nat → Scaled
  | 0, dropped => ⟨b.centre / Nat.pow 10 dropped, (dropped : Int) - b.places⟩
  | tries + 1, dropped =>
      match b.nearest? dropped with
      | some 10 => ⟨1, (dropped : Int) + 1 - b.places⟩
      | some digits => ⟨digits, (dropped : Int) - b.places⟩
      | none => firstHit b tries (dropped - 1)

end Binary

def digitCount (n : Nat) : Nat :=
  (Nat.toDigits 10 n).length

def shortest (x : Float) : Scaled :=
  let b := Binary.ofFloat x
  b.firstHit 17 (digitCount b.centre - 1)

end FleetMonitor.Decimal
