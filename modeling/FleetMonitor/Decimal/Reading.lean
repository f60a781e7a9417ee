import FleetMonitor.Decimal.Written

/-!
# Reading decimals

Two readers of decimal numbers.  `float?` accepts the grammar of free-standing
numbers, with names for infinity and not-a-number, and rounds correctly.
`scale` turns a significand of 64 bits and a power of ten into a number in one
multiplication or division; it is how numbers of JSON texts are read, and for
long significands it can be off by one unit in the last place.
-/

set_option autoImplicit false

namespace FleetMonitor.Decimal

def digitValue (c : Char) : Nat :=
  c.toNat - '0'.toNat

def valueOf (digits : List Char) : Nat :=
  digits.foldl (fun n c => 10 * n + digitValue c) 0

def spanDigits (cs : List Char) : List Char × List Char :=
  (cs.takeWhile Char.isDigit, cs.dropWhile Char.isDigit)

def spanSign : List Char → Bool × List Char
  | '-' :: rest => (true, rest)
  | '+' :: rest => (false, rest)
  | rest => (false, rest)

def spanFraction : List Char → List Char × List Char
  | '.' :: rest => spanDigits rest
  | rest => ([], rest)

def exponent? : List Char → Option Int
  | [] => some 0
  | c :: rest =>
      if c = 'e' ∨ c = 'E' then
        let (minus, digits) := spanSign rest
        if digits.isEmpty || !digits.all Char.isDigit then none
        else
          let n : Int := valueOf digits
          some (if minus then -n else n)
      else none

/-- The number `significand * 10 ^ exponent`, correctly rounded; far outside
the range of doubles the answer is infinity or zero without any arithmetic. -/
def rounded (significand : Nat) (exponent : Int) : Float :=
  if significand = 0 then 0
  else
    let size := (digitCount significand : Int) + exponent
    if 400 < size then Float.ofBits 0x7FF0000000000000
    else if size < -400 then 0
    else Float.ofScientific significand (exponent < 0) exponent.natAbs

def magnitude? (cs : List Char) : Option Float :=
  let name := cs.map Char.toLower
  if name = "inf".toList ∨ name = "infinity".toList then
    some (Float.ofBits 0x7FF0000000000000)
  else if name = "nan".toList then some (Float.ofBits 0x7FF8000000000000)
  else
    let (whole, afterWhole) := spanDigits cs
    let (fraction, afterFraction) := spanFraction afterWhole
    if whole.isEmpty && fraction.isEmpty then none
    else
      (exponent? afterFraction).map fun exponent =>
        rounded (valueOf (whole ++ fraction)) (exponent - fraction.length)

/-- Reads a free-standing number: an optional sign, then digits with an
optional point and exponent, or the name of infinity or of not-a-number in any
letter case. -/
def float? (s : String) : Option Float :=
  let (minus, rest) := spanSign s.toList
  (magnitude? rest).map fun x => if minus then -x else x

def powerOfTen (n : Nat) : Float :=
  Float.ofScientific 1 false n

/-- The number `x * 10 ^ exponent` by one rounded operation, or by repeated
division where the power of ten is itself too small for a double; `none` when
the result is too large. -/
def scale : Nat → Float → Int → Option Float
  | 0, _, _ => some 0
  | fuel + 1, x, exponent =>
      if exponent.natAbs ≤ 308 then
        if 0 ≤ exponent then
          let y := x * powerOfTen exponent.natAbs
          if y.isInf then none else some y
        else some (x / powerOfTen exponent.natAbs)
      else if x == 0 then some x
      else if 0 ≤ exponent then none
      else scale fuel (x / powerOfTen 308) (exponent + 308)

/-- The digits of a significand as far as 64 bits hold them: once a digit does
not fit, it and all later ones are dropped.  Answers the significand and the
number of digits taken. -/
def takeDigits : Nat → List Char → Nat × Nat
  | significand, [] => (significand, 0)
  | significand, d :: rest =>
      let next := 10 * significand + digitValue d
      if 0x10000000000000000 ≤ next then (significand, 0)
      else
        let (final, taken) := takeDigits next rest
        (final, taken + 1)

end FleetMonitor.Decimal
