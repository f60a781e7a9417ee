import FleetMonitor.Decimal.Shortest

/-!
# Written decimals

Two ways of writing a number in its shortest digits: plain notation, which
never uses an exponent, and the notation of JSON texts, which always shows
that the number is not whole by a point or an exponent.
-/

set_option autoImplicit false

namespace FleetMonitor.Decimal

def isNegative (x : Float) : Bool :=
  x.toBits.toNat ≥ 0x8000000000000000

def digitsOf (n : Nat) : List Char :=
  Nat.toDigits 10 n

/-- Digits with the decimal point after `point` of them, filled with zeros
where the point lies outside; no point is written after the last digit. -/
def positional (digits : List Char) (point : Int) : List Char :=
  if point ≤ 0 then ['0', '.'] ++ List.replicate point.natAbs '0' ++ digits
  else if (digits.length : Int) ≤ point then
    digits ++ List.replicate (point - digits.length).toNat '0'
  else digits.take point.toNat ++ '.' :: digits.drop point.toNat

def scientific (digits : List Char) (point : Int) : List Char :=
  let mantissa :=
    match digits with
    | [] => []
    | [d] => [d]
    | d :: rest => d :: '.' :: rest
  let exponent := point - 1
  mantissa ++ 'e' :: (if exponent < 0 then '-' else '+') :: digitsOf exponent.natAbs

def Scaled.point (s : Scaled) : Int :=
  (digitsOf s.digits).length + s.exponent

def signed (x : Float) (magnitude : List Char) : List Char :=
  if isNegative x then '-' :: magnitude else magnitude

/-- A number in plain notation: shortest digits, no exponent, no point after a
whole number. -/
def plain (x : Float) : String :=
  if x.isNaN then "NaN"
  else if x.isInf then String.ofList (signed x "inf".toList)
  else if x == 0 then String.ofList (signed x ['0'])
  else
    let s := shortest x
    String.ofList (signed x (positional (digitsOf s.digits) s.point))

/-- A finite number in the notation of JSON texts: positional from `0.00001` to
below `10 ^ 16`, with `.0` after whole numbers, and scientific outside. -/
def exact (x : Float) : String :=
  if x == 0 then String.ofList (signed x ['0', '.', '0'])
  else
    let s := shortest x
    let digits := digitsOf s.digits
    let point := s.point
    if -5 < point ∧ point ≤ 16 then
      let text := positional digits point
      String.ofList (signed x
        (if (digits.length : Int) ≤ point then text ++ ['.', '0'] else text))
    else String.ofList (signed x (scientific digits point))

end FleetMonitor.Decimal
