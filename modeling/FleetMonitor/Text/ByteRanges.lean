/-!
# Ranges of code points in bytes

In UTF-8 the code points of a range are those byte sequences whose bytes lie in given
ranges, one after the other; a range of code points may need several such sequences.
-/

set_option autoImplicit false

namespace FleetMonitor.Text

structure ByteRange where
  low : Nat
  high : Nat
deriving DecidableEq, Repr, Inhabited

namespace ByteRange

def encoded (n : Nat) : List Nat :=
  if n < 0x80 then [n]
  else if n < 0x800 then [0xC0 + n / 64, 0x80 + n % 64]
  else if n < 0x10000 then [0xE0 + n / 4096, 0x80 + n / 64 % 64, 0x80 + n % 64]
  else [0xF0 + n / 262144, 0x80 + n / 4096 % 64, 0x80 + n / 64 % 64, 0x80 + n % 64]

/-- The last code point of what can be taken off in front so that the two ends of a
range differ in their lower bytes only as a whole. -/
def alignment? (low high : Nat) : Option Nat :=
  [64, 4096, 262144].findSome? fun size =>
    if low / size = high / size then none
    else if low % size ≠ 0 then some (low / size * size + (size - 1))
    else if high % size ≠ size - 1 then some (high / size * size - 1)
    else none

/-- The last code point of the part of a range that is taken on its own: what comes
before the surrogates, these, what has as many bytes, or what can be taken off.  A cut at
the end of a range leaves nothing of it. -/
def cut? (low high : Nat) : Option Nat :=
  if low < 0xE000 ∧ 0xD7FF < high then some (if low < 0xD800 then 0xD7FF else 0xDFFF)
  else
    (([0x7F, 0x7FF, 0xFFFF].find? fun last => low ≤ last && last < high).orElse fun _ =>
      if high < 0x80 then none else alignment? low high)

def sequences (low high : Nat) : List (List ByteRange) :=
  if low ≤ high then
    match cut? low high with
    | some last =>
        if low ≤ last ∧ last < high then
          sequences low last ++ sequences (last + 1) high
        else []
    | none => [(encoded low).zipWith ByteRange.mk (encoded high)]
  else []
termination_by high + 1 - low

end ByteRange

end FleetMonitor.Text
