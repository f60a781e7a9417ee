/-!
# Reading UTF-8

Bytes that are no UTF-8 are read as replacement characters: one for each stretch
that begins a character as far as it can, and one for each other byte.
-/

set_option autoImplicit false

namespace FleetMonitor

namespace Text

/-- A character of which some bytes were read: the value so far, how many bytes
are owed, and the bounds of the next one. -/
structure Partial where
  value : Nat
  owed : Nat
  low : Nat
  high : Nat

/-- What a byte at the start of a character gives: characters, or a character
that is not complete. -/
def lead (b : Nat) : List Char × Option Partial :=
  if b < 0x80 then ([Char.ofNat b], none)
  else if 0xC2 ≤ b ∧ b ≤ 0xDF then ([], some ⟨b - 0xC0, 1, 0x80, 0xBF⟩)
  else if 0xE0 ≤ b ∧ b ≤ 0xEF then
    ([], some ⟨b - 0xE0, 2, if b = 0xE0 then 0xA0 else 0x80, if b = 0xED then 0x9F else 0xBF⟩)
  else if 0xF0 ≤ b ∧ b ≤ 0xF4 then
    ([], some ⟨b - 0xF0, 3, if b = 0xF0 then 0x90 else 0x80, if b = 0xF4 then 0x8F else 0xBF⟩)
  else (['\uFFFD'], none)

def readUtf8 : Option Partial → List Nat → List Char
  | none, [] => []
  | some _, [] => ['\uFFFD']
  | none, b :: rest =>
      let (chars, begun) := lead b
      chars ++ readUtf8 begun rest
  | some begun, b :: rest =>
      if begun.low ≤ b ∧ b ≤ begun.high then
        let value := begun.value * 64 + (b - 0x80)
        if begun.owed = 1 then Char.ofNat value :: readUtf8 none rest
        else readUtf8 (some ⟨value, begun.owed - 1, 0x80, 0xBF⟩) rest
      else
        let (chars, next) := lead b
        '\uFFFD' :: chars ++ readUtf8 next rest

def ofUtf8 (bytes : List Nat) : String :=
  String.ofList (readUtf8 none bytes)

def utf8 (s : String) : List Nat :=
  s.toUTF8.toList.map UInt8.toNat

end Text

end FleetMonitor
