/-!
# Names in ASCII

A label of a name with characters beyond ASCII in the letters and digits of ASCII
(RFC 3492): its ASCII characters first, then, for each other character in ascending
order, how far one has to go over the places of the label to insert it.
-/

set_option autoImplicit false

namespace FleetMonitor

namespace Text.Punycode

def digit (n : Nat) : Char :=
  if n < 26 then Char.ofNat (97 + n) else Char.ofNat (22 + n)

/-- Where the digits of a number end: a digit below its threshold is the last
one. -/
def threshold (bias place : Nat) : Nat :=
  min 26 (max 1 (place - bias))

theorem threshold_bounds (bias place : Nat) :
    1 ≤ threshold bias place ∧ threshold bias place ≤ 26 := by
  unfold threshold
  omega

def digits (bias place n : Nat) : List Char :=
  let t := threshold bias place
  if n < t then [digit n]
  else digit (t + (n - t) % (36 - t)) :: digits bias (place + 36) ((n - t) / (36 - t))
termination_by n
decreasing_by
  have bounds := threshold_bounds bias place
  have := Nat.div_le_self (n - threshold bias place) (36 - threshold bias place)
  omega

/-- The bias for numbers of a size; a step of it for each division by 35. -/
def biasOf (bias n : Nat) : Nat :=
  if 455 < n then biasOf (bias + 36) (n / 35) else bias + 36 * n / (n + 38)
termination_by n
decreasing_by exact Nat.div_lt_self (by omega) (by omega)

/-- The bias after a number: the distance that was gone, spread over the characters
placed, that of the first number for less. -/
def nextBias (first : Bool) (delta placed : Nat) : Nat :=
  let scaled := if first then delta / 700 else delta / 2
  biasOf 0 (scaled + scaled / placed)

/-- What was written, how far one has gone since, and how many characters are
placed. -/
structure Progress where
  written : List Char
  delta : Nat
  bias : Nat
  placed : Nat
  first : Bool

/-- Passes one character of the label while the character `c` is inserted. -/
def pass (c : Nat) (progress : Progress) (d : Char) : Progress :=
  if d.toNat < c then { progress with delta := progress.delta + 1 }
  else if d.toNat = c then
    { written := progress.written ++ digits progress.bias 36 progress.delta
      delta := 0
      bias := nextBias progress.first progress.delta (progress.placed + 1)
      placed := progress.placed + 1
      first := false }
  else progress

def insertAll (label : List Char) : List Nat → Nat → Progress → Progress
  | [], _, progress => progress
  | c :: rest, next, progress =>
      let begun :=
        { progress with delta := progress.delta + (c - next) * (progress.placed + 1) }
      let passed := label.foldl (pass c) begun
      insertAll label rest (c + 1) { passed with delta := passed.delta + 1 }

def encode (label : List Char) : List Char :=
  let plain := label.filter fun c => c.toNat < 128
  let others := ((label.map Char.toNat).filter fun n => 128 ≤ n).mergeSort.eraseDups
  let start : Progress := ⟨[], 0, 72, plain.length, true⟩
  plain ++ (if plain.isEmpty then [] else ['-']) ++ (insertAll label others 128 start).written

def digitValue? (c : Char) : Option Nat :=
  if c.isLower then some (c.toNat - 'a'.toNat)
  else if c.isUpper then some (c.toNat - 'A'.toNat)
  else if c.isDigit then some (c.toNat - '0'.toNat + 26)
  else none

/-- Adds a number to `sum`: its value and what follows its digits.  Its next digit
counts `weight` times. -/
def readNumber (bias : Nat) : Nat → Nat → Nat → List Char → Option (Nat × List Char)
  | _, _, _, [] => none
  | place, weight, sum, c :: rest =>
      match digitValue? c with
      | none => none
      | some d =>
          if d < threshold bias place then some (sum + d * weight, rest)
          else
            readNumber bias (place + 36) (weight * (36 - threshold bias place))
              (sum + d * weight) rest

theorem length_of_readNumber {bias place weight sum : Nat} {cs : List Char}
    {found : Nat × List Char} (read : readNumber bias place weight sum cs = some found) :
    found.2.length < cs.length := by
  induction cs generalizing place weight sum with
  | nil => simp [readNumber] at read
  | cons c rest ih =>
      rw [readNumber] at read
      split at read
      · simp at read
      · split at read
        · obtain rfl := Option.some.inj read
          simp
        · exact Nat.lt_succ_of_lt (ih read)

/-- Inserts the characters whose numbers follow.  `place` is where the next character
of value `value` would go. -/
def insertRead (bias value place : Nat) (label : List Char) : List Char → Option (List Char)
  | [] => some label
  | c :: rest =>
      match _ : readNumber bias 36 1 place (c :: rest) with
      | none => none
      | some (sum, after) =>
          let places := label.length + 1
          let next := value + sum / places
          if next < 0xD800 ∨ (0xDFFF < next ∧ next < 0x110000) then
            insertRead (nextBias (place = 0) (sum - place) places) next (sum % places + 1)
              (label.insertIdx (sum % places) (Char.ofNat next)) after
          else none
termination_by cs => cs.length
decreasing_by exact length_of_readNumber (by assumption)

/-- Reads a label: what stands before the last hyphen is in ASCII. -/
def decode (cs : List Char) : Option (List Char) :=
  let digits := (cs.reverse.takeWhile (· != '-')).reverse
  let plain := cs.take (cs.length - digits.length)
  if plain = ['-'] then none else insertRead 72 128 0 plain.dropLast digits

end Text.Punycode

end FleetMonitor
