import FleetMonitor.Span

/-!
# Instants

Points of time in microseconds since the start of 1970, UTC, and the calendar
range in which they exist.  Arithmetic that leaves the range has no result.
-/

set_option autoImplicit false

namespace FleetMonitor

/-- A point of time, in microseconds since the start of 1970. -/
structure Instant where
  micros : Int
deriving DecidableEq, Repr, Inhabited

namespace Instant

instance : LT Instant := ⟨fun a b => a.micros < b.micros⟩
instance : LE Instant := ⟨fun a b => a.micros ≤ b.micros⟩

instance (a b : Instant) : Decidable (a < b) :=
  inferInstanceAs (Decidable (a.micros < b.micros))

instance (a b : Instant) : Decidable (a ≤ b) :=
  inferInstanceAs (Decidable (a.micros ≤ b.micros))

def second : Int := 1000000

/-- The first instant, at the start of the year -262143. -/
def first : Instant := ⟨-8334601228800 * second⟩

/-- The last instant, at the end of the year 262142. -/
def last : Instant := ⟨8210266876800 * second - 1⟩

def inRange (t : Instant) : Bool :=
  first ≤ t && t ≤ last

def later (a b : Instant) : Instant :=
  if a ≤ b then b else a

/-- A signed distance in seconds, if it is one that distances can have: their
milliseconds fit 64 bits. -/
def distance? (seconds : Int) : Option Int :=
  if seconds.natAbs ≤ 0x7fffffffffffffff / 1000 then some seconds else none

def minutes? (n : Int) : Option Int :=
  distance? (n * 60)

def days? (n : Int) : Option Int :=
  distance? (n * 86400)

def plus? (t : Instant) (seconds : Int) : Option Instant :=
  let moved : Instant := ⟨t.micros + seconds * second⟩
  if moved.inRange then some moved else none

def minus? (t : Instant) (seconds : Int) : Option Instant :=
  t.plus? (-seconds)

/-- The start of a stretch of minutes that ends at the instant. -/
def minutesBefore? (t : Instant) (n : Int) : Option Instant := do
  t.minus? (← minutes? n)

def floorMilli (t : Instant) : Instant :=
  ⟨Int.fdiv t.micros 1000 * 1000⟩

structure Date where
  year : Int
  month : Nat
  day : Nat
deriving DecidableEq, Repr

/-- The date a number of days after the start of 1970.  Years are counted from
March, so that a leap day ends its year, in eras of 400 years. -/
def Date.ofDays (days : Int) : Date :=
  let shifted := days + 719468
  let era := Int.fdiv shifted 146097
  let dayOfEra := (Int.fmod shifted 146097).toNat
  let yearOfEra := (dayOfEra - dayOfEra / 1460 + dayOfEra / 36524 - dayOfEra / 146096) / 365
  let dayOfYear := dayOfEra - (365 * yearOfEra + yearOfEra / 4 - yearOfEra / 100)
  let part := (5 * dayOfYear + 2) / 153
  let month := if part < 10 then part + 3 else part - 9
  let year : Int := yearOfEra + era * 400
  ⟨if month ≤ 2 then year + 1 else year, month, dayOfYear - (153 * part + 2) / 5 + 1⟩

def padded (width n : Nat) : String :=
  let digits := Decimal.digitsOf n
  String.ofList (List.replicate (width - digits.length) '0' ++ digits)

def fractionText (micros : Nat) : String :=
  if micros = 0 then ""
  else if micros % 1000 = 0 then "." ++ padded 3 (micros / 1000)
  else "." ++ padded 6 micros

def yearText (year : Int) : String :=
  if 0 ≤ year ∧ year ≤ 9999 then padded 4 year.toNat
  else (if year < 0 then "-" else "+") ++ padded 4 year.natAbs

/-- Date and time with the offset of UTC: `2024-02-29T12:00:00.500+00:00`. -/
def text (t : Instant) : String :=
  let days := Int.fdiv t.micros (86400 * second)
  let rest := (Int.fmod t.micros (86400 * second)).toNat
  let date := Date.ofDays days
  let seconds := rest / 1000000
  yearText date.year ++ "-" ++ padded 2 date.month ++ "-" ++ padded 2 date.day ++ "T" ++
    padded 2 (seconds / 3600) ++ ":" ++ padded 2 (seconds / 60 % 60) ++ ":" ++
    padded 2 (seconds % 60) ++ fractionText (rest % 1000000) ++ "+00:00"

end Instant

end FleetMonitor
