import FleetMonitor.Text.Blank
import FleetMonitor.Text.Quoted
import FleetMonitor.Decimal.Reading

/-!
# Spans of time

Spans as people write them, `1h 30min` or `1.5s`: numbers with units, added
up.  A span is a count of nanoseconds whose seconds fit 64 bits.
-/

set_option autoImplicit false

namespace FleetMonitor

structure Span where
  nanos : Nat
deriving DecidableEq, Repr, Inhabited

namespace Span

def second : Nat := 1000000000

def seconds (span : Span) : Nat :=
  span.nanos / second

def subsecond (span : Span) : Nat :=
  span.nanos % second

def micros (span : Span) : Nat :=
  span.nanos / 1000

def ofSeconds (n : Nat) : Span :=
  ⟨n * second⟩

def ofMillis (n : Nat) : Span :=
  ⟨n * 1000000⟩

def isZero (span : Span) : Bool :=
  span.nanos = 0

/-- A number of units of a size, with a fraction that has no zeros at its end. -/
def decimal (nanos size places : Nat) : String :=
  let rest := toString (nanos % size)
  let fraction := (List.replicate (places - rest.length) '0' ++ rest.toList).reverse.dropWhile
    (· == '0')
  toString (nanos / size) ++
    (if fraction.isEmpty then "" else "." ++ String.ofList fraction.reverse)

/-- The span in the largest of seconds, milliseconds, microseconds and nanoseconds
that it reaches: `1.5s`, `50ms`. -/
def brief (span : Span) : String :=
  if second ≤ span.nanos then decimal span.nanos second 9 ++ "s"
  else if 1000000 ≤ span.nanos then decimal span.nanos 1000000 6 ++ "ms"
  else if 1000 ≤ span.nanos then decimal span.nanos 1000 3 ++ "µs"
  else toString span.nanos ++ "ns"

/-- Units of time.  A month is 30.44 days and a year 365.25 days. -/
inductive Measure where
  | nanosecond | microsecond | millisecond | second | minute
  | hour | day | week | month | year
deriving DecidableEq, Repr

namespace Measure

def ofName (name : String) : Option Measure :=
  if ["nanos", "nsec", "ns"].contains name then some nanosecond
  else if ["usec", "us", "µs"].contains name then some microsecond
  else if ["millis", "msec", "ms"].contains name then some millisecond
  else if ["seconds", "second", "secs", "sec", "s"].contains name then some second
  else if ["minutes", "minute", "min", "mins", "m"].contains name then some minute
  else if ["hours", "hour", "hrs", "hr", "h"].contains name then some hour
  else if ["days", "day", "d"].contains name then some day
  else if ["weeks", "week", "wks", "wk", "w"].contains name then some week
  else if ["months", "month", "M"].contains name then some month
  else if ["years", "year", "yrs", "yr", "y"].contains name then some year
  else none

def size : Measure → Nat × Nat
  | nanosecond => (0, 1)
  | microsecond => (0, 1000)
  | millisecond => (0, 1000000)
  | second => (1, 0)
  | minute => (60, 0)
  | hour => (3600, 0)
  | day => (86400, 0)
  | week => (604800, 0)
  | month => (2630016, 0)
  | year => (31557600, 0)

/-- How a fraction of a unit is counted: in nanoseconds up to minutes, in whole
seconds from hours on.  A nanosecond has no fractions. -/
def fractionSize : Measure → Option (Nat × Nat)
  | nanosecond => none
  | microsecond => some (0, 1000)
  | millisecond => some (0, 1000000)
  | second => some (0, 1000000000)
  | minute => some (0, 60000000000)
  | hour => some (3600, 0)
  | day => some (86400, 0)
  | week => some (604800, 0)
  | month => some (2630016, 0)
  | year => some (31557600, 0)

end Measure

inductive ReadError where
  | empty
  | invalidCharacter (offset : Nat)
  | numberExpected (offset : Nat)
  | unitMissing (number : Nat)
  | unitUnknown (name : String)
  /-- A number beyond 64 bits, a sum beyond the longest span, or a fraction of
  less than the unit it is counted in. -/
  | imprecise
  /-- The parts add up to one nanosecond more than the longest span. -/
  | beyondLongest
deriving DecidableEq, Repr

def ReadError.message : ReadError → String
  | empty => "value was empty"
  | invalidCharacter offset => "invalid character at " ++ toString offset
  | numberExpected offset => "expected number at " ++ toString offset
  | unitMissing n =>
      "time unit needed, for example " ++ toString n ++ "sec or " ++ toString n ++ "ms"
  | unitUnknown name =>
      "unknown time unit " ++ Text.quoted name ++
        ", supported units: ns, us/µs, ms, sec, min, hours, days, weeks, months, years" ++
        " (and few variations)"
  | imprecise =>
      "number is too large or cannot be represented without a lack of precision " ++
        "(values below 1ns are not supported)"
  | beyondLongest => ""

abbrev Located := List (Nat × Char)

def locate : Nat → List Char → Located
  | _, [] => []
  | offset, c :: rest => (offset, c) :: locate (offset + c.utf8Size) rest

def isUnitLetter (c : Char) : Bool :=
  c.isAlpha || c = 'µ'

def word (n : Nat) : Except ReadError Nat :=
  if n < 0x10000000000000000 then .ok n else .error .imprecise

structure Fraction where
  numerator : Nat
  denominator : Nat
deriving DecidableEq, Repr

/-- Reads the digits after a point; blanks between them count for nothing.
`offset` is where an unexpected character is reported. -/
def readFraction : Nat → Fraction → Located → Except ReadError (Fraction × Located)
  | offset, acc, [] =>
      if acc.denominator = 1 then .error (.invalidCharacter offset) else .ok (acc, [])
  | offset, acc, (here, c) :: rest =>
      let next := here + c.utf8Size
      if c.isDigit then do
        let denominator ← word (acc.denominator * 10)
        let numerator ← word (acc.numerator * 10 + Decimal.digitValue c)
        readFraction next ⟨numerator, denominator⟩ rest
      else if Text.isBlank c then readFraction next acc rest
      else if isUnitLetter c then
        if acc.denominator = 1 then .error (.invalidCharacter offset)
        else .ok (acc, (here, c) :: rest)
      else .error (.invalidCharacter offset)

/-- Reads the rest of a number whose first digits have the value `n`; blanks
between digits count for nothing.  Stops before the unit. -/
def readNumber : Nat → Located → Except ReadError (Nat × Option Fraction × Located)
  | n, [] => .ok (n, none, [])
  | n, (offset, c) :: rest =>
      if c.isDigit then do
        let n ← word (n * 10 + Decimal.digitValue c)
        readNumber n rest
      else if Text.isBlank c then readNumber n rest
      else if isUnitLetter c then .ok (n, none, (offset, c) :: rest)
      else if c = '.' then do
        let (fraction, rest) ← readFraction offset ⟨0, 1⟩ rest
        pure (n, some fraction, rest)
      else .error (.invalidCharacter offset)

def readUnit : Located → Except ReadError (List Char × Located)
  | [] => .ok ([], [])
  | (offset, c) :: rest =>
      if c.isDigit || Text.isBlank c then .ok ([], (offset, c) :: rest)
      else if isUnitLetter c then do
        let (name, rest) ← readUnit rest
        pure (c :: name, rest)
      else .error (.invalidCharacter offset)

def readFirst (offset : Nat) : Located → Except ReadError (Option (Nat × Located))
  | [] => .ok none
  | (_, c) :: rest =>
      if c.isDigit then .ok (some (Decimal.digitValue c, rest))
      else if Text.isBlank c then readFirst offset rest
      else .error (.numberExpected offset)

def plus (span : Span) (sec nsec : Nat) : Except ReadError Span := do
  let nsec ← word (span.subsecond + nsec)
  let carried := if second < nsec then nsec / second else 0
  let sec ← word (sec + carried)
  let sec ← word (span.seconds + sec)
  let total := sec * second + (if second < nsec then nsec % second else nsec)
  if total / second < 0x10000000000000000 then pure ⟨total⟩ else throw .beyondLongest

def share (fraction : Fraction) (size : Nat) : Except ReadError Nat := do
  let product ← word (fraction.numerator * size)
  if product % fraction.denominator = 0 then pure (product / fraction.denominator)
  else throw .imprecise

def addUnits (span : Span) (n : Nat) (fraction : Option Fraction) (name : String) :
    Except ReadError Span :=
  match Measure.ofName name with
  | none => .error (if name.isEmpty then .unitMissing n else .unitUnknown name)
  | some measure => do
      let sec ← word (n * measure.size.1)
      let nsec ← word (n * measure.size.2)
      let span ← span.plus sec nsec
      match fraction with
      | none => pure span
      | some fraction =>
          match measure.fractionSize with
          | none => throw .imprecise
          | some (sec, nsec) => do
              let sec ← share fraction sec
              let nsec ← share fraction nsec
              span.plus sec nsec

def afterBlank (finish : Nat) : Located → Nat × Located
  | [] => (finish, [])
  | (offset, c) :: rest =>
      if Text.isBlank c then (offset + c.utf8Size, rest) else (offset, (offset, c) :: rest)

/-- Reads numbers with units one after the other; `n` is the first digit of the
number being read.  Each round takes at least one character of fuel. -/
def readParts (finish : Nat) : Nat → Nat → Span → Located → Except ReadError Span
  | 0, _, span, _ => .ok span
  | fuel + 1, n, span, rest => do
      let (n, fraction, rest) ← readNumber n rest
      let (name, rest) ← readUnit rest
      let span ← span.addUnits n fraction (String.ofList name)
      let (offset, rest) := afterBlank finish rest
      match ← readFirst offset rest with
      | none => pure span
      | some (n, rest) => readParts finish fuel n span rest

def read (s : String) : Except ReadError Span := do
  let chars := locate 0 s.toList
  match ← readFirst 0 chars with
  | none => throw .empty
  | some (n, rest) => readParts s.utf8ByteSize (rest.length + 1) n ⟨0⟩ rest

end Span

end FleetMonitor
