import FleetMonitor.Json.Document

/-!
# Reading JSON texts

A reader from characters to documents.  Each step answers what it read and
what follows it; nothing follows a break.
-/

set_option autoImplicit false

namespace FleetMonitor.Document

/-- A node with the text after it, or nothing after a break. -/
abbrev Read := Document × Option (List Char)

def isJsonBlank (c : Char) : Bool :=
  c = ' ' || c = '\n' || c = '\t' || c = '\r'

def skipBlanks (cs : List Char) : List Char :=
  cs.dropWhile isJsonBlank

def hex4? (a b c d : Char) : Option Nat := do
  let a ← Text.hexValue? a
  let b ← Text.hexValue? b
  let c ← Text.hexValue? c
  let d ← Text.hexValue? d
  pure (((a * 16 + b) * 16 + c) * 16 + d)

def shortEscape? (c : Char) : Option Char :=
  match c with
  | '"' => some '"'
  | '\\' => some '\\'
  | '/' => some '/'
  | 'b' => some '\x08'
  | 'f' => some '\x0c'
  | 'n' => some '\n'
  | 'r' => some '\r'
  | 't' => some '\t'
  | _ => none

/-- The units of a string: characters, and 16-bit units that were escaped. -/
inductive StringUnit where
  | char (c : Char)
  | code (n : Nat)

/-- Reads the inside of a string up to its closing quote: its units and the
text after the quote. -/
def readUnits : List Char → Option (List StringUnit × List Char)
  | [] => none
  | '"' :: rest => some ([], rest)
  | '\\' :: 'u' :: a :: b :: c :: d :: rest =>
      match hex4? a b c d with
      | none => none
      | some n => (readUnits rest).map fun (units, after) => (.code n :: units, after)
  | '\\' :: c :: rest =>
      match shortEscape? c with
      | none => none
      | some e => (readUnits rest).map fun (units, after) => (.char e :: units, after)
  | c :: rest =>
      if c.toNat < 0x20 ∨ c = '\\' then none
      else (readUnits rest).map fun (units, after) => (.char c :: units, after)

/-- Joins surrogate pairs; none if half of a pair stands alone. -/
def joinUnits : List StringUnit → Option (List Char)
  | [] => some []
  | .char c :: rest => (joinUnits rest).map (c :: ·)
  | .code high :: .code low :: rest =>
      if 0xD800 ≤ high ∧ high < 0xDC00 then
        if 0xDC00 ≤ low ∧ low < 0xE000 then
          let n := 0x10000 + (high - 0xD800) * 0x400 + (low - 0xDC00)
          (joinUnits rest).map (Char.ofNat n :: ·)
        else none
      else if 0xDC00 ≤ high ∧ high < 0xE000 then none
      else (joinUnits (.code low :: rest)).map (Char.ofNat high :: ·)
  | .code n :: rest =>
      if 0xD800 ≤ n ∧ n < 0xE000 then none
      else (joinUnits rest).map (Char.ofNat n :: ·)

/-- Reads a string after its opening quote; the text is absent if it holds half
of a surrogate pair. -/
def readString (cs : List Char) : Option (Option String × List Char) :=
  (readUnits cs).map fun (units, rest) => ((joinUnits units).map String.ofList, rest)

structure Numeral where
  negative : Bool
  whole : List Char
  fraction : Option (List Char)
  exponent : Option Int

/-- The number that a numeral stands for: an integer if it is written as one
and fits 64 bits, otherwise a double; none if it is too large for a double.
Minus zero is a double. -/
def Numeral.number? (numeral : Numeral) : Option Number :=
  let (head, taken) := Decimal.takeDigits 0 numeral.whole
  let dropped := numeral.whole.length - taken
  if numeral.fraction.isNone && numeral.exponent.isNone && dropped = 0 &&
      (!numeral.negative || (0 < head && head ≤ 0x8000000000000000)) then
    some (.whole (if numeral.negative then -(head : Int) else head))
  else
    let (significand, places) := Decimal.takeDigits head (numeral.fraction.getD [])
    let exponent : Int := dropped - places + numeral.exponent.getD 0
    (Decimal.scale 4 (Float.ofNat significand) exponent).map fun x =>
      .float (if numeral.negative then -x else x)

def readExponent : List Char → Option (Option Int × List Char)
  | [] => some (none, [])
  | c :: rest =>
      if c = 'e' ∨ c = 'E' then
        let (minus, afterSign) := Decimal.spanSign rest
        let (digits, after) := Decimal.spanDigits afterSign
        if digits.isEmpty then none
        else
          let n : Int := Decimal.valueOf digits
          some (some (if minus then -n else n), after)
      else some (none, c :: rest)

def readFraction : List Char → Option (Option (List Char) × List Char)
  | '.' :: rest =>
      let (digits, after) := Decimal.spanDigits rest
      if digits.isEmpty then none else some (some digits, after)
  | rest => some (none, rest)

def readNumber (cs : List Char) : Read :=
  let (negative, afterSign) :=
    match cs with
    | '-' :: rest => (true, rest)
    | rest => (false, rest)
  let (whole, afterWhole) := Decimal.spanDigits afterSign
  if whole.isEmpty || (whole.head? = some '0' && 1 < whole.length) then (torn, none)
  else
    match readFraction afterWhole with
    | none => (torn, none)
    | some (fraction, afterFraction) =>
        match readExponent afterFraction with
        | none => (torn, none)
        | some (exponent, rest) =>
            match Numeral.number? ⟨negative, whole, fraction, exponent⟩ with
            | some n => (number n, some rest)
            | none => (unreadable, some rest)

/-- The deepest nesting of lists and objects that can be taken as values. -/
def depthLimit : Nat := 127

def nested (depth : Nat) (node : Document) (rest : Option (List Char)) : Read :=
  if depthLimit < depth && rest.isSome then (unreadable, rest) else (node, rest)

mutual

/-- Reads one value; `depth` counts the lists and objects around it.  Each call
takes a character or two of fuel from the text it has yet to read. -/
def readValue : Nat → Nat → List Char → Read
  | 0, _, _ => (torn, none)
  | fuel + 1, depth, cs =>
      match skipBlanks cs with
      | 'n' :: 'u' :: 'l' :: 'l' :: rest => (null, some rest)
      | 't' :: 'r' :: 'u' :: 'e' :: rest => (bool true, some rest)
      | 'f' :: 'a' :: 'l' :: 's' :: 'e' :: rest => (bool false, some rest)
      | '"' :: rest =>
          match readString rest with
          | some (some s, rest) => (string s, some rest)
          | some (none, rest) => (unreadable, some rest)
          | none => (torn, none)
      | '[' :: rest =>
          let (items, after) :=
            match skipBlanks rest with
            | ']' :: rest => ([], some rest)
            | rest => readItems fuel (depth + 1) rest
          nested (depth + 1) (array items) after
      | '\x7b' :: rest =>
          let (members, after) :=
            match skipBlanks rest with
            | '\x7d' :: rest => ([], some rest)
            | rest => readMembers fuel (depth + 1) rest
          nested (depth + 1) (object members) after
      | rest => readNumber rest

def readItems : Nat → Nat → List Char → List Document × Option (List Char)
  | 0, _, _ => ([torn], none)
  | fuel + 1, depth, cs =>
      let (item, after) := readValue fuel depth cs
      match after with
      | none => ([item], none)
      | some rest =>
          match skipBlanks rest with
          | ']' :: rest => ([item], some rest)
          | ',' :: rest =>
              let (items, after) := readItems fuel depth rest
              (item :: items, after)
          | _ => ([item, torn], none)

def readMembers : Nat → Nat → List Char →
    List (Option String × Document) × Option (List Char)
  | 0, _, _ => ([(none, torn)], none)
  | fuel + 1, depth, cs =>
      match skipBlanks cs with
      | '"' :: rest =>
          match readString rest with
          | none => ([(none, torn)], none)
          | some (key, rest) =>
              match skipBlanks rest with
              | ':' :: rest =>
                  let (value, after) := readValue fuel depth rest
                  match after with
                  | none => ([(key, value)], none)
                  | some rest =>
                      match skipBlanks rest with
                      | '\x7d' :: rest => ([(key, value)], some rest)
                      | ',' :: rest =>
                          let (members, after) := readMembers fuel depth rest
                          ((key, value) :: members, after)
                      | _ => ([(key, value), (none, torn)], none)
              | _ => ([(key, torn)], none)
      | _ => ([(none, torn)], none)

end

/-- Reads a whole text: its document, and whether nothing but blanks follows. -/
def read (s : String) : Document × Bool :=
  let cs := s.toList
  let (document, after) := readValue (2 * cs.length + 2) 0 cs
  (document, (after.map (fun rest => (skipBlanks rest).isEmpty)).getD false)

end FleetMonitor.Document

namespace FleetMonitor.Json

def read? (s : String) : Option Json :=
  match Document.read s with
  | (document, true) => document.value?
  | _ => none

end FleetMonitor.Json
