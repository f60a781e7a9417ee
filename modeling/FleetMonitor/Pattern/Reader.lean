import FleetMonitor.Decimal.Reading
import FleetMonitor.Pattern.Bracket
import FleetMonitor.Text.Alphanumeric

/-!
# Reading patterns

The written form of patterns: literals, sets in brackets, escapes, anchors, groups with
flags, alternatives and repetitions.  A text outside the grammar has no pattern;
look-around and back references are outside.
-/

set_option autoImplicit false

namespace FleetMonitor

namespace Pattern

def readDigits (spaced : Bool) : Nat → List Char → List Char × List Char
  | fuel + 1, c :: rest =>
      if c.isDigit then
        let (digits, rest) := readDigits spaced fuel (settled spaced rest)
        (c :: digits, rest)
      else ([], c :: rest)
  | _, cs => ([], cs)

/-- Drops the blanks after a count; comments among them where they count for
nothing. -/
def dropAfterCount (spaced : Bool) : Nat → List Char → List Char
  | fuel + 1, c :: rest =>
      if Text.isBlank c then dropAfterCount spaced fuel (settled spaced rest) else c :: rest
  | _, cs => cs

def readCount (spaced : Bool) (cs : List Char) : Option (Nat × List Char) :=
  let (digits, rest) := readDigits spaced cs.length (cs.dropWhile Text.isBlank)
  if digits.isEmpty then none
  else
    let n := Decimal.valueOf digits
    if n < 0x100000000 then some (n, dropAfterCount spaced rest.length rest) else none

def readBounds (spaced : Bool) (cs : List Char) : Option (Nat × Option Nat × List Char) := do
  let (least, rest) ← readCount spaced (settled spaced cs)
  match rest with
  | '\x7d' :: rest => some (least, some least, rest)
  | ',' :: rest =>
      match settled spaced rest with
      | '\x7d' :: rest => some (least, none, rest)
      | rest =>
          match readCount spaced rest with
          | some (most, '\x7d' :: rest) =>
              if least ≤ most then some (least, some most, rest) else none
          | _ => none
  | _ => none

def Flag.ofLetter? : Char → Option Flag
  | 'i' => some ignoreCase
  | 'm' => some multiLine
  | 's' => some dotAll
  | 'U' => some few
  | 'u' => some wide
  | 'R' => some carriage
  | 'x' => some spaced
  | _ => none

/-- Flags that are set and, after a dash, cleared, up to a colon or a closing
parenthesis.  None comes twice, nor does the dash, and a flag follows it. -/
def readFlags (value : Bool) (found : FlagChange) : List Char → Option (FlagChange × List Char)
  | [] => none
  | c :: rest =>
      if c = ':' || c = ')' then some (found.reverse, c :: rest)
      else if c = '-' then
        match rest with
        | [] => none
        | next :: _ =>
            if value && next != ':' && next != ')' then readFlags false found rest else none
      else
        (Flag.ofLetter? c).bind fun flag =>
          if found.any (·.1 = flag) then none
          else readFlags value ((flag, value) :: found) rest

/-- A name of a group: a letter or underscore, then letters, numbers and the marks `_`,
`.`, `[` and `]`. -/
def isGroupName : List Char → Bool
  | [] => false
  | c :: rest =>
      (c = '_' || Text.isAlphabetic c) &&
        rest.all fun d => Text.isAlphanumeric d || d = '_' || d = '.' || d = '[' || d = ']'

def readGroupName (cs : List Char) : Option (List Char × List Char) :=
  let name := cs.takeWhile (· != '>')
  if isGroupName name && name.length < cs.length then some (name, cs.drop (name.length + 1))
  else none

inductive Opening where
  | numbered (name : Option (List Char))
  | flagged (change : FlagChange)
  | directive (change : FlagChange)

def readOpening (cs : List Char) : Option (Opening × List Char) :=
  let named (rest : List Char) : Option (Opening × List Char) :=
    (readGroupName rest).map fun (name, rest) => (.numbered (some name), rest)
  match cs with
  | '?' :: 'P' :: '<' :: rest => named rest
  | '?' :: '<' :: rest => named rest
  | '?' :: rest =>
      match readFlags true [] rest with
      | some (change, ':' :: rest) => some (.flagged change, rest)
      | some (change, ')' :: rest) =>
          if change.isEmpty then none else some (.directive change, rest)
      | _ => none
  | rest => some (.numbered none, rest)

/-- The alternatives of a group read so far and the parts of the one at hand, last ones
first. -/
structure Level where
  choices : List Written
  parts : List Written

namespace Level

def add (level : Level) (part : Written) : Level :=
  { level with parts := part :: level.parts }

def close (level : Level) : Written :=
  let last := Written.ofParts level.parts.reverse
  if level.choices.isEmpty then last else .alt (last :: level.choices).reverse

/-- Puts the last part under a repetition; flags cannot be repeated. -/
def repeat? (level : Level) (least : Nat) (most : Option Nat) : Option Level :=
  match level.parts with
  | [] => none
  | .flags _ :: _ => none
  | part :: parts => some { level with parts := .repeated part least most :: parts }

end Level

structure GroupFrame where
  level : Level
  spaced : Bool
  number : Option Nat
  change : FlagChange

structure Reading where
  level : Level
  frames : List GroupFrame
  spaced : Bool
  groups : Nat
  names : List (List Char)

namespace Reading

def spacedBy (spaced : Bool) (change : FlagChange) : Bool :=
  (change.lookup .spaced).getD spaced

def add (reading : Reading) (part : Written) : Reading :=
  { reading with level := reading.level.add part }

def enter (reading : Reading) (number : Option Nat) (change : FlagChange) : Reading :=
  { reading with
    level := ⟨[], []⟩
    frames := ⟨reading.level, reading.spaced, number, change⟩ :: reading.frames
    spaced := spacedBy reading.spaced change }

def opened? (reading : Reading) : Opening → Option Reading
  | .numbered name =>
      if name.any reading.names.contains then none
      else
        some ({ reading with
                groups := reading.groups + 1
                names := name.toList ++ reading.names }.enter (some (reading.groups + 1)) [])
  | .flagged change => some (reading.enter none change)
  | .directive change =>
      some { reading.add (.flags change) with spaced := spacedBy reading.spaced change }

def closed? (reading : Reading) : Option Reading :=
  match reading.frames with
  | [] => none
  | frame :: frames =>
      some
        { reading with
          level := frame.level.add (.group frame.number frame.change reading.level.close)
          frames
          spaced := frame.spaced }

/-- Puts the last part under a repetition; a question mark right after it says only how
many rounds are preferred. -/
def repeated? (reading : Reading) (least : Nat) (most : Option Nat) (rest : List Char) :
    Option (Reading × List Char) :=
  (reading.level.repeat? least most).map fun level =>
    ({ reading with level },
     match rest with
     | '?' :: rest => rest
     | rest => rest)

def step? (reading : Reading) : List Char → Option (Reading × List Char)
  | [] => none
  | '(' :: rest =>
      (readOpening (settled reading.spaced rest)).bind fun (opening, rest) =>
        (reading.opened? opening).map fun reading => (reading, rest)
  | ')' :: rest => reading.closed?.map fun reading => (reading, rest)
  | '|' :: rest =>
      let last := Written.ofParts reading.level.parts.reverse
      some ({ reading with level := ⟨last :: reading.level.choices, []⟩ }, rest)
  | '[' :: rest =>
      (readBracket reading.spaced rest).map fun (bracket, rest) => (reading.add bracket, rest)
  | '?' :: rest => reading.repeated? 0 (some 1) rest
  | '*' :: rest => reading.repeated? 0 none rest
  | '+' :: rest => reading.repeated? 1 none rest
  | '\x7b' :: rest =>
      (readBounds reading.spaced rest).bind fun (least, most, rest) =>
        reading.repeated? least most (settled reading.spaced rest)
  | '\\' :: rest =>
      (readEscape reading.spaced rest).map fun (escape, rest) =>
        (reading.add escape.written, rest)
  | '.' :: rest => some (reading.add .dot, rest)
  | '^' :: rest => some (reading.add (.place .lineStart), rest)
  | '$' :: rest => some (reading.add (.place .lineEnd), rest)
  | c :: rest => some (reading.add (.char ⟨c, false⟩), rest)

def finish? : Nat → Reading → List Char → Option Written
  | 0, _, _ => none
  | fuel + 1, reading, cs =>
      match settled reading.spaced cs with
      | [] => if reading.frames.isEmpty then some reading.level.close else none
      | cs => (reading.step? cs).bind fun (reading, rest) => finish? fuel reading rest

end Reading

def Written.read? (cs : List Char) : Option Written :=
  (Reading.finish? (cs.length + 1) ⟨⟨[], []⟩, [], false, 0, []⟩ cs).bind fun written =>
    if written.depth ≤ depthLimit then some written else none

end Pattern

end FleetMonitor
