import FleetMonitor.Pattern.Escape

/-!
# Brackets in patterns

Sets in brackets: characters, ranges, escapes, names of ASCII sets, further brackets, and
operators between them.
-/

set_option autoImplicit false

namespace FleetMonitor

namespace Pattern

def AsciiSet.named? : String → Option AsciiSet
  | "alnum" => some alnum
  | "alpha" => some alpha
  | "ascii" => some ascii
  | "blank" => some blank
  | "cntrl" => some cntrl
  | "digit" => some digit
  | "graph" => some graph
  | "lower" => some lower
  | "print" => some print
  | "punct" => some punct
  | "space" => some space
  | "upper" => some upper
  | "word" => some word
  | "xdigit" => some xdigit
  | _ => none

/-- The set of a name between `[:` and `:]`, after the bracket.  Without such a name the
bracket opens a set of its own. -/
def readAsciiSet : List Char → Option (WrittenSet × List Char)
  | ':' :: rest =>
      let (negated, rest) :=
        match rest with
        | '^' :: rest => (true, rest)
        | rest => (false, rest)
      let name := rest.takeWhile (· != ':')
      match rest.drop name.length with
      | ':' :: ']' :: rest =>
          (AsciiSet.named? (String.ofList name)).map fun set => (.ascii set negated, rest)
      | _ => none
  | _ => none

/-- What stands around the set that is being read: a bracket, or an operator with the set
on its left. -/
inductive SetFrame where
  /-- The sets read so far around a bracket, last one first. -/
  | bracket (around : List WrittenSet) (negated : Bool)
  | op (operator : SetOperator) (left : WrittenSet)

def readDashes (spaced : Bool) : Nat → List Char → List WrittenSet × List Char
  | fuel + 1, '-' :: rest =>
      let (dashes, rest) := readDashes spaced fuel (settled spaced rest)
      (.char ⟨'-', false⟩ :: dashes, rest)
  | _, cs => ([], cs)

/-- The opening of a bracket: whether it is negated, and the dashes and the closing
bracket that stand for themselves in front. -/
def readSetOpening (spaced : Bool) (cs : List Char) : Bool × List WrittenSet × List Char :=
  let (negated, cs) :=
    match settled spaced cs with
    | '^' :: rest => (true, settled spaced rest)
    | rest => (false, rest)
  let (dashes, rest) := readDashes spaced cs.length cs
  match dashes, rest with
  | [], ']' :: rest => (negated, [.char ⟨']', false⟩], settled spaced rest)
  | dashes, rest => (negated, dashes, rest)

def closeOperator (set : WrittenSet) : List SetFrame → WrittenSet × List SetFrame
  | .op operator left :: frames => (.op operator left set, frames)
  | frames => (set, frames)

def readSetElement (spaced : Bool) : List Char → Option (Escape × List Char)
  | [] => none
  | '\\' :: rest => readEscape spaced rest
  | c :: rest => some (.char ⟨c, false⟩, rest)

/-- An element of a bracket, or two with a dash between them; a dash before a dash or a
closing bracket is no such dash. -/
def readSetRange (spaced : Bool) (cs : List Char) : Option (WrittenSet × List Char) :=
  (readSetElement spaced cs).bind fun (first, rest) =>
    match settled spaced rest with
    | [] => none
    | '-' :: after =>
        if peek spaced after = some ']' || peek spaced after = some '-' then
          first.set?.map fun set => (set, '-' :: after)
        else
          match first, readSetElement spaced (settled spaced after) with
          | .char low, some (.char high, rest) =>
              if low.char ≤ high.char then some (.range low high, rest) else none
          | _, _ => none
    | rest => first.set?.map fun set => (set, rest)

/-- Reads a set up to the closing of its bracket.  `frames` is what stands around,
`sets` what was read of the union at hand, last one first; `fuel` bounds the steps. -/
def readSets (spaced : Bool) :
    Nat → List SetFrame → List WrittenSet → List Char → Option (WrittenSet × Bool × List Char)
  | 0, _, _, _ => none
  | fuel + 1, frames, sets, cs =>
      let operator (operator : SetOperator) (rest : List Char) :
          Option (WrittenSet × Bool × List Char) :=
        let (left, frames) := closeOperator (.ofParts sets.reverse) frames
        readSets spaced fuel (.op operator left :: frames) [] rest
      match settled spaced cs with
      | [] => none
      | '[' :: rest =>
          match readAsciiSet rest with
          | some (set, rest) => readSets spaced fuel frames (set :: sets) rest
          | none =>
              let (negated, first, rest) := readSetOpening spaced rest
              readSets spaced fuel (.bracket sets negated :: frames) first.reverse rest
      | ']' :: rest =>
          match closeOperator (.ofParts sets.reverse) frames with
          | (set, [.bracket _ negated]) => some (set, negated, rest)
          | (set, .bracket around negated :: frames) =>
              readSets spaced fuel frames (.nested set negated :: around) rest
          | _ => none
      | '&' :: '&' :: rest => operator .both rest
      | '-' :: '-' :: rest => operator .without rest
      | '~' :: '~' :: rest => operator .either rest
      | cs =>
          (readSetRange spaced cs).bind fun (set, rest) =>
            readSets spaced fuel frames (set :: sets) rest

def readBracket (spaced : Bool) (cs : List Char) : Option (Written × List Char) :=
  let (negated, first, rest) := readSetOpening spaced cs
  (readSets spaced (cs.length + 1) [.bracket [] negated] first.reverse rest).map
    fun (set, negated, rest) => (.bracket set negated, rest)

end Pattern

end FleetMonitor
