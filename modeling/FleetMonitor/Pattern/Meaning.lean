import FleetMonitor.Pattern.Build
import FleetMonitor.Pattern.Written
import FleetMonitor.Text.CaseFold

/-!
# What written patterns mean

Flags say what the signs of a pattern mean.  They hold from where they are set to the
end of the group around, also in the alternatives that follow.  Without the flag `wide`
sets hold characters of ASCII only, and what could match a part of a character has no
meaning.
-/

set_option autoImplicit false

namespace FleetMonitor

namespace Pattern

open Text (CodeSet CodeRange)

structure Flags where
  ignoreCase : Bool
  multiLine : Bool
  dotAll : Bool
  wide : Bool
  carriage : Bool
deriving DecidableEq, Repr

namespace Flags

def initial (ignoreCase : Bool) : Flags :=
  ⟨ignoreCase, false, false, true, false⟩

def put (flags : Flags) (flag : Flag) (value : Bool) : Flags :=
  match flag with
  | .ignoreCase => { flags with ignoreCase := value }
  | .multiLine => { flags with multiLine := value }
  | .dotAll => { flags with dotAll := value }
  | .wide => { flags with wide := value }
  | .carriage => { flags with carriage := value }
  | .few | .spaced => flags

def changed (flags : Flags) (change : FlagChange) : Flags :=
  change.foldl (fun flags (flag, value) => flags.put flag value) flags

end Flags

/-- The members of a set of ASCII and, for its letters, those of the other case. -/
def widenedAscii (set : CodeSet) : CodeSet :=
  let upper := set.inter (CodeSet.range 0x41 0x5A)
  let lower := set.inter (CodeSet.range 0x61 0x7A)
  CodeSet.ofRanges
    (set.ranges ++ upper.ranges.map (fun range => ⟨range.low + 32, range.high + 32⟩) ++
      lower.ranges.map fun range => ⟨range.low - 32, range.high - 32⟩)

namespace Flags

def folded (flags : Flags) (set : CodeSet) : CodeSet :=
  if !flags.ignoreCase then set
  else if flags.wide then set.widened
  else widenedAscii set

/-- A set as it is written, or what it leaves out.  Only wide sets can be negated. -/
def negated? (flags : Flags) (negated : Bool) (set : CodeSet) : Option CodeSet :=
  if !negated then some set
  else if flags.wide then some set.complement
  else none

/-- The character that is meant.  Two hexadecimal digits stand for a byte if the flag
`wide` is not set. -/
def char? (flags : Flags) (c : Spelled) : Option Char :=
  if !flags.wide && c.hex && 0x7F < c.char.toNat then none else some c.char

def member? (flags : Flags) (c : Spelled) : Option Nat :=
  if !flags.wide && 0x7F < c.char.toNat then none else some c.char.toNat

def literal? (flags : Flags) (c : Spelled) : Option Pattern :=
  (flags.char? c).map fun c =>
    if !flags.wide && 0x7F < c.toNat then .literal [c]
    else ofSet (flags.folded (CodeSet.single c))

def dot? (flags : Flags) : Option Pattern :=
  if !flags.wide then none
  else if flags.dotAll then some (.one CodeSet.all)
  else if flags.carriage then
    some (.one (CodeSet.ofRanges [⟨10, 10⟩, ⟨13, 13⟩]).complement)
  else some (.one (CodeSet.single '\n').complement)

def edge (flags : Flags) : Place → Edge
  | .lineStart => if flags.multiLine then .lineStart flags.carriage else .textStart
  | .lineEnd => if flags.multiLine then .lineEnd flags.carriage else .textEnd
  | .textStart => .textStart
  | .textEnd => .textEnd
  | .word e => .word (!flags.wide) e

def named? (flags : Flags) (name : SetName) (negated : Bool) : Option CodeSet :=
  if !flags.wide then none
  else
    (match name with
     | .plain name => Pattern.named? name
     | .valued name value => Pattern.valued? name value).bind fun set =>
      flags.negated? negated (flags.folded set)

end Flags

def AsciiSet.ranges : AsciiSet → List CodeRange
  | alnum => [⟨0x30, 0x39⟩, ⟨0x41, 0x5A⟩, ⟨0x61, 0x7A⟩]
  | alpha => [⟨0x41, 0x5A⟩, ⟨0x61, 0x7A⟩]
  | ascii => [⟨0, 0x7F⟩]
  | blank => [⟨9, 9⟩, ⟨0x20, 0x20⟩]
  | cntrl => [⟨0, 0x1F⟩, ⟨0x7F, 0x7F⟩]
  | digit => [⟨0x30, 0x39⟩]
  | graph => [⟨0x21, 0x7E⟩]
  | lower => [⟨0x61, 0x7A⟩]
  | print => [⟨0x20, 0x7E⟩]
  | punct => [⟨0x21, 0x2F⟩, ⟨0x3A, 0x40⟩, ⟨0x5B, 0x60⟩, ⟨0x7B, 0x7E⟩]
  | space => [⟨9, 13⟩, ⟨0x20, 0x20⟩]
  | upper => [⟨0x41, 0x5A⟩]
  | word => [⟨0x30, 0x39⟩, ⟨0x41, 0x5A⟩, ⟨0x5F, 0x5F⟩, ⟨0x61, 0x7A⟩]
  | xdigit => [⟨0x30, 0x39⟩, ⟨0x41, 0x46⟩, ⟨0x61, 0x66⟩]

def AsciiSet.members (set : AsciiSet) : CodeSet :=
  ⟨set.ranges⟩

def Shorthand.members (wide : Bool) : Shorthand → CodeSet
  | digit => if wide then digits else AsciiSet.digit.members
  | space => if wide then blanks else AsciiSet.space.members
  | word => if wide then wordChars else AsciiSet.word.members

def SetOperator.apply : SetOperator → CodeSet → CodeSet → CodeSet
  | both, left, right => left.inter right
  | without, left, right => left.diff right
  | either, left, right => left.symmDiff right

mutual

def WrittenSet.members? (flags : Flags) : WrittenSet → Option CodeSet
  | empty => some CodeSet.empty
  | char c => (flags.member? c).map fun n => CodeSet.range n n
  | range low high =>
      (flags.member? low).bind fun low => (flags.member? high).map (CodeSet.range low)
  | ascii set negated => flags.negated? negated (flags.folded set.members)
  | named name negated => flags.named? name negated
  | shorthand set negated => flags.negated? negated (set.members flags.wide)
  | nested set negated =>
      (WrittenSet.members? flags set).bind fun members =>
        flags.negated? negated (flags.folded members)
  | union sets => (WrittenSet.membersAll? flags sets).map CodeSet.unionAll
  | op operator left right =>
      (WrittenSet.members? flags left).bind fun left =>
        (WrittenSet.members? flags right).map fun right =>
          operator.apply (flags.folded left) (flags.folded right)

def WrittenSet.membersAll? (flags : Flags) : List WrittenSet → Option (List CodeSet)
  | [] => some []
  | set :: rest =>
      (WrittenSet.members? flags set).bind fun members =>
        (WrittenSet.membersAll? flags rest).map (members :: ·)

end

mutual

/-- What a pattern means, and the flags that hold after it. -/
def Written.meaning? (flags : Flags) : Written → Option (Pattern × Flags)
  | empty => some (.empty, flags)
  | .flags change => some (.empty, flags.changed change)
  | char c => (flags.literal? c).map (·, flags)
  | dot => flags.dot?.map (·, flags)
  | place p => some (.edge (flags.edge p), flags)
  | named name negated => (flags.named? name negated).map fun set => (ofSet set, flags)
  | shorthand set negated =>
      (flags.negated? negated (set.members flags.wide)).map fun set => (ofSet set, flags)
  | bracket set negated =>
      ((WrittenSet.members? flags set).bind fun members =>
        flags.negated? negated (flags.folded members)).map fun set => (ofSet set, flags)
  | repeated body least most =>
      (Written.meaning? flags body).map fun (body, flags) => (times? body least most, flags)
  | group number change body =>
      (Written.meaning? (flags.changed change) body).map fun (body, _) =>
        (match number with
         | some n => .group n body
         | none => body, flags)
  | seq parts =>
      (Written.meaningAll? flags parts).map fun (parts, flags) => (sequence parts, flags)
  | alt choices =>
      (Written.meaningAll? flags choices).map fun (choices, flags) => (choice choices, flags)

/-- What patterns in a row mean; each sets flags for those after it. -/
def Written.meaningAll? (flags : Flags) : List Written → Option (List Pattern × Flags)
  | [] => some ([], flags)
  | written :: rest =>
      (Written.meaning? flags written).bind fun (pattern, flags) =>
        (Written.meaningAll? flags rest).map fun (patterns, flags) =>
          (pattern :: patterns, flags)

end

end Pattern

end FleetMonitor
