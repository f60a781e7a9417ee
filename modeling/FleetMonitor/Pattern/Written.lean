import FleetMonitor.Pattern.Basic

/-!
# Written patterns

Patterns as they are written: what stands in the text, before flags say what it means.
-/

set_option autoImplicit false

namespace FleetMonitor

namespace Pattern

inductive Flag where
  | ignoreCase
  | multiLine
  | dotAll
  /-- A repetition takes few rounds if it may; which texts match does not depend on
  it. -/
  | few
  | wide
  | carriage
  | spaced
deriving DecidableEq, Repr

abbrev FlagChange := List (Flag × Bool)

/-- A character, and whether two hexadecimal digits stand for it. -/
structure Spelled where
  char : Char
  hex : Bool
deriving DecidableEq, Repr

inductive Shorthand where
  | digit | space | word
deriving DecidableEq, Repr

inductive SetName where
  | plain (name : List Char)
  | valued (name value : List Char)
deriving DecidableEq, Repr

inductive AsciiSet where
  | alnum | alpha | ascii | blank | cntrl | digit | graph | lower | print | punct
  | space | upper | word | xdigit
deriving DecidableEq, Repr

inductive SetOperator where
  | both | without | either
deriving DecidableEq, Repr

inductive WrittenSet where
  | empty
  | char (c : Spelled)
  | range (low high : Spelled)
  | ascii (set : AsciiSet) (negated : Bool)
  | named (name : SetName) (negated : Bool)
  | shorthand (set : Shorthand) (negated : Bool)
  | nested (set : WrittenSet) (negated : Bool)
  | union (sets : List WrittenSet)
  | op (operator : SetOperator) (left right : WrittenSet)

/-- Conditions on a position, before flags say which lines and words are meant. -/
inductive Place where
  | lineStart | lineEnd | textStart | textEnd
  | word (e : WordEdge)
deriving DecidableEq, Repr

inductive Written where
  | empty
  | flags (change : FlagChange)
  | char (c : Spelled)
  | dot
  | place (p : Place)
  | named (name : SetName) (negated : Bool)
  | shorthand (set : Shorthand) (negated : Bool)
  | bracket (set : WrittenSet) (negated : Bool)
  | repeated (body : Written) (least : Nat) (most : Option Nat)
  | group (number : Option Nat) (change : FlagChange) (body : Written)
  | seq (parts : List Written)
  | alt (choices : List Written)

mutual

def WrittenSet.depth : WrittenSet → Nat
  | nested set _ => set.depth + 1
  | union sets => WrittenSet.depthAll sets + 1
  | op _ left right => max left.depth right.depth + 1
  | _ => 0

def WrittenSet.depthAll : List WrittenSet → Nat
  | [] => 0
  | set :: rest => max set.depth (WrittenSet.depthAll rest)

end

mutual

def Written.depth : Written → Nat
  | bracket set _ => set.depth + 1
  | repeated body _ _ => body.depth + 1
  | group _ _ body => body.depth + 1
  | seq parts => Written.depthAll parts + 1
  | alt choices => Written.depthAll choices + 1
  | _ => 0

def Written.depthAll : List Written → Nat
  | [] => 0
  | written :: rest => max written.depth (Written.depthAll rest)

end

def depthLimit : Nat := 250

def Written.ofParts : List Written → Written
  | [] => empty
  | [part] => part
  | parts => seq parts

def WrittenSet.ofParts : List WrittenSet → WrittenSet
  | [] => empty
  | [set] => set
  | sets => union sets

end Pattern

end FleetMonitor
