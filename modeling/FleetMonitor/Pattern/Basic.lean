import FleetMonitor.Pattern.Property

/-!
# Patterns

Regular patterns and what they match.  A pattern relates positions of a text:
`reach` takes the positions where a match may start to those where it may end.
A text matches if some match starts and ends anywhere in it.
-/

set_option autoImplicit false

namespace FleetMonitor

inductive WordEdge where
  | start | finish | either | neither
  | startHalf
  | finishHalf
deriving DecidableEq, Repr

inductive Edge where
  | textStart | textEnd
  /-- The start of a line; lines may also end in a carriage return, alone or before
  a line feed. -/
  | lineStart (carriage : Bool)
  | lineEnd (carriage : Bool)
  /-- A place to words, which may be those of ASCII only. -/
  | word (ascii : Bool) (e : WordEdge)
deriving DecidableEq, Repr

inductive Pattern where
  | empty
  | literal (cs : List Char)
  | one (set : Text.CodeSet)
  | edge (e : Edge)
  | repeated (body : Pattern) (least : Nat) (most : Option Nat)
  | group (number : Nat) (body : Pattern)
  | seq (parts : List Pattern)
  | alt (choices : List Pattern)

namespace Pattern

def isWord (ascii : Bool) (c : Char) : Bool :=
  if ascii then c.isAlphanum || c = '_' else wordChars.contains c

def wordAt (ascii : Bool) (text : Array Char) (i : Nat) : Bool :=
  ((text[i]?).map (isWord ascii)).getD false

def wordBefore (ascii : Bool) (text : Array Char) (i : Nat) : Bool :=
  i != 0 && wordAt ascii text (i - 1)

def wordEdgeHolds (ascii : Bool) (text : Array Char) (i : Nat) : WordEdge → Bool
  | .start => !wordBefore ascii text i && wordAt ascii text i
  | .finish => wordBefore ascii text i && !wordAt ascii text i
  | .either => wordBefore ascii text i != wordAt ascii text i
  | .neither => wordBefore ascii text i == wordAt ascii text i
  | .startHalf => !wordBefore ascii text i
  | .finishHalf => !wordAt ascii text i

def edgeHolds (text : Array Char) (i : Nat) : Edge → Bool
  | .textStart => i = 0
  | .textEnd => i = text.size
  | .lineStart carriage =>
      i = 0 || text[i - 1]? == some '\n' ||
        (carriage && text[i - 1]? == some '\r' && text[i]? != some '\n')
  | .lineEnd carriage =>
      i = text.size || (carriage && text[i]? == some '\r') ||
        (text[i]? == some '\n' && !(carriage && i != 0 && text[i - 1]? == some '\r'))
  | .word ascii e => wordEdgeHolds ascii text i e

def literalAt (text : Array Char) : Nat → List Char → Bool
  | _, [] => true
  | i, c :: rest => text[i]? == some c && literalAt text (i + 1) rest

def merge : List Nat → List Nat → List Nat
  | [], others => others
  | positions, [] => positions
  | i :: positions, j :: others =>
      if i < j then i :: merge positions (j :: others)
      else if j < i then j :: merge (i :: positions) others
      else i :: merge positions others

/-- Takes a step a number of times, or until nothing changes. -/
def times (step : List Nat → List Nat) : Nat → List Nat → List Nat
  | 0, positions => positions
  | n + 1, positions =>
      let next := step positions
      if next = positions then positions else times step n next

def without : List Nat → List Nat → List Nat
  | [], _ => []
  | positions, [] => positions
  | i :: positions, j :: others =>
      if i < j then i :: without positions (j :: others)
      else if j < i then without (i :: positions) others
      else without positions others

/-- The positions after one step or more, up to a number of steps.  No step is taken
again from a position that was `left` before: the first time there were more steps to
go. -/
def onwards (step : List Nat → List Nat) : Nat → List Nat → List Nat → List Nat
  | 0, _, _ => []
  | n + 1, left, positions =>
      if positions.isEmpty then []
      else
        let next := step positions
        let left := merge left positions
        merge next (onwards step n left (without next left))

mutual

/-- The positions where a match may end that starts at one of the given ones. -/
def reach (text : Array Char) : Pattern → List Nat → List Nat
  | empty, starts => starts
  | literal cs, starts => (starts.filter (literalAt text · cs)).map (· + cs.length)
  | one set, starts =>
      (starts.filter fun i => ((text[i]?).map set.contains).getD false).map (· + 1)
  | edge e, starts => starts.filter (edgeHolds text · e)
  | repeated body least most, starts =>
      match least, most with
      | least, some most =>
          let needed := times (reach text body) least starts
          merge needed (onwards (reach text body) (most - least) [] needed)
      | 0, none => merge starts (onwards (reach text body) (text.size + 1) [] starts)
      | before + 1, none =>
          onwards (reach text body) (text.size + 1) [] (times (reach text body) before starts)
  | group _ body, starts => reach text body starts
  | seq parts, starts => reachAll text parts starts
  | alt choices, starts => reachAny text choices starts

def reachAll (text : Array Char) : List Pattern → List Nat → List Nat
  | [], starts => starts
  | part :: rest, starts => reachAll text rest (reach text part starts)

def reachAny (text : Array Char) : List Pattern → List Nat → List Nat
  | [], _ => []
  | choice :: rest, starts => merge (reach text choice starts) (reachAny text rest starts)

end

def matchesText (pattern : Pattern) (s : String) : Bool :=
  let text := s.toList.toArray
  !(reach text pattern (List.range (text.size + 1))).isEmpty

end Pattern

end FleetMonitor
