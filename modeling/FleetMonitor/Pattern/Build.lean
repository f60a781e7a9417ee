import FleetMonitor.Pattern.Basic

/-!
# Building patterns

Patterns are put together in a reduced form: neighbouring literals are one, sequences
and choices hold none of their kind, a choice between sets is a set, and what is
common at the front of all choices stands before them.
-/

set_option autoImplicit false

namespace FleetMonitor

namespace Pattern

mutual

def same : Pattern → Pattern → Bool
  | empty, empty => true
  | literal cs, literal ds => cs == ds
  | one s, one t => s == t
  | edge e, edge f => e == f
  | repeated body least most, repeated other least' most' =>
      least == least' && most == most' && same body other
  | group n body, group m other => n == m && same body other
  | seq parts, seq others => sameAll parts others
  | alt choices, alt others => sameAll choices others
  | _, _ => false

def sameAll : List Pattern → List Pattern → Bool
  | [], [] => true
  | p :: ps, q :: qs => same p q && sameAll ps qs
  | _, _ => false

end

def bytesOf (n : Nat) : Nat :=
  if n < 0x80 then 1 else if n < 0x800 then 2 else if n < 0x10000 then 3 else 4

def bytesOfAll (cs : List Char) : Nat :=
  (cs.map fun c => bytesOf c.toNat).foldl (· + ·) 0

mutual

/-- The bytes of the shortest match; none if nothing can match. -/
def least? : Pattern → Option Nat
  | empty => some 0
  | literal cs => some (bytesOfAll cs)
  | one set => set.ranges.head?.map fun range => bytesOf range.low
  | edge _ => some 0
  | repeated body least _ => (least? body).map (· * least)
  | group _ body => least? body
  | seq parts => leastAll? parts
  | alt choices => leastAny? choices

def leastAll? : List Pattern → Option Nat
  | [] => some 0
  | part :: rest =>
      match least? part, leastAll? rest with
      | some n, some m => some (n + m)
      | _, _ => none

def leastAny? : List Pattern → Option Nat
  | [] => none
  | [choice] => least? choice
  | choice :: rest =>
      match least? choice, leastAny? rest with
      | some n, some m => some (min n m)
      | _, _ => none

end

mutual

/-- The bytes of the longest match; none if there is no such number. -/
def most? : Pattern → Option Nat
  | empty => some 0
  | literal cs => some (bytesOfAll cs)
  | one set => set.ranges.getLast?.map fun range => bytesOf range.high
  | edge _ => some 0
  | repeated body _ most => most.bind fun n => (most? body).map (· * n)
  | group _ body => most? body
  | seq parts => mostAll? parts
  | alt choices => mostAny? choices

def mostAll? : List Pattern → Option Nat
  | [] => some 0
  | part :: rest =>
      match most? part, mostAll? rest with
      | some n, some m => some (n + m)
      | _, _ => none

def mostAny? : List Pattern → Option Nat
  | [] => none
  | [choice] => most? choice
  | choice :: rest =>
      match most? choice, mostAny? rest with
      | some n, some m => some (max n m)
      | _, _ => none

end

def ofSet (set : Text.CodeSet) : Pattern :=
  match set.only? with
  | some n => literal [Char.ofNat n]
  | none => one set

/-- A pattern a number of times.  What takes no character need not be repeated. -/
def times? (body : Pattern) (least : Nat) (most : Option Nat) : Pattern :=
  let still := most? body = some 0
  let least := if still then min least 1 else least
  let most := if still then some (min (most.getD 1) 1) else most
  if least = 0 ∧ most = some 0 then empty
  else if least = 1 ∧ most = some 1 then body
  else repeated body least most

def parts : Pattern → List Pattern
  | empty => []
  | seq parts => parts
  | pattern => [pattern]

def joinLiterals : List Pattern → List Pattern
  | [] => []
  | part :: rest =>
      match part, joinLiterals rest with
      | literal cs, literal ds :: more => literal (cs ++ ds) :: more
      | part, more => part :: more

def sequence (patterns : List Pattern) : Pattern :=
  match joinLiterals (patterns.flatMap parts) with
  | [] => empty
  | [pattern] => pattern
  | parts => seq parts

def choices : Pattern → List Pattern
  | alt choices => choices
  | pattern => [pattern]

def onlyChar? : Pattern → Option Char
  | literal [c] => some c
  | _ => none

def onlySet? : Pattern → Option Text.CodeSet
  | one set => some set
  | _ => none

def commonLength : List Pattern → List Pattern → Nat
  | p :: ps, q :: qs => if same p q then commonLength ps qs + 1 else 0
  | _, _ => 0

def commonFront : List Pattern → Nat
  | seq first :: rest =>
      rest.foldl
        (fun n choice =>
          match choice with
          | seq parts => min n (commonLength first parts)
          | _ => 0)
        first.length
  | _ => 0

def partCount (patterns : List Pattern) : Nat :=
  (patterns.map fun pattern => pattern.parts.length).foldl (· + ·) 0

/-- Any of some patterns; `fuel` bounds how often a common front is taken off. -/
def choiceOf : Nat → List Pattern → Pattern
  | 0, patterns => alt patterns
  | fuel + 1, patterns =>
      let all := patterns.flatMap choices
      match all with
      | [] => one Text.CodeSet.empty
      | [pattern] => pattern
      | first :: _ =>
          match all.mapM onlyChar?, all.mapM onlySet? with
          | some cs, _ => ofSet (Text.CodeSet.ofRanges (cs.map fun c => ⟨c.toNat, c.toNat⟩))
          | none, some sets => ofSet (Text.CodeSet.unionAll sets)
          | none, none =>
              let front := commonFront all
              if front = 0 then alt all
              else
                sequence
                  (first.parts.take front ++
                    [choiceOf fuel (all.map fun choice => sequence (choice.parts.drop front))])

def choice (patterns : List Pattern) : Pattern :=
  choiceOf (partCount (patterns.flatMap choices) + 1) patterns

end Pattern

end FleetMonitor
