import FleetMonitor.Pattern.Build
import FleetMonitor.Text.ByteRanges
import Std.Data.HashMap

/-!
# The size of machines for patterns

A pattern is run by machines over bytes, one for each direction of the text.  A machine
has states; a state takes 32 bytes and more for the states it leads to.  A pattern with a
machine of more than ten mebibytes is refused, so the sizes are counted exactly: the
states are numbered in the order in which they are made, and parts of sets are shared as
far as a table of bounded size remembers them.
-/

set_option autoImplicit false

namespace FleetMonitor

namespace Pattern

open Text (ByteRange CodeSet)

def sizeLimit : Nat := 10485760

/-- The states made so far, and the bytes that they take beyond their own size. -/
structure Machine where
  states : Nat
  extra : Nat
deriving DecidableEq, Repr

namespace Machine

def size (machine : Machine) : Nat :=
  32 * machine.states + machine.extra

def fitting (machine : Machine) : Option Machine :=
  if machine.size ≤ sizeLimit then some machine else none

def add (machine : Machine) (states extra : Nat) : Machine :=
  ⟨machine.states + states, machine.extra + extra⟩

end Machine

structure Built where
  machine : Machine
  /-- The part ends in a state that leads to several; each further one takes bytes. -/
  forks : Bool

def Built.linked (built : Built) : Machine :=
  if built.forks then built.machine.add 0 4 else built.machine

def Machine.plain (machine : Machine) : Option Built :=
  machine.fitting.map fun machine => ⟨machine, false⟩

def Machine.forking (machine : Machine) : Option Built :=
  machine.fitting.map fun machine => ⟨machine, true⟩

def mixed (hash : UInt64) (value : Nat) : UInt64 :=
  (hash ^^^ value.toUInt64) * 1099511628211

def placeOf (size : Nat) (key : List Nat) : Nat :=
  (key.foldl mixed 14695981039346656037).toNat % size

abbrev Memory := Std.HashMap Nat (List Nat × Nat)

def remembered? (memory : Memory) (place : Nat) (key : List Nat) : Option Nat :=
  memory[place]?.bind fun entry => if entry.1 = key then some entry.2 else none

/-- A node of a tree of byte ranges that is not finished. -/
structure Node where
  moves : List (ByteRange × Nat)
  last : Option ByteRange

namespace Node

def closed (node : Node) (state : Nat) : Node :=
  match node.last with
  | some range => ⟨(range, state) :: node.moves, none⟩
  | none => node

def key (node : Node) : List Nat :=
  node.moves.reverse.flatMap fun (range, state) => [range.low, range.high, state]

end Node

/-- A tree of byte ranges as it grows: the machine, the nodes from the root to the last
leaf, and what is remembered. -/
structure Tree where
  machine : Machine
  nodes : List Node
  memory : Memory

namespace Tree

def finish (tree : Tree) (node : Node) : Tree × Nat :=
  let key := node.key
  let place := placeOf 10000 key
  match remembered? tree.memory place key with
  | some state => (tree, state)
  | none =>
      let state := tree.machine.states
      ({ tree with
          machine := tree.machine.add 1 (8 * node.moves.length)
          memory := tree.memory.insert place (key, state) },
       state)

def finishBelow (tree : Tree) (depth target : Nat) : Tree :=
  let kept := tree.nodes.take (depth + 1)
  let (grown, state) :=
    (tree.nodes.drop (depth + 1)).reverse.foldl
      (fun (tree, state) node => finish tree (node.closed state)) (tree, target)
  { grown with
    nodes := kept.dropLast ++ (kept.getLast?.map (·.closed state)).toList }

def sharedDepth : List ByteRange → List Node → Nat
  | range :: ranges, node :: nodes =>
      if node.last = some range then sharedDepth ranges nodes + 1 else 0
  | _, _ => 0

/-- Adds a sequence that comes after all others. -/
def insert (target : Nat) (tree : Tree) (ranges : List ByteRange) : Tree :=
  let depth := sharedDepth ranges tree.nodes
  let tree := tree.finishBelow depth target
  match ranges.drop depth with
  | [] => tree
  | range :: more =>
      { tree with
        nodes :=
          tree.nodes.dropLast ++
            (tree.nodes.getLast?.map fun node => { node with last := some range }).toList ++
            more.map fun range => ⟨[], some range⟩ }

end Tree

def sequencesOf (set : CodeSet) : List (List ByteRange) :=
  set.ranges.flatMap fun range => ByteRange.sequences range.low range.high

/-- A machine with a set, read forwards: a tree of byte ranges whose equal parts are
shared. -/
def addSetForward (machine : Machine) (set : CodeSet) : Machine :=
  let target := machine.states
  let tree : Tree := ⟨machine.add 1 0, [⟨[], none⟩], ∅⟩
  let tree := ((sequencesOf set).foldl (Tree.insert target) tree).finishBelow 0 target
  match tree.nodes with
  | [] => tree.machine
  | root :: _ => (tree.finish root).1.machine

/-- A chain of states for a sequence of byte ranges, shared with others as far as its
last bytes are theirs.  The result is the first state of the chain. -/
def addChain : List ByteRange → Machine → Memory → Nat → Machine × Memory × Nat
  | [], machine, memory, state => (machine, memory, state)
  | range :: rest, machine, memory, state =>
      let key := [state, range.low, range.high]
      let place := placeOf 1000 key
      match remembered? memory place key with
      | some found => addChain rest machine memory found
      | none =>
          let found := machine.states
          addChain rest (machine.add 1 0) (memory.insert place (key, found)) found

/-- A machine with a set, read backwards: a chain of states for each sequence of byte
ranges. -/
def addSetBackward (machine : Machine) (set : CodeSet) : Machine :=
  let final := machine.states + 1
  let (machine, _) :=
    (sequencesOf set).foldl
      (fun ((machine, memory) : Machine × Memory) ranges =>
        let (machine, memory, _) := addChain ranges machine memory final
        (machine.add 0 4, memory))
      (machine.add 2 0, ∅)
  machine

/-- A machine with a set: of a set in ASCII, one state with a range for each of its
ranges. -/
def addSet (backward : Bool) (machine : Machine) (set : CodeSet) : Machine :=
  if set.isAscii then machine.add 2 (8 * set.ranges.length)
  else if backward then addSetBackward machine set
  else addSetForward machine set

def bytes (cs : List Char) : List Nat :=
  cs.flatMap fun c => ByteRange.encoded c.toNat

def wordsAfter (byte : Nat) (words : List (List Nat)) : List (List Nat) :=
  words.filterMap fun word =>
    match word with
    | first :: rest => if first = byte then some rest else none
    | [] => none

def chunks : List (List Nat) → List (List (List Nat))
  | [] => [[]]
  | [] :: rest => [] :: chunks rest
  | word :: rest =>
      match chunks rest with
      | [] => [[word]]
      | chunk :: more => (word :: chunk) :: more

def treeSize : Nat → List (List Nat) → Machine
  | 0, _ => ⟨0, 0⟩
  | fuel + 1, words =>
      let plain := words.dropWhile (·.isEmpty)
      if plain.isEmpty then ⟨0, 0⟩
      else
        let found :=
          (if plain.length < words.length then [[]] else []) ++ chunks plain
        let filled := found.filter (!·.isEmpty)
        let own : Machine := ⟨1 + filled.length, 4 * (filled.length + (found.length - 1))⟩
        filled.foldl
          (fun machine chunk =>
            let firsts := (chunk.filterMap (·.head?)).eraseDups
            let machine := if firsts.length = 1 then machine else machine.add 0 (8 * firsts.length)
            firsts.foldl
              (fun machine byte =>
                let below := treeSize fuel (wordsAfter byte chunk)
                machine.add below.states below.extra)
              machine)
          own

def addWords (backward : Bool) (machine : Machine) (words : List (List Char)) : Machine :=
  let words := words.map fun word => if backward then (bytes word).reverse else bytes word
  let tree := treeSize ((words.map List.length).foldl max 0 + 1) words
  machine.add (1 + tree.states) tree.extra

def word? : Pattern → Option (List Char)
  | literal cs => some cs
  | _ => none

def further (part : Machine → Option Built) : Nat → Built → Option Built
  | 0, built => some built
  | n + 1, built => (part built.linked).bind (further part n)

def exactly (part : Machine → Option Built) : Nat → Machine → Option Built
  | 0, machine => (machine.add 1 0).plain
  | n + 1, machine => (part machine).bind (further part n)

def optional (part : Machine → Option Built) : Nat → Built → Option Built
  | 0, built => some built
  | n + 1, built => (part (built.linked.add 1 8)).bind (optional part n)

def anyTimes (part : Machine → Option Built) (consumes : Bool) (machine : Machine) :
    Option Built :=
  if consumes then
    (part (machine.add 1 0)).bind fun built => (built.linked.add 0 4).forking
  else (part machine).bind fun built => (built.linked.add 3 16).plain

def atLeast (part : Machine → Option Built) (consumes : Bool) :
    Nat → Machine → Option Built
  | 0, machine => anyTimes part consumes machine
  | n + 1, machine =>
      (exactly part (n + 1) machine).bind fun built => (built.linked.add 1 4).forking

def between (part : Machine → Option Built) (least most : Nat) (machine : Machine) :
    Option Built :=
  if least = 0 ∧ most = 1 then
    (part (machine.add 1 0)).bind fun built => (built.linked.add 1 8).plain
  else
    (exactly part least machine).bind fun built =>
      if most ≤ least then some built
      else
        (optional part (most - least) { built with machine := built.machine.add 1 0 }).bind
          fun built => built.linked.plain

mutual

def build (backward : Bool) : Pattern → Machine → Option Built
  | empty, machine => (machine.add 1 0).plain
  | literal cs, machine => (machine.add (bytesOfAll cs) 0).plain
  | one set, machine => (addSet backward machine set).plain
  | edge _, machine => (machine.add 1 0).plain
  | repeated body least most, machine =>
      match most with
      | none => atLeast (build backward body) ((least? body).any (0 < ·)) least machine
      | some most => between (build backward body) least most machine
  | group _ body, machine =>
      if backward then build backward body machine
      else (build backward body (machine.add 1 0)).bind fun built => (built.linked.add 1 0).plain
  | seq parts, machine => buildAll backward parts machine
  | alt choices, machine =>
      match choices.mapM word? with
      | some words => (addWords backward machine words).plain
      | none => (buildAny backward choices 0 machine).bind Machine.plain

def buildAll (backward : Bool) : List Pattern → Machine → Option Built
  | [], machine => (machine.add 1 0).plain
  | [part], machine => build backward part machine
  | part :: rest, machine =>
      if backward then
        (buildAll backward rest machine).bind fun built =>
          build backward part built.linked
      else
        (build backward part machine).bind fun built =>
          buildAll backward rest built.linked

/-- A machine with any of some patterns; the states where they part and meet are made
after the first two. -/
def buildAny (backward : Bool) : List Pattern → Nat → Machine → Option Machine
  | [], _, machine => some machine
  | choice :: rest, made, machine =>
      (build backward choice machine).bind fun built =>
        let machine := built.linked.add (if made = 1 then 2 else 0) 4
        buildAny backward rest (made + 1) machine

end

mutual

def startsAt (e : Edge) : Pattern → Bool
  | edge f => e == f
  | repeated body least _ => least != 0 && startsAt e body
  | group _ body => startsAt e body
  | seq parts => startsAtAll e parts
  | alt choices => startsAtAny e choices
  | _ => false

def startsAtAll (e : Edge) : List Pattern → Bool
  | [] => false
  | part :: rest => startsAt e part || (most? part == some 0 && startsAtAll e rest)

def startsAtAny (e : Edge) : List Pattern → Bool
  | [] => true
  | choice :: rest => startsAt e choice && startsAtAny e rest

end

mutual

def endsAt (e : Edge) : Pattern → Bool
  | edge f => e == f
  | repeated body least _ => least != 0 && endsAt e body
  | group _ body => endsAt e body
  | seq parts => endsAtAll e parts
  | alt choices => endsAtAny e choices
  | _ => false

def endsAtAll (e : Edge) : List Pattern → Bool
  | [] => false
  | part :: rest => endsAtAll e rest || (mostAll? rest == some 0 && endsAt e part)

def endsAtAny (e : Edge) : List Pattern → Bool
  | [] => true
  | choice :: rest => endsAt e choice && endsAtAny e rest

end

/-- The machine that reads the text in a direction: it skips to the start of a match,
unless every match is at the end it comes from, and the one that reads forwards
remembers where a match starts and ends. -/
def machine? (backward : Bool) (pattern : Pattern) : Option Machine :=
  let bound := if backward then endsAt .textEnd pattern else startsAt .textStart pattern
  let start : Machine := if bound then ⟨1, 0⟩ else ⟨3, 16⟩
  (if backward then build backward pattern start
   else build backward (group 0 pattern) start).bind fun built =>
    (built.linked.add 1 0).fitting

def fits (pattern : Pattern) : Bool :=
  (machine? false pattern).isSome && (machine? true pattern).isSome

end Pattern

end FleetMonitor
