import FleetMonitor.Pattern.Written
import FleetMonitor.Text.Blank
import FleetMonitor.Text.Hexadecimal

/-!
# Escapes in patterns

What a backslash may introduce.  Where blanks count for nothing they may stand between
all signs, also inside escapes.
-/

set_option autoImplicit false

namespace FleetMonitor

namespace Pattern

mutual

def dropBlanks : List Char → List Char
  | [] => []
  | c :: rest =>
      if Text.isBlank c then dropBlanks rest
      else if c = '#' then dropComment rest
      else c :: rest

def dropComment : List Char → List Char
  | [] => []
  | c :: rest => if c = '\n' then dropBlanks rest else dropComment rest

end

def settled (spaced : Bool) (cs : List Char) : List Char :=
  if spaced then dropBlanks cs else cs

def peekBlanks (inComment : Bool) : List Char → Option Char
  | [] => none
  | c :: rest =>
      if Text.isBlank c then peekBlanks inComment rest
      else if !inComment && c = '#' then peekBlanks true rest
      else some c

/-- The character after the one at hand; blanks are passed over unless only they
follow. -/
def peek (spaced : Bool) (rest : List Char) : Option Char :=
  (if spaced then peekBlanks false rest else none).or rest.head?

def char? (n : Nat) : Option Char :=
  if n < 0xD800 ∨ (0xE000 ≤ n ∧ n < 0x110000) then some (Char.ofNat n) else none

def readHexDigits (spaced : Bool) : Nat → Nat → List Char → Option (Nat × List Char)
  | 0, value, cs => some (value, cs)
  | n + 1, value, c :: rest =>
      (Text.hexValue? c).bind fun d =>
        readHexDigits spaced n (16 * value + d) (settled spaced rest)
  | _ + 1, _, [] => none

def readHexBraced (spaced : Bool) : Nat → Option Nat → List Char → Option (Nat × List Char)
  | fuel + 1, value, c :: rest =>
      if c = '\x7d' then value.map fun value => (value, settled spaced rest)
      else
        (Text.hexValue? c).bind fun d =>
          readHexBraced spaced fuel (some (16 * value.getD 0 + d)) (settled spaced rest)
  | _, _, _ => none

/-- A code point in hexadecimal: a fixed number of digits, or any in braces. -/
def readHex (spaced : Bool) (width : Nat) (cs : List Char) : Option (Spelled × List Char) :=
  match settled spaced cs with
  | [] => none
  | '\x7b' :: rest =>
      (readHexBraced spaced cs.length none (settled spaced rest)).bind fun (n, rest) =>
        (char? n).map fun c => (⟨c, false⟩, rest)
  | rest =>
      (readHexDigits spaced width 0 rest).bind fun (n, rest) =>
        (char? n).map fun c => (⟨c, width = 2⟩, rest)

def readBraced (spaced : Bool) : Nat → List Char → Option (List Char × List Char)
  | fuel + 1, c :: rest =>
      if c = '\x7d' then some ([], rest)
      else
        (readBraced spaced fuel (settled spaced rest)).map fun (name, rest) => (c :: name, rest)
  | _, _ => none

def cutAt? (sign : List Char) : List Char → Option (List Char × List Char)
  | [] => none
  | c :: rest =>
      if sign.isPrefixOf (c :: rest) then some ([], (c :: rest).drop sign.length)
      else (cutAt? sign rest).map fun (before, after) => (c :: before, after)

def setName (inside : List Char) : SetName :=
  let cut :=
    (cutAt? ['!', '='] inside).or ((cutAt? [':'] inside).or (cutAt? ['='] inside))
  match cut with
  | some (name, value) => .valued name value
  | none => .plain inside

/-- The name of a set after `\p`: one character, or some in braces. -/
def readSetName (spaced : Bool) (cs : List Char) : Option (SetName × List Char) :=
  match settled spaced cs with
  | [] => none
  | '\x7b' :: rest =>
      (readBraced spaced cs.length (settled spaced rest)).map fun (inside, rest) =>
        (setName inside, rest)
  | c :: rest => if c = '\\' then none else some (.plain [c], rest)

def isPlaceChar (c : Char) : Bool :=
  c.isAlpha || c = '-'

def readPlaceName (spaced : Bool) : Nat → List Char → List Char × List Char
  | fuel + 1, c :: rest =>
      if isPlaceChar c then
        let (name, rest) := readPlaceName spaced fuel (settled spaced rest)
        (c :: name, rest)
      else ([], c :: rest)
  | _, cs => ([], cs)

/-- The place to words that a name in braces may say after `\b`; what starts like no name
is a count. -/
def readWordEdge (spaced : Bool) (cs : List Char) : Option (WordEdge × List Char) :=
  match cs with
  | '\x7b' :: rest =>
      match settled spaced rest with
      | [] => none
      | c :: inside =>
          if !isPlaceChar c then some (.either, cs)
          else
            match readPlaceName spaced cs.length (c :: inside) with
            | (name, '\x7d' :: rest) =>
                match String.ofList name with
                | "start" => some (.start, rest)
                | "end" => some (.finish, rest)
                | "start-half" => some (.startHalf, rest)
                | "end-half" => some (.finishHalf, rest)
                | _ => none
            | _ => none
  | _ => some (.either, cs)

inductive Escape where
  | char (c : Spelled)
  | named (name : SetName) (negated : Bool)
  | shorthand (set : Shorthand) (negated : Bool)
  | place (p : Place)

/-- Reads an escape after its backslash.  Signs stand for themselves; letters and digits
have a meaning or none. -/
def readEscape (spaced : Bool) : List Char → Option (Escape × List Char)
  | [] => none
  | c :: rest =>
      let special (n : Nat) : Option (Escape × List Char) :=
        some (.char ⟨Char.ofNat n, false⟩, rest)
      let hex (width : Nat) : Option (Escape × List Char) :=
        (readHex spaced width rest).map fun (c, rest) => (.char c, rest)
      let named (negated : Bool) : Option (Escape × List Char) :=
        (readSetName spaced rest).map fun (name, rest) => (.named name negated, rest)
      match c with
      | 'x' => hex 2
      | 'u' => hex 4
      | 'U' => hex 8
      | 'p' => named false
      | 'P' => named true
      | 'd' => some (.shorthand .digit false, rest)
      | 'D' => some (.shorthand .digit true, rest)
      | 's' => some (.shorthand .space false, rest)
      | 'S' => some (.shorthand .space true, rest)
      | 'w' => some (.shorthand .word false, rest)
      | 'W' => some (.shorthand .word true, rest)
      | 'a' => special 7
      | 'f' => special 12
      | 't' => special 9
      | 'n' => special 10
      | 'r' => special 13
      | 'v' => special 11
      | 'A' => some (.place .textStart, rest)
      | 'z' => some (.place .textEnd, rest)
      | 'b' => (readWordEdge spaced rest).map fun (e, rest) => (.place (.word e), rest)
      | 'B' => some (.place (.word .neither), rest)
      | '<' => some (.place (.word .start), rest)
      | '>' => some (.place (.word .finish), rest)
      | c => if c.isAlphanum || 128 ≤ c.toNat then none else some (.char ⟨c, false⟩, rest)

def Escape.set? : Escape → Option WrittenSet
  | char c => some (.char c)
  | named name negated => some (.named name negated)
  | shorthand set negated => some (.shorthand set negated)
  | place _ => none

def Escape.written : Escape → Written
  | char c => .char c
  | named name negated => .named name negated
  | shorthand set negated => .shorthand set negated
  | place p => .place p

end Pattern

end FleetMonitor
