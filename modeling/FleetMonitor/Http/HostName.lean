import FleetMonitor.DomainName
import FleetMonitor.Text.Hexadecimal
import FleetMonitor.Text.Utf8

/-!
# Hosts of addresses

A host is a name or a number.  Names are written in lower case and in ASCII, numbers
as dotted quads or as groups in brackets.
-/

set_option autoImplicit false

namespace FleetMonitor

namespace Http

def escape (c : Char) : List Char :=
  (Text.utf8 (String.ofList [c])).flatMap fun b =>
    ['%', Text.hexCapital (b / 16), Text.hexCapital (b % 16)]

/-- Writes characters, some of them escaped.  Control characters and those beyond
ASCII always are. -/
def escaped (special : String) (cs : List Char) : List Char :=
  cs.flatMap fun c =>
    if c < ' ' || '~' < c || special.toList.contains c then escape c else [c]

def unescape : List Char → List Nat
  | '%' :: a :: b :: rest =>
      match Text.hexValue? a, Text.hexValue? b with
      | some high, some low => (high * 16 + low) :: unescape rest
      | _, _ => 37 :: unescape (a :: b :: rest)
  | c :: rest => Text.utf8 (String.ofList [c]) ++ unescape rest
  | [] => []

namespace HostName

/-- A part of a numeric host: in base ten, or in base eight after a zero, or in
base sixteen after `0x`. -/
def number? (cs : List Char) : Option Nat :=
  let value (base : Nat) (digits : List Char) : Option Nat :=
    digits.foldlM (fun n c => do
      let d ← Text.hexValue? c
      if d < base then some (n * base + d) else none) 0
  match cs with
  | [] => none
  | '0' :: 'x' :: rest => value 16 rest
  | '0' :: 'X' :: rest => value 16 rest
  | '0' :: rest => if rest.isEmpty then some 0 else value 8 rest
  | _ => value 10 cs

def hostParts (cs : List Char) : List (List Char) :=
  let parts := DomainName.labels cs
  if 1 < parts.length && parts.getLast? == some [] then parts.dropLast else parts

/-- The last part of a host is a number, so that the host has to be one. -/
def endsInNumber (cs : List Char) : Bool :=
  match (hostParts cs).getLast? with
  | none => false
  | some last => (!last.isEmpty && last.all Char.isDigit) || (number? last).isSome

/-- The value of a numeric host: the last part fills the bytes that are left. -/
def quad? (cs : List Char) : Option Nat := do
  let numbers ← (hostParts cs).mapM number?
  let last ← numbers.getLast?
  let front := numbers.dropLast
  if 4 < numbers.length || front.any (255 < ·) then none
  else if Nat.pow 256 (4 - front.length) ≤ last then none
  else
    some ((front.zipIdx.map fun (n, i) => n * Nat.pow 256 (3 - i)).foldl (· + ·) last)

def quadText (n : Nat) : List Char :=
  (".".intercalate ([16777216, 65536, 256, 1].map fun size =>
    toString (n / size % 256))).toList

def isForbidden (c : Char) : Bool :=
  c ≤ ' ' || c == '\x7f' || "#/:<>?@[\\]^|%".toList.contains c

def read? (cs : List Char) : Option (List Char) :=
  (DomainName.ascii? (Text.ofUtf8 (unescape cs)).toList).bind fun name =>
    if name.isEmpty || name.any isForbidden then none
    else if endsInNumber name then (quad? name).map quadText
    else some name

/-- Reads a host of a scheme that says nothing of hosts: any characters but a few,
as they are. -/
def verbatim? (cs : List Char) : Option (List Char) :=
  if cs.any fun c => "\x00\t\n\r #/:<>?@[\\]^|".toList.contains c then none
  else some (escaped "" cs)

def colonPieces : List Char → List (List Char)
  | [] => [[]]
  | ':' :: rest => [] :: colonPieces rest
  | c :: rest =>
      match colonPieces rest with
      | [] => [[c]]
      | piece :: more => (c :: piece) :: more

def group? (cs : List Char) : Option Nat :=
  if cs.isEmpty || 4 < cs.length then none
  else cs.foldlM (fun n c => (Text.hexValue? c).map (n * 16 + ·)) 0

/-- A byte in base ten, without zeros in front. -/
def byte? (cs : List Char) : Option Nat :=
  if cs.isEmpty || !cs.all Char.isDigit || (cs.head? == some '0' && cs != ['0']) then none
  else (number? cs).filter (· < 256)

def quadGroups? (cs : List Char) : Option (List Nat) := do
  match ← (DomainName.labels cs).mapM byte? with
  | [a, b, c, d] => some [256 * a + b, 256 * c + d]
  | _ => none

/-- The groups of one side of a long numeric host; the last group may be written
as a dotted quad. -/
def groups? (quadAllowed : Bool) : List (List Char) → Option (List Nat)
  | [] => some []
  | [last] =>
      if quadAllowed && last.contains '.' then quadGroups? last
      else (group? last).map fun n => [n]
  | first :: rest => do
      let n ← group? first
      let more ← groups? quadAllowed rest
      some (n :: more)

def cutDouble? : List Char → Option (List Char × List Char)
  | ':' :: ':' :: rest => some ([], rest)
  | c :: rest => (cutDouble? rest).map fun (before, after) => (c :: before, after)
  | [] => none

def longGroups? (cs : List Char) : Option (List Nat) :=
  let side (quadAllowed : Bool) (cs : List Char) : Option (List Nat) :=
    if cs.isEmpty then some [] else groups? quadAllowed (colonPieces cs)
  match cutDouble? cs with
  | none => do
      let groups ← side true cs
      if groups.length = 8 then some groups else none
  | some (before, after) => do
      let left ← side false before
      let right ← side true after
      if left.length + right.length < 8 then
        some (left ++ List.replicate (8 - left.length - right.length) 0 ++ right)
      else none

def zerosAhead (groups : List Nat) : Nat :=
  (groups.takeWhile (· == 0)).length

/-- The start and the length of the longest run of zeros; of equal ones the
first. -/
def longestZeros (groups : List Nat) : Nat × Nat :=
  (List.range groups.length).foldl
    (fun best i =>
      let n := zerosAhead (groups.drop i)
      if best.2 < n then (i, n) else best)
    (0, 0)

def longText (groups : List Nat) : List Char :=
  let write (groups : List Nat) : List Char :=
    (":".intercalate (groups.map fun n => String.ofList (Nat.toDigits 16 n))).toList
  let (start, length) := longestZeros groups
  if 2 ≤ length then
    write (groups.take start) ++ "::".toList ++ write (groups.drop (start + length))
  else write groups

end HostName

end Http

end FleetMonitor
