import FleetMonitor.Text.Composition
import FleetMonitor.Text.Direction
import FleetMonitor.Text.Joining
import FleetMonitor.Text.NameMapping
import FleetMonitor.Text.Punycode

/-!
# Names of the internet

A name is a sequence of labels with dots between them.  Names that differ in case or in
the width of letters are the same, and each has a form in ASCII.  A label may not start
with a mark, joiners stand only where they change how letters are drawn, and in names
with letters from right to left each label has one direction.
-/

set_option autoImplicit false

namespace FleetMonitor

namespace DomainName

def labels : List Char → List (List Char)
  | [] => [[]]
  | '.' :: rest => [] :: labels rest
  | c :: rest =>
      match labels rest with
      | [] => [[c]]
      | label :: more => (c :: label) :: more

def isAscii (c : Char) : Bool :=
  c.toNat < 128

def mapped? (cs : List Char) : Option (List Char) :=
  (cs.mapM Text.nameForm?).map fun forms => Text.composed forms.flatten

def isVirama (c : Char) : Bool :=
  Text.Composition.classOf c.toNat = 9

def reaches (p : Char → Bool) (cs : List Char) : Bool :=
  (cs.find? fun c => !Text.Joining.isTransparent c).any p

/-- Joiners stand after viramas; one that parts letters may also stand where they would
join.  `before` is what was read, last character first. -/
def joinersFit : List Char → List Char → Bool
  | _, [] => true
  | before, c :: rest =>
      let afterVirama := before.head?.any isVirama
      (if c.toNat = 0x200D then afterVirama
       else if c.toNat = 0x200C then
         afterVirama ||
           (reaches Text.Joining.joinsAfter before && reaches Text.Joining.joinsBefore rest)
       else true) &&
        joinersFit (c :: before) rest

def isLabel (label : List Char) : Bool :=
  !(label.head?.any fun c => (Text.Category.ofChar c).isMark) && joinersFit [] label

/-- A label in ASCII, and what it stands for. -/
structure Label where
  written : List Char
  letters : List Char
deriving DecidableEq, Repr

def mark : List Char := "xn--".toList

/-- More characters cannot be written in ASCII. -/
def lengthLimit : Nat := 1000

/-- More characters cannot be read from ASCII. -/
def readingLimit : Nat := 2000

def label? (label : List Char) : Option Label :=
  if mark.isPrefixOf label then
    let digits := label.drop mark.length
    if !label.all isAscii || digits.isEmpty || digits.getLast? == some '-' ||
        readingLimit < digits.length then none
    else
      (Text.Punycode.decode digits).bind fun letters =>
        if !letters.all isAscii && mapped? letters == some letters && isLabel letters then
          some ⟨label, letters⟩
        else none
  else if label.all isAscii then some ⟨label, label⟩
  else if isLabel label && label.length ≤ lengthLimit then
    some ⟨mark ++ Text.Punycode.encode label, label⟩
  else none

def isFromRight (c : Char) : Bool :=
  match Text.Direction.ofChar c with
  | .right | .arabic | .arabicNumber => true
  | _ => false

def fitsLeft : Text.Direction → Bool
  | .left | .number | .sign | .separator | .terminator | .neutral | .boundary | .mark => true
  | _ => false

def fitsRight : Text.Direction → Bool
  | .right | .arabic | .arabicNumber | .number | .sign | .separator | .terminator
  | .neutral | .boundary | .mark => true
  | _ => false

/-- A label has one direction: that of its first character, in which its last one,
marks apart, is a letter or a number; of numbers it has one kind. -/
def hasDirection (letters : List Char) : Bool :=
  let directions := letters.map Text.Direction.ofChar
  let last := directions.reverse.find? (· != .mark)
  match directions.head? with
  | none => true
  | some .left => directions.all fitsLeft && (last == some .left || last == some .number)
  | some first =>
      (first == .right || first == .arabic) && directions.all fitsRight &&
        (last == some .right || last == some .arabic || last == some .number ||
          last == some .arabicNumber) &&
        !(directions.contains .number && directions.contains .arabicNumber)

def read? (cs : List Char) : Option (List Label) := do
  let found ← (labels (← mapped? cs)).mapM label?
  let letters := found.map (·.letters)
  if letters.any (·.any isFromRight) && !letters.all hasDirection then none
  else some found

def ascii? (cs : List Char) : Option (List Char) :=
  (read? cs).map fun found => ((found.map (·.written)).intersperse ['.']).flatten

end DomainName

end FleetMonitor
