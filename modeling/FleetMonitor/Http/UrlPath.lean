import FleetMonitor.Http.HostName

/-!
# Paths of addresses

A path is walked from its root: a piece that is a dot stays in place, one of two dots
steps back.  A letter with a colon or a bar names a drive, and no step leads back out
of a drive.
-/

set_option autoImplicit false

namespace FleetMonitor

namespace Http

namespace UrlPath

def splitBefore (p : Char → Bool) (cs : List Char) : List Char × List Char :=
  (cs.takeWhile fun c => !p c, cs.dropWhile fun c => !p c)

def isSlash (special : Bool) (c : Char) : Bool :=
  c == '/' || (special && c == '\\')

def pieces (special : Bool) : List Char → List (List Char)
  | [] => [[]]
  | c :: rest =>
      if isSlash special c then [] :: pieces special rest
      else
        match pieces special rest with
        | [] => [[c]]
        | piece :: more => (c :: piece) :: more

def piecesFromRoot (special : Bool) (cs : List Char) : List (List Char) :=
  pieces special (if cs.head?.any (isSlash special) then cs.drop 1 else cs)

/-- The number of dots, escaped or not, if there is nothing else. -/
def dots? : List Char → Option Nat
  | [] => some 0
  | '.' :: rest => (dots? rest).map (· + 1)
  | '%' :: '2' :: 'e' :: rest => (dots? rest).map (· + 1)
  | '%' :: '2' :: 'E' :: rest => (dots? rest).map (· + 1)
  | _ => none

def isDrive : List Char → Bool
  | [letter, mark] => letter.isAlpha && (mark == ':' || mark == '|')
  | _ => false

def driveText (piece : List Char) : List Char :=
  piece.take 1 ++ [':']

/-- One step back; `gone` holds the pieces that were gone through, innermost first. -/
def stepBack (gone : List (List Char)) : List (List Char) :=
  match gone with
  | [] => []
  | piece :: rest => if isDrive piece then gone else rest

/-- Walks through pieces, of a file system or not.  The result is what was gone
through, innermost first; a step at the end leaves an empty piece. -/
def walk (file : Bool) (gone : List (List Char)) : List (List Char) → List (List Char)
  | [] => gone
  | piece :: rest =>
      match dots? piece with
      | some 1 => if rest.isEmpty then [] :: gone else walk file gone rest
      | some 2 => if rest.isEmpty then [] :: stepBack gone else walk file (stepBack gone) rest
      | _ =>
          let piece := if file && gone.isEmpty && isDrive piece then driveText piece else piece
          walk file (piece :: gone) rest

def text (gone : List (List Char)) : String :=
  String.ofList (gone.reverse.flatMap fun piece =>
    '/' :: escaped " \"#<>?\x60\x7b\x7d" piece)

def fileText (gone : List (List Char)) : String :=
  let named := gone.reverse.dropWhile (·.isEmpty)
  if named.isEmpty then "/" else text named.reverse

def normal (special : Bool) (cs : List Char) : String :=
  if cs.isEmpty && !special then "" else text (walk false [] (piecesFromRoot special cs))

end UrlPath

end Http

end FleetMonitor
