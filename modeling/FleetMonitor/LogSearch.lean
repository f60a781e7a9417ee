import FleetMonitor.Text.Blank
import FleetMonitor.Text.Case

/-!
# Searches in logs

A search holds terms between blanks; a line matches if every term occurs in it,
in lower case.
-/

set_option autoImplicit false

namespace FleetMonitor

namespace LogSearch

def occurs (term : List Char) : List Char → Bool
  | [] => term.isEmpty
  | c :: rest => term.isPrefixOf (c :: rest) || occurs term rest

def terms (search : String) : List String :=
  (Text.words search).map Text.lower

/-- Every term of a search occurs in a line.  `fold` brings the line to lower
case; terms are always brought there by the full rules. -/
def holds (fold : String → String) (search line : String) : Bool :=
  (terms search).all fun term => occurs term.toList (fold line).toList

def holdsFully : String → String → Bool :=
  holds Text.lower

def holdsInAscii : String → String → Bool :=
  holds Text.lowerAscii

end LogSearch

end FleetMonitor
