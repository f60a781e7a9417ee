import FleetMonitor.Text.Category
import FleetMonitor.Text.Property

/-!
# Letters and numbers

The characters of any script that names are made of.
-/

set_option autoImplicit false

namespace FleetMonitor.Text

/-- A letter, or a character that is used like one. -/
def isAlphabetic (c : Char) : Bool := alphabetic.contains c

def isNumeric (c : Char) : Bool := (Category.ofChar c).isNumber

def isAlphanumeric (c : Char) : Bool := isAlphabetic c || isNumeric c

end FleetMonitor.Text
