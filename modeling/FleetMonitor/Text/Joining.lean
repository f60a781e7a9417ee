import FleetMonitor.Text.Category
import FleetMonitor.Text.CodeSet

/-!
# Joined letters

Which letters of connected scripts are drawn joined to their neighbours.
-/

set_option autoImplicit false

namespace FleetMonitor.Text

namespace Joining

def both : CodeSet :=
  CodeSet.ofPieces
    ["ciIAEAAAAEDMAGABbIBIORbLABIAAAABbNCBARCEDAIAAAAABbEKCOBDAABCBFcVbGdHEBAAJAAJAADBAbCABEAA",
     "PJEBBFAOfuBAXdKNbHAAccjSbXblfXENDAEACJDfOAAACCABAABAbBBmZbGAApYBABdZCAQLCbBDBLbTAABDABBA",
     "BAABAEAdehYbH"]

def before : CodeSet :=
  CodeSet.ofPieces
    ["ciKDAAAAEDUAbNCTRbLABIAAAABBAAXBbFADEDAIAAAAABAbCAKCOBDAABCBhPAEBAAJAACNAAZKAbACAABBFAdt",
     "sSAAAABCEJACABAJAfOAACCABAABAAWDoIApYAeHAbFAbEBcJCBBBADBEA"]

def after : CodeSet :=
  CodeSet.ofPieces
    ["cluOAblgJAIAvFAbbLA"]

def joinsAfter (c : Char) : Bool :=
  both.contains c || after.contains c

def joinsBefore (c : Char) : Bool :=
  both.contains c || before.contains c

/-- Marks through which letters join, U+1E94B among them. -/
def isTransparent (c : Char) : Bool :=
  match Category.ofChar c with
  | .mn | .me => true
  | _ => c.toNat = 0x1E94B

end Joining

end FleetMonitor.Text
