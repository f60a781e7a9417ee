import FleetMonitor.Check.Definition

/-!
# Incident keys

The keys of the incidents that the pager service holds open, by check and
trigger.
-/

set_option autoImplicit false

namespace FleetMonitor

structure IncidentKeys where
  entries : List ((Int × Int) × String)
deriving DecidableEq, Repr, Inhabited

namespace IncidentKeys

def empty : IncidentKeys :=
  ⟨[]⟩

def get? (keys : IncidentKeys) (checkId triggerId : Int) : Option String :=
  keys.entries.lookup (checkId, triggerId)

def drop (keys : IncidentKeys) (checkId triggerId : Int) : IncidentKeys :=
  ⟨keys.entries.filter fun entry => entry.1 != (checkId, triggerId)⟩

def hold (keys : IncidentKeys) (checkId triggerId : Int) (key : String) : IncidentKeys :=
  ⟨((checkId, triggerId), key) :: (keys.drop checkId triggerId).entries⟩

def forgetCheck (keys : IncidentKeys) (checkId : Int) : IncidentKeys :=
  ⟨keys.entries.filter fun entry => entry.1.1 != checkId⟩

/-- Drops the keys of the triggers that a check no longer has. -/
def forgetRemoved (keys : IncidentKeys) (check : Check) : IncidentKeys :=
  ⟨keys.entries.filter fun entry =>
    entry.1.1 != check.id || check.triggers.any fun trigger => trigger.id == entry.1.2⟩

end IncidentKeys

end FleetMonitor
