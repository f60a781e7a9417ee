import FleetMonitor.Check.Expression
import FleetMonitor.Instant

/-!
# Cycle records

What one evaluation of a check leaves behind: the verdict, the evaluated
expressions, and the end of the record's life.
-/

set_option autoImplicit false

namespace FleetMonitor

structure CycleRecord where
  clusterId : Int
  checkId : Int
  created : Instant
  failing : Bool
  expressions : List Expression
  expires : Instant
deriving Inhabited

namespace CycleRecord

def belongs (record : CycleRecord) (clusterId checkId : Int) : Bool :=
  record.clusterId == clusterId && record.checkId == checkId

def retained (record : CycleRecord) (now : Instant) : Bool :=
  now < record.expires

/-- The record counts as a violation of its check after a bound. -/
def violatesAfter (record : CycleRecord) (bound now : Instant) : Bool :=
  record.failing && decide (bound < record.created) && record.retained now

/-- Records with the newest first; of one time, the one written first. -/
def newestFirst (records : List CycleRecord) : List CycleRecord :=
  records.mergeSort fun a b => decide (b.created ≤ a.created)

end CycleRecord

end FleetMonitor
