import FleetMonitor.Check.Definition

/-!
# Dealing checks to daemons

The checks are put in descending order of their ids and dealt to the daemons in
turn, like cards.  Every daemon computes the whole deal by itself and keeps its
own hand, so the deal depends on nothing but the checks and the daemons.
-/

set_option autoImplicit false

namespace FleetMonitor

namespace Dealing

/-- The checks in descending order of their ids; equal ids keep their order. -/
def order (checks : List Check) : List Check :=
  checks.mergeSort fun a b => decide (b.id ≤ a.id)

/-- The checks of one daemon: those of each seat that has its name, in the order
in which they are dealt. -/
def hand (checks : List Check) (daemons : List String) (daemon : String) : List Check :=
  ((order checks).zipIdx.filter fun (_, turn) =>
    daemons[turn % daemons.length]? == some daemon).map (·.1)

def deal (checks : List Check) (daemons : List String) : List (String × List Check) :=
  daemons.eraseDups.map fun daemon => (daemon, hand checks daemons daemon)

def readable (rows : List StoredCheck) : List Check :=
  rows.filterMap fun row => row.definition?.toOption

end Dealing

end FleetMonitor
