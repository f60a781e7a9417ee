import FleetMonitor.Span

/-!
# Peers

The daemons that were heard of, each with the end of its presence.  A peer is
present while the end lies in the future; entries that ended stay until they
are purged.  Times are lengths of time since the start of the clock.
-/

set_option autoImplicit false

namespace FleetMonitor

/-- The known daemons and the ends of their presence, one entry per address. -/
structure Peers where
  ends : List (String × Span)
deriving Repr, Inhabited

namespace Peers

def empty : Peers :=
  ⟨[]⟩

def present (peers : Peers) (now : Span) (address : String) : Bool :=
  match peers.ends.lookup address with
  | some finish => now.nanos < finish.nanos
  | none => false

/-- Notes that a peer was heard of and counts as present for a length of time.
The answer says whether it was absent before. -/
def hear (peers : Peers) (now : Span) (address : String) (lifetime : Span) : Bool × Peers :=
  (!peers.present now address,
    ⟨(address, ⟨now.nanos + lifetime.nanos⟩) ::
      peers.ends.filter fun entry => entry.1 != address⟩)

def all (peers : Peers) (now : Span) : List String :=
  ((peers.ends.filter fun entry => now.nanos < entry.2.nanos).map (·.1)).mergeSort
    fun a b => decide (a ≤ b)

def purge (peers : Peers) (now : Span) : Nat × Peers :=
  let kept := peers.ends.filter fun entry => now.nanos < entry.2.nanos
  (peers.ends.length - kept.length, ⟨kept⟩)

/-- The daemons that share the checks: the present peers and the daemon itself,
each once, in ascending order. -/
def daemons (peers : Peers) (now : Span) (self : String) : List String :=
  ((self :: peers.all now).mergeSort fun a b => decide (a ≤ b)).eraseDups

end Peers

end FleetMonitor
