import FleetMonitor.Text.Packed

/-!
# Tables of replacements

What stands for each character of a range: some characters, which move on with the
place in the range.
-/

set_option autoImplicit false

namespace FleetMonitor.Text

/-- The code points from `first` to `last`, each of which is replaced by the targets,
moved on by its distance from `first`. -/
structure Replacement where
  first : Nat
  last : Nat
  targets : List Nat
deriving Repr

namespace Replacement

/-- Targets from as many signed distances: each from the one before it, the first one
from `base`. -/
def readTargets : Nat → Nat → List Nat → List Nat × List Nat
  | 0, _, numbers => ([], numbers)
  | _, _, [] => ([], [])
  | count + 1, base, distance :: rest =>
      let target := Packed.shifted base distance
      let (targets, rest) := readTargets count target rest
      (target :: targets, rest)

/-- Replacements from numbers: how far a range lies from what came before, how many
code points follow its first one, how many targets follow the first one, and the
targets.  `fuel` bounds their number. -/
def readAll : Nat → Nat → List Nat → List Replacement
  | fuel + 1, next, gap :: more :: extra :: rest =>
      let first := next + gap
      let (targets, rest) := readTargets (extra + 1) first rest
      ⟨first, first + more, targets⟩ :: readAll fuel (first + more + 1) rest
  | _, _, _ => []

def ofPieces (pieces : List String) : List Replacement :=
  let numbers := Packed.numbers (String.join pieces)
  readAll numbers.length 0 numbers

def find? (replacements : List Replacement) (n : Nat) : Option (List Nat) :=
  (replacements.find? fun r => r.first ≤ n && n ≤ r.last).map fun r =>
    r.targets.map (· + (n - r.first))

end Replacement

end FleetMonitor.Text
