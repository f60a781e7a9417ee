import FleetMonitor.Check.Expression

/-!
# Verdicts

The verdict of a check from the outcomes of its expressions, folded from left
to right.  The first expression gives the verdict to start with.  An operator
says how the outcomes after it are joined; outcomes before any operator, other
than the first, count for nothing.
-/

set_option autoImplicit false

namespace FleetMonitor

structure Verdict where
  failing : Bool
  operator : Option Junction
deriving DecidableEq, Repr

namespace Verdict

def operator? (e : Expression) : Option Junction :=
  match e.kind with
  | .operator junction => some junction
  | _ => none

def start (e : Expression) : Verdict :=
  ⟨e.result.failing, operator? e⟩

def step (verdict : Verdict) (e : Expression) : Verdict :=
  match operator? e with
  | some junction => { verdict with operator := some junction }
  | none =>
      match verdict.operator with
      | some junction =>
          { verdict with failing := junction.apply verdict.failing e.result.failing }
      | none => verdict

/-- The verdict over all expressions; a check without any does not fail. -/
def reduce : List Expression → Bool
  | [] => false
  | e :: rest => (rest.foldl step (start e)).failing

end Verdict

end FleetMonitor
