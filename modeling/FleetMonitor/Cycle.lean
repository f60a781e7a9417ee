import FleetMonitor.Escalation
import FleetMonitor.Evaluation

/-!
# The cycle of a check

Evaluate, record, escalate.  Each step may fail; what came before it stays.
-/

set_option autoImplicit false

namespace FleetMonitor

inductive CycleError where
  | evaluation (cause : EvaluationError)
  | record (cause : StoreError)
  | triggers (cause : StoreError)
deriving DecidableEq, Repr

def CycleError.message : CycleError → String
  | evaluation cause => "failed to evaluate expressions: " ++ cause.message
  | record cause => "failed to persist violation record: " ++ cause.message
  | triggers cause => "failed to run triggers: " ++ cause.message

structure CycleReport where
  failing : Bool
  recorded : Bool
  dispatched : Nat
deriving DecidableEq, Repr, Inhabited

structure Pipeline where
  freshness : Span
  retentionDays : Nat
  dispatcher : Dispatcher
deriving Repr

namespace Pipeline

def recordTable : String := "ts_checks"

/-- How long a record is to live, in seconds: as the cluster says, or the default
if it says nothing or cannot be asked. -/
def retention (pipeline : Pipeline) (check : Check) : Routine Int := do
  let days ←
    match ← .request (.retentionDays check.clusterId recordTable) with
    | .ok (some days) => pure days
    | _ => pure pipeline.retentionDays
  .within (Instant.days? days)

/-- Runs a cycle of a check.  Without expressions nothing is recorded. -/
def cycle (pipeline : Pipeline) (check : Check) :
    Routine (Except CycleError CycleReport) := do
  match ← Evaluation.evaluate pipeline.freshness check with
  | .error e => pure (.error (.evaluation e))
  | .ok (expressions, failing) =>
      if expressions.isEmpty then pure (.ok ⟨failing, false, 0⟩)
      else do
        let seconds ← pipeline.retention check
        let written ← .request (.create check.clusterId check.id failing expressions seconds)
        match ← .within written with
        | .error e => pure (.error (.record e))
        | .ok _ =>
            match ← Escalation.runTriggers pipeline.dispatcher check with
            | .error e => pure (.error (.triggers e))
            | .ok dispatched => pure (.ok ⟨failing, true, dispatched⟩)

end Pipeline

end FleetMonitor
