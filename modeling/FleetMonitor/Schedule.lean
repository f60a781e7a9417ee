import FleetMonitor.IncidentKeys
import FleetMonitor.Worker

/-!
# Schedules

The workers of a daemon, one per check.  A new list of checks is brought in line
with them: workers of checks that are gone are dropped with whatever they are at,
unchanged checks keep their workers, changed ones are told, new ones start.
-/

set_option autoImplicit false

namespace FleetMonitor

/-- A worker and the definition that it was last given. -/
structure Scheduled where
  definition : Check
  worker : Worker

structure ScheduleReport where
  started : List Int
  updated : List Int
  stopped : List Int
  rejected : List Int
deriving DecidableEq, Repr, Inhabited

structure Schedule where
  workers : List (Int × Scheduled)

/-- A schedule that is being brought in line, with the keys of open incidents. -/
structure Reconciliation where
  schedule : Schedule
  keys : IncidentKeys
  report : ScheduleReport
  /-- An interval could not be read to its end: what was done stays, and nothing
  more is done. -/
  broken : Bool

namespace Schedule

def empty : Schedule :=
  ⟨[]⟩

def find? (schedule : Schedule) (id : Int) : Option Scheduled :=
  schedule.workers.lookup id

def running (schedule : Schedule) : List Int :=
  (schedule.workers.map (·.1)).mergeSort fun a b => decide (a ≤ b)

def drop (schedule : Schedule) (id : Int) : Schedule :=
  ⟨schedule.workers.filter fun entry => entry.1 != id⟩

def replace (schedule : Schedule) (id : Int) (scheduled : Scheduled) : Schedule :=
  ⟨schedule.workers.map fun entry => if entry.1 == id then (id, scheduled) else entry⟩

def start (schedule : Schedule) (check : Check) (period now : Span) : Schedule :=
  ⟨(schedule.drop check.id).workers ++ [(check.id, ⟨check, .start check period now⟩)]⟩

end Schedule

namespace Reconciliation

def stop (r : Reconciliation) (id : Int) : Reconciliation :=
  if (r.schedule.find? id).isSome then
    { r with
      schedule := r.schedule.drop id
      report := { r.report with stopped := r.report.stopped ++ [id] } }
  else r

def forget (r : Reconciliation) (id : Int) : Reconciliation :=
  { r.stop id with keys := r.keys.forgetCheck id }

def reject (r : Reconciliation) (id : Int) : Reconciliation :=
  let r := r.forget id
  { r with report := { r.report with rejected := r.report.rejected ++ [id] } }

def start (r : Reconciliation) (check : Check) (period now : Span) : Reconciliation :=
  { r with
    schedule := r.schedule.start check period now
    report := { r.report with started := r.report.started ++ [check.id] } }

def forgetRemoved (r : Reconciliation) (check : Check) : Reconciliation :=
  { r with keys := r.keys.forgetRemoved check }

/-- Tells the worker of a check of its new definition.  If the worker does not
listen any more, another one starts. -/
def tell (r : Reconciliation) (check : Check) (period now : Span) : Reconciliation :=
  match (r.schedule.find? check.id).bind fun scheduled => scheduled.worker.tell? (.update check) with
  | some worker =>
      { r with
        schedule := r.schedule.replace check.id ⟨check, worker⟩
        report := { r.report with updated := r.report.updated ++ [check.id] } }
  | none => r.start check period now

/-- The worker of a check is to be told of a new definition and has no room for it. -/
def blocks (r : Reconciliation) (check : Check) : Bool :=
  (r.schedule.find? check.id).any fun scheduled =>
    scheduled.worker.showing != .stopped && scheduled.definition != check &&
      scheduled.worker.isFull

def place (now : Span) (r : Reconciliation) (check : Check) (period : Span) : Reconciliation :=
  match r.schedule.find? check.id with
  | none => r.start check period now
  | some scheduled =>
      if scheduled.worker.showing = .stopped then r.start check period now
      else if scheduled.definition == check then r
      else (r.forgetRemoved check).tell check period now

def assign (now : Span) (r : Reconciliation) (check : Check) : Reconciliation :=
  if r.broken then r
  else
    match check.period? with
    | none => { r with broken := true }
    | some (.error _) => r.reject check.id
    | some (.ok period) => r.place now check period

def report? (r : Reconciliation) : Option ScheduleReport :=
  if r.broken then none else some r.report

end Reconciliation

namespace Schedule

def retire (schedule : Schedule) (keys : IncidentKeys) (checks : List Check) :
    Reconciliation :=
  let gone := (schedule.workers.map (·.1)).filter fun id =>
    !checks.any fun check => check.id == id
  gone.foldl Reconciliation.forget ⟨schedule, keys, ⟨[], [], [], []⟩, false⟩

def apply (schedule : Schedule) (keys : IncidentKeys) (now : Span) (checks : List Check) :
    Reconciliation :=
  checks.foldl (Reconciliation.assign now) (schedule.retire keys checks)

end Schedule

end FleetMonitor
