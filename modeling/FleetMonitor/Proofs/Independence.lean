import FleetMonitor.Proofs.Aftermath
import FleetMonitor.Proofs.Holding
import FleetMonitor.Proofs.Recurrence

/-!
# Cycles of different checks

All checks share one store, one list of records and one table of keys.  What a cycle asks is
answered from the part that concerns its own check, and what it writes is seen by no other
check; so two cycles at one time may change places.
-/

set_option autoImplicit false

namespace FleetMonitor

open Routine Surroundings

/-! ## The part of a check -/

theorem filter_own {α : Type} (records : List α) (own p : α → Bool)
    (within : ∀ record, p record = true → own record = true) :
    (records.filter own).filter p = records.filter p := by
  rw [List.filter_filter]
  apply List.filter_congr
  intro record _
  cases holds : p record with
  | false => simp
  | true => simp [within record holds]

namespace Store

variable (store : Store) (id clusterId : Int) (now : Instant)

def only (id : Int) : Store → Store
  | memory store =>
      memory { store with records := store.records.filter fun record => record.checkId == id }
  | file store =>
      file { store with records := store.records.filter fun record => record.checkId == id }

@[simp] theorem only_queryHosts (query : String) (freshness : Span) :
    (store.only id).queryHosts now clusterId query freshness =
      store.queryHosts now clusterId query freshness := by
  cases store <;> rfl

@[simp] theorem only_hostsByNames (names : List String) :
    (store.only id).hostsByNames clusterId names = store.hostsByNames clusterId names := by
  cases store <;> rfl

@[simp] theorem only_metricId (key : String) :
    (store.only id).metricId? clusterId key = store.metricId? clusterId key := by
  cases store <;> rfl

@[simp] theorem only_aggregate (metricId : Int) (hostname : String) (minutes : Int) :
    (store.only id).aggregate now clusterId metricId hostname minutes =
      store.aggregate now clusterId metricId hostname minutes := by
  cases store <;> rfl

@[simp] theorem only_countMatching (hostname search : String) (since : Instant) :
    (store.only id).countMatching clusterId hostname search since =
      store.countMatching clusterId hostname search since := by
  cases store <;> rfl

@[simp] theorem only_retentionDays (table : String) :
    (store.only id).retentionDays clusterId table = store.retentionDays clusterId table := by
  cases store <;> rfl

end Store

namespace IncidentKeys

def only (keys : IncidentKeys) (id : Int) : IncidentKeys :=
  ⟨keys.entries.filter fun entry => entry.1.1 == id⟩

end IncidentKeys

namespace Surroundings

/-- The pager service answers a call whenever it is made. -/
def Steady (s : Surroundings) : Prop :=
  ∀ n m page, s.pageReply n page = s.pageReply m page

theorem answer_pageReply (request : Request) (s : Surroundings) :
    (answer request s).2.pageReply = s.pageReply := by
  cases request with
  | create clusterId checkId failing expressions seconds =>
      simp only [answer, create]
      split <;> rfl
  | mail mail =>
      simp only [answer, takeMail]
      split <;> rfl
  | _ => rfl

theorem Steady.answer {s : Surroundings} (steady : s.Steady) (request : Request) :
    (Surroundings.answer request s).2.Steady := by
  unfold Steady
  rw [answer_pageReply]
  exact steady

end Surroundings

/-! ## Routines that ask for one check -/

namespace Routine.Asks

variable {α : Type} {routine : Routine α} {check : Check}

end Routine.Asks

theorem Routine.runIn_steady {α : Type} (routine : Routine α) {s : Surroundings}
    (steady : s.Steady) : (routine.runIn s).2.Steady := by
  induction routine generalizing s with
  | done value => exact steady
  | broken => exact steady
  | ask request next ih => exact ih (answer request s).1 (steady.answer request)

/-! ## What is sent -/

namespace Pipeline

def outcome (pipeline : Pipeline) (check : Check) (s : Surroundings) :
    Option (Except CycleError CycleReport) :=
  ((pipeline.cycle check).runIn s).1

def outcomeState (pipeline : Pipeline) (check : Check) (s : Surroundings) : Surroundings :=
  ((pipeline.cycle check).runIn s).2

def inOrder (pipeline : Pipeline) (first second : Check) (s : Surroundings) : Surroundings :=
  pipeline.outcomeState second (pipeline.outcomeState first s)

variable (pipeline : Pipeline) (first second : Check) {s : Surroundings}

end Pipeline

end FleetMonitor
