import FleetMonitor.Proofs.Keys
import FleetMonitor.Proofs.Observation

/-!
# What a cycle asks for

Apart from what it observes and what it sends, a cycle asks only for the records of its own
check and for the keys of triggers of the definition that it goes by, whatever it is
answered.
-/

set_option autoImplicit false

namespace FleetMonitor

open Routine

def Request.HoldsOwn (check : Check) : Request → Prop
  | holdKey checkId triggerId _ => checkId = check.id ∧ check.defines triggerId = true
  | _ => True

/-- The request is for records of the check or for a key of one of its triggers, it observes,
or it hands over a message. -/
def Request.Own (check : Check) : Request → Prop
  | create _ checkId _ _ _ => checkId = check.id
  | lastGood _ checkId => checkId = check.id
  | violationsSince _ checkId _ => checkId = check.id
  | incidentKey checkId triggerId => checkId = check.id ∧ check.defines triggerId = true
  | holdKey checkId triggerId _ => checkId = check.id ∧ check.defines triggerId = true
  | dropKey checkId triggerId => checkId = check.id ∧ check.defines triggerId = true
  | _ => True

theorem Request.own_of_observes (check : Check) (request : Request)
    (observes : request.observes = true) : request.Own check := by
  cases request with
  | create | lastGood | violationsSince | incidentKey | holdKey | dropKey => cases observes
  | _ => trivial

theorem Request.Own.holdsOwn {check : Check} (request : Request) (own : request.Own check) :
    request.HoldsOwn check := by
  cases request with
  | holdKey checkId triggerId key => exact own
  | _ => trivial

def Request.isMessage : Request → Bool
  | mail _ => true
  | page _ => true
  | _ => false

namespace Dispatcher

theorem hand_messages (dispatcher : Dispatcher) (mail : Mail) :
    Asks (fun request => request.isMessage = true) (dispatcher.hand mail) := by
  unfold hand
  split
  · refine (Asks.request (.mail mail) (by rfl)).bind fun reply => ?_
    cases reply <;> exact .done _
  · exact .done _

theorem dispatch_messages (dispatcher : Dispatcher) (check : Check) (trigger : Trigger)
    (count : Nat) (newest : Option CycleRecord) (openKey : Option String) :
    Asks (fun request => request.isMessage = true)
      (dispatcher.dispatch check trigger count newest openKey) := by
  unfold dispatch
  cases trigger.action with
  | nothing => exact .done _
  | email address =>
      simp only
      split
      · exact .done _
      · exact hand_messages dispatcher _
  | sms phone carrier =>
      simp only
      split
      · exact .done _
      · split
        · exact hand_messages dispatcher _
        · exact .done _
  | pager serviceKey description configured =>
      refine (Asks.request (.page _) (by rfl)).bind fun reply => ?_
      cases reply <;> exact .done _

theorem dispatch_own (dispatcher : Dispatcher) (check : Check) (trigger : Trigger)
    (count : Nat) (newest : Option CycleRecord) (openKey : Option String) :
    Asks (Request.Own check) (dispatcher.dispatch check trigger count newest openKey) := by
  refine (dispatcher.dispatch_messages check trigger count newest openKey).mono
    fun request message => ?_
  cases request <;> trivial

end Dispatcher

namespace Escalation

theorem act_own (dispatcher : Dispatcher) (check : Check) (trigger : Trigger)
    (own : check.defines trigger.id = true) (violations : List CycleRecord) :
    Asks (Request.Own check) (act dispatcher check trigger violations) := by
  refine (Asks.request (.incidentKey _ _) ⟨rfl, own⟩).bind fun openKey => ?_
  refine (dispatcher.dispatch_own check trigger _ _ openKey).bind fun outcome => ?_
  match outcome with
  | .ok (.incident key) =>
      simp only
      split
      · exact .done _
      · exact (Asks.request (.holdKey check.id trigger.id key) ⟨rfl, own⟩).bind fun _ => .done _
  | .ok .skipped => exact .done _
  | .ok .sent => exact .done _
  | .error _ => exact .done _

theorem runTrigger_own (dispatcher : Dispatcher) (check : Check)
    (lastGood : Option Instant) (now : Instant) (trigger : Trigger)
    (own : check.defines trigger.id = true) :
    Asks (Request.Own check) (runTrigger dispatcher check lastGood now trigger) := by
  refine (Asks.within _).bind fun bound => ?_
  refine (Asks.request (.violationsSince _ _ bound) (by rfl)).bind fun answer => ?_
  cases answer with
  | error e => exact .done _
  | ok violations =>
      simp only
      split
      · exact (Asks.request (.dropKey _ _) ⟨rfl, own⟩).bind fun _ => .done _
      · exact (act_own dispatcher check trigger own violations).bind fun _ => .done _

theorem runAll_own (dispatcher : Dispatcher) (check : Check) (lastGood : Option Instant)
    (now : Instant) (triggers : List Trigger)
    (own : ∀ trigger ∈ triggers, check.defines trigger.id = true) (delivered : Nat) :
    Asks (Request.Own check)
      (runAll dispatcher check lastGood now triggers delivered) := by
  induction triggers generalizing delivered with
  | nil => exact .done _
  | cons trigger rest ih =>
      obtain ⟨first, others⟩ := List.forall_mem_cons.mp own
      refine (runTrigger_own dispatcher check lastGood now trigger first).bind
        fun outcome => ?_
      cases outcome with
      | error e => exact .done _
      | ok sent => exact ih others _

theorem runTriggers_own (dispatcher : Dispatcher) (check : Check) :
    Asks (Request.Own check) (runTriggers dispatcher check) := by
  unfold runTriggers
  split
  · exact .done _
  · refine (Asks.request (.lastGood _ _) (by rfl)).bind fun answer => ?_
    cases answer with
    | error e => exact .done _
    | ok lastGood =>
        refine (Asks.request .now trivial).bind fun now => ?_
        refine runAll_own dispatcher check _ now check.triggers ?_ 0
        exact fun trigger member => List.any_eq_true.mpr ⟨trigger, member, beq_self_eq_true _⟩

end Escalation

/-- A cycle asks for nothing that belongs to another check. -/
theorem Pipeline.cycle_own (pipeline : Pipeline) (check : Check) :
    Asks (Request.Own check) (pipeline.cycle check) := by
  have observing : ∀ {α : Type} {routine : Routine α}, routine.Observes →
      Asks (Request.Own check) routine :=
    fun observes => observes.mono (Request.own_of_observes check)
  refine (observing (Evaluation.evaluate_observes _ check)).bind fun outcome => ?_
  match outcome with
  | .error e => exact .done _
  | .ok (expressions, failing) =>
      simp only
      split
      · exact .done _
      · refine (observing (pipeline.retention_observes check)).bind fun seconds => ?_
        refine (Asks.request (.create _ _ _ _ _) (by rfl)).bind fun written => ?_
        refine (Asks.within written).bind fun created => ?_
        cases created with
        | error e => exact .done _
        | ok record =>
            refine (Escalation.runTriggers_own pipeline.dispatcher check).bind
              fun outcome => ?_
            cases outcome <;> exact .done _

theorem Pipeline.cycle_holdsOwn (pipeline : Pipeline) (check : Check) :
    Asks (Request.HoldsOwn check) (pipeline.cycle check) :=
  (pipeline.cycle_own check).mono Request.Own.holdsOwn

end FleetMonitor
