import FleetMonitor.Proofs.Breaking
import FleetMonitor.Proofs.Holding

/-!
# What a check's triggers come to

A run of the triggers of a check has an outcome, sends messages and leaves
keys.  Each trigger asks the store once and heeds what it is told; what it is
told comes from the newest passing record and the start of its window.
-/

set_option autoImplicit false

namespace FleetMonitor

open Routine Surroundings

namespace Routine

variable {σ α β : Type}

theorem logOf_bind (answer : (request : Request) → σ → request.Answer × σ) (first : Routine α)
    (next : α → Routine β) (s : σ) :
    (first >>= next).logOf answer s = first.logOf answer s ++
      match first.run answer s with
      | (some value, later) => (next value).logOf answer later
      | (none, _) => [] := by
  induction first generalizing s with
  | done value => rfl
  | broken => rfl
  | ask request rest ih => exact congrArg (_ :: ·) (ih _ _)

theorem logOf_bind_some (answer : (request : Request) → σ → request.Answer × σ)
    (first : Routine α) (next : α → Routine β) (s later : σ) (value : α)
    (ran : first.run answer s = (some value, later)) :
    (first >>= next).logOf answer s = first.logOf answer s ++ (next value).logOf answer later := by
  rw [logOf_bind, ran]

end Routine

def Exchange.isMessage (exchange : Exchange) : Bool :=
  exchange.request.isMessage

def Exchange.isAccepted : Exchange → Bool
  | ⟨.mail _, .ok _⟩ => true
  | ⟨.page _, .ok _⟩ => true
  | _ => false

theorem Exchange.isMessage_of_isAccepted (exchange : Exchange)
    (accepted : exchange.isAccepted = true) : exchange.isMessage = true := by
  obtain ⟨request, answer⟩ := exchange
  cases request <;> first | rfl | cases accepted

def Request.OfAction (check : Check) (triggerId : Int) : Request → Prop
  | incidentKey checkId id => (checkId, id) = (check.id, triggerId)
  | holdKey checkId id _ => (checkId, id) = (check.id, triggerId)
  | dropKey checkId id => (checkId, id) = (check.id, triggerId)
  | mail _ => True
  | page _ => True
  | _ => False

theorem Request.ofAction_of_isMessage (check : Check) (triggerId : Int) (request : Request)
    (message : request.isMessage = true) : request.OfAction check triggerId := by
  cases request <;> trivial

namespace Escalation

theorem act_ofAction (dispatcher : Dispatcher) (check : Check) (trigger : Trigger)
    (found : List CycleRecord) :
    Asks (Request.OfAction check trigger.id) (act dispatcher check trigger found) := by
  refine (Asks.request (.incidentKey _ _) (by rfl)).bind fun openKey => ?_
  refine ((dispatcher.dispatch_messages check trigger _ _ openKey).mono
    (Request.ofAction_of_isMessage check trigger.id)).bind fun result => ?_
  match result with
  | .ok (.incident key) =>
    simp only
    split
    · exact .done _
    · exact (Asks.request (.holdKey check.id trigger.id key) (by rfl)).bind fun _ => .done _
  | .ok .skipped => exact .done _
  | .ok .sent => exact .done _
  | .error _ => exact .done _

theorem heed_ofAction (dispatcher : Dispatcher) (check : Check) (trigger : Trigger)
    (told : Except StoreError (List CycleRecord)) :
    Asks (Request.OfAction check trigger.id) (heed dispatcher check trigger told) := by
  cases told with
  | error cause => exact .done _
  | ok found =>
    rw [heed]
    split
    · exact (Asks.request (.dropKey _ _) (by rfl)).bind fun _ => .done _
    · exact (act_ofAction dispatcher check trigger found).bind fun _ => .done _

/-- The outcome of a run of the triggers of a check: the number of messages
that went out, or a failure of the store; there is none if the run broke
off. -/
def outcome (dispatcher : Dispatcher) (check : Check) (s : Surroundings) :
    Option (Except StoreError Nat) :=
  ((runTriggers dispatcher check).runIn s).1

def messages (dispatcher : Dispatcher) (check : Check) (s : Surroundings) : List Exchange :=
  ((runTriggers dispatcher check).logOf answer s).filter Exchange.isMessage

def aftermath (dispatcher : Dispatcher) (check : Check) (s : Surroundings) : Surroundings :=
  ((runTriggers dispatcher check).runIn s).2

variable {s : Surroundings} (dispatcher : Dispatcher) (check : Check)

/-- A trigger in range asks for the violations in its window and heeds what it
is told. -/
theorem runTrigger_eq {lastGood : Option Instant} {now bound : Instant} {trigger : Trigger}
    (bounded : bound? lastGood now trigger = some bound) :
    runTrigger dispatcher check lastGood now trigger =
      .ask (.violationsSince check.clusterId check.id bound) (heed dispatcher check trigger) := by
  unfold runTrigger
  rw [bounded]
  refine congrArg (Routine.ask _) (funext fun told => ?_)
  cases told <;> rfl

theorem runTrigger_eq_broken {lastGood : Option Instant} {now : Instant} {trigger : Trigger}
    (outOfRange : trigger.windowStart? now = none) :
    runTrigger dispatcher check lastGood now trigger = .broken := by
  unfold runTrigger
  rw [bound?_eq, outOfRange]
  rfl

def heedLastGood : Except StoreError (Option CycleRecord) → Routine (Except StoreError Nat)
  | .error cause => .done (.error cause)
  | .ok newest =>
      .ask .now fun now =>
        runAll dispatcher check (newest.map (·.created)) now check.triggers 0

theorem runTriggers_eq (loud : check.silenced = false) (listed : check.triggers ≠ []) :
    runTriggers dispatcher check =
      .ask (.lastGood check.clusterId check.id) (heedLastGood dispatcher check) := by
  unfold runTriggers
  rw [if_neg (by simp [loud, listed])]
  refine congrArg (Routine.ask _) (funext fun told => ?_)
  cases told <;> rfl

theorem runTriggers_told (loud : check.silenced = false) {newest : Option CycleRecord}
    (told : s.guarded .lastGood (s.store.lastGood check.clusterId check.id) = .ok newest) :
    (runTriggers dispatcher check).runIn s =
        (runAll dispatcher check (newest.map (·.created)) s.now check.triggers 0).runIn s ∧
      messages dispatcher check s =
        ((runAll dispatcher check (newest.map (·.created)) s.now check.triggers 0).logOf answer
          s).filter Exchange.isMessage := by
  unfold messages
  by_cases listed : check.triggers = []
  · unfold runTriggers
    rw [if_pos (by simp [listed]), listed]
    exact ⟨rfl, rfl⟩
  · rw [runTriggers_eq dispatcher check loud listed]
    constructor
    · change (heedLastGood dispatcher check (s.guarded .lastGood
        (s.store.lastGood check.clusterId check.id))).runIn s = _
      rw [told]
      rfl
    · change ((heedLastGood dispatcher check (s.guarded .lastGood
        (s.store.lastGood check.clusterId check.id))).logOf answer s).filter
          Exchange.isMessage = _
      rw [told]
      rfl

end Escalation

end FleetMonitor
