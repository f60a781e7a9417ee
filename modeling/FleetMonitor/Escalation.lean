import FleetMonitor.Notice
import FleetMonitor.Routine
import FleetMonitor.Text.Case

/-!
# Escalation

A trigger acts while the number of violations in its window lies in its band.
The window never reaches back past the newest passing record, so a recovery
starts the count anew.  An incident that the pager service opened is joined by
its key until the count leaves the band.
-/

set_option autoImplicit false

namespace FleetMonitor

structure Dispatcher where
  /-- The mail domain that forwards text messages, by the configured name of the carrier. -/
  gateways : List (String × String)
  hasMailer : Bool
  client : String
deriving Repr

namespace Dispatcher

def hand (dispatcher : Dispatcher) (mail : Mail) :
    Routine (Except DeliveryError Delivery) :=
  if dispatcher.hasMailer then do
    match ← .request (.mail mail) with
    | .ok () => pure (.ok .sent)
    | .error reason => pure (.error (.refused reason))
  else pure (.error .noMailer)

/-- The key that a call to the pager service carries: the configured one if it
is not blank, and else the key of the open incident. -/
def chosenKey (configured : String) (openKey : Option String) : Option String :=
  if (Text.trim configured).isEmpty then openKey else some (Text.trim configured)

def details : Option CycleRecord → Json
  | none => .null
  | some record => (Json.array (record.expressions.map Expression.encode)).sorted

/-- Takes the action of a trigger for a check that failed so many times.
`newest` is the newest violation, `openKey` the key of an open incident. -/
def dispatch (dispatcher : Dispatcher) (check : Check) (trigger : Trigger)
    (violations : Nat) (newest : Option CycleRecord) (openKey : Option String) :
    Routine (Except DeliveryError Delivery) :=
  match trigger.action with
  | .nothing => pure (.ok .skipped)
  | .email address =>
      if Text.allBlank address then pure (.error .noAddress)
      else
        dispatcher.hand
          ⟨Text.trim address, Notice.summary check violations,
            (newest.map (Notice.body check)).getD ""⟩
  | .sms phone carrier =>
      match dispatcher.gateways.lookup (Text.lower carrier) with
      | none => pure (.error (.noGateway (Text.lower carrier)))
      | some gateway =>
          let digits := Notice.phoneDigits phone
          if digits.length = 10 then
            dispatcher.hand ⟨digits ++ "@" ++ gateway, "", Notice.summary check violations⟩
          else pure (.ok .skipped)
  | .pager serviceKey description configured => do
      let page : Page :=
        ⟨serviceKey, description, chosenKey configured openKey, dispatcher.client,
          details newest⟩
      match ← .request (.page page) with
      | .ok key => pure (.ok (.incident key))
      | .error reason => pure (.error (.refused reason))

end Dispatcher

namespace Escalation

/-- The lower bound of a trigger's window: its start, or the newest passing
record if that is later. -/
def windowBound? (lastGood : Option Instant) (now : Instant) (seconds : Int) :
    Option Instant :=
  (now.minus? seconds).map fun start =>
    match lastGood with
    | some good => good.later start
    | none => start

def bound? (lastGood : Option Instant) (now : Instant) (trigger : Trigger) : Option Instant := do
  windowBound? lastGood now (← trigger.window?)

/-- Takes the action of a trigger in its band and keeps the key of the incident.
The answer says whether a message went out; a failed one changes nothing. -/
def act (dispatcher : Dispatcher) (check : Check) (trigger : Trigger)
    (violations : List CycleRecord) : Routine Bool := do
  let openKey ← .request (.incidentKey check.id trigger.id)
  match ← dispatcher.dispatch check trigger violations.length violations.head? openKey with
  | .ok (.incident key) =>
      if key.isEmpty then pure true
      else do
        .request (.holdKey check.id trigger.id key)
        pure true
  | .ok delivery => pure delivery.delivered
  | .error _ => pure false

def runTrigger (dispatcher : Dispatcher) (check : Check) (lastGood : Option Instant)
    (now : Instant) (trigger : Trigger) : Routine (Except StoreError Bool) := do
  let bound ← .within (bound? lastGood now trigger)
  match ← .request (.violationsSince check.clusterId check.id bound) with
  | .error e => pure (.error e)
  | .ok violations =>
      if violations.isEmpty || !trigger.inBand violations.length then do
        .request (.dropKey check.id trigger.id)
        pure (.ok false)
      else do
        let delivered ← act dispatcher check trigger violations
        pure (.ok delivered)

/-- Runs triggers in their order and counts the messages that went out.  A store
that fails ends the run. -/
def runAll (dispatcher : Dispatcher) (check : Check) (lastGood : Option Instant)
    (now : Instant) : List Trigger → Nat → Routine (Except StoreError Nat)
  | [], delivered => pure (.ok delivered)
  | trigger :: rest, delivered => do
      match ← runTrigger dispatcher check lastGood now trigger with
      | .error e => pure (.error e)
      | .ok sent => runAll dispatcher check lastGood now rest (delivered + sent.toNat)

def runTriggers (dispatcher : Dispatcher) (check : Check) : Routine (Except StoreError Nat) :=
  if check.silenced || check.triggers.isEmpty then pure (.ok 0)
  else do
    match ← .request (.lastGood check.clusterId check.id) with
    | .error e => pure (.error e)
    | .ok lastGood =>
        let now ← .request .now
        runAll dispatcher check (lastGood.map (·.created)) now check.triggers 0

end Escalation

end FleetMonitor
