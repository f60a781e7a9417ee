import FleetMonitor.Proofs.Escalation
import FleetMonitor.Proofs.Keys

/-!
# How the turn of a trigger goes

Whatever the store and the ways out answer, the turn of a trigger goes in one of six
ways.  Each of them says what was asked and answered, and what became of the keys of
incidents.
-/

set_option autoImplicit false

namespace FleetMonitor

open Routine

def Exchange.mails (sent : List (Mail × Except String Unit)) : List Exchange :=
  sent.map fun mail => ⟨.mail mail.1, mail.2⟩

namespace Dispatcher

/-! ## What goes out in a turn -/

def joined : Except String String → Except DeliveryError Delivery
  | .ok key => .ok (.incident key)
  | .error reason => .error (.refused reason)

variable {keys later : IncidentKeys} {log : List Exchange}

theorem hand_course (dispatcher : Dispatcher) (mail : Mail)
    {value : Option (Except DeliveryError Delivery)}
    (course : Course IncidentKeys.Responds (dispatcher.hand mail) keys log value later) :
    later = keys ∧ ∃ mails result, log = Exchange.mails mails ∧ value = some result ∧
      ∀ key, result ≠ .ok (.incident key) := by
  unfold hand at course
  split at course
  · obtain ⟨answer, middle, tail, rfl, ⟨_, kept⟩, rest⟩ := course.of_request_bind
    cases answer with
    | ok _ =>
        obtain ⟨rfl, rfl, rfl⟩ := rest.of_done
        exact ⟨kept, [(mail, .ok ())], _, rfl, rfl, nofun⟩
    | error reason =>
        obtain ⟨rfl, rfl, rfl⟩ := rest.of_done
        exact ⟨kept, [(mail, .error reason)], _, rfl, rfl, nofun⟩
  · obtain ⟨rfl, rfl, rfl⟩ := course.of_done
    exact ⟨rfl, [], _, rfl, rfl, nofun⟩

/-- An action sends mails or makes one call to the pager service.  The call carries the
configured key, or else the key of the open incident. -/
theorem dispatch_course (dispatcher : Dispatcher) (check : Check) (trigger : Trigger)
    (count : Nat) (newest : Option CycleRecord) (openKey : Option String)
    {value : Option (Except DeliveryError Delivery)}
    (course : Course IncidentKeys.Responds
      (dispatcher.dispatch check trigger count newest openKey) keys log value later) :
    later = keys ∧
      ((∃ mails result, log = Exchange.mails mails ∧ value = some result ∧
          ∀ key, result ≠ .ok (.incident key)) ∨
        ∃ serviceKey description configured page reply,
          trigger.action = .pager serviceKey description configured ∧
            page.incidentKey = chosenKey configured openKey ∧
              log = [⟨.page page, reply⟩] ∧ value = some (joined reply)) := by
  have silent : ∀ {outcome : Except DeliveryError Delivery},
      (∀ key, outcome ≠ .ok (.incident key)) →
        Course IncidentKeys.Responds (Routine.done outcome) keys log value later →
          later = keys ∧ ∃ mails result, log = Exchange.mails mails ∧ value = some result ∧
            ∀ key, result ≠ .ok (.incident key) := by
    intro outcome noKey ended
    obtain ⟨rfl, rfl, rfl⟩ := ended.of_done
    exact ⟨rfl, [], outcome, rfl, rfl, noKey⟩
  unfold dispatch at course
  cases action : trigger.action with
  | nothing =>
      rw [action] at course
      exact (silent (by nofun) course).imp_right Or.inl
  | email address =>
      simp only [action] at course
      split at course
      · exact (silent (by nofun) course).imp_right Or.inl
      · exact (hand_course dispatcher _ course).imp_right Or.inl
  | sms phone carrier =>
      simp only [action] at course
      split at course
      · exact (silent (by nofun) course).imp_right Or.inl
      · split at course
        · exact (hand_course dispatcher _ course).imp_right Or.inl
        · exact (silent (by nofun) course).imp_right Or.inl
  | pager serviceKey description configured =>
      simp only [action] at course
      obtain ⟨reply, middle, tail, rfl, ⟨_, kept⟩, rest⟩ := course.of_request_bind
      have ended : tail = [] ∧ value = some (joined reply) ∧ later = middle := by
        cases reply <;> exact rest.of_done
      obtain ⟨rfl, rfl, rfl⟩ := ended
      exact ⟨kept, Or.inr ⟨serviceKey, description, configured, _, reply, rfl, rfl, rfl, rfl⟩⟩

end Dispatcher

namespace Escalation

/-- The turn of a trigger as it went, from some keys to others: what was asked and
answered in it, and its outcome. -/
inductive Turned (check : Check) (lastGood : Option Instant) (now : Instant)
    (trigger : Trigger) (keys : IncidentKeys) :
    List Exchange → Option (Except StoreError Bool) → IncidentKeys → Prop
  | outOfRange : Turned check lastGood now trigger keys [] none keys
  | unread (bound : Instant) (e : StoreError) :
      Turned check lastGood now trigger keys
        [⟨.violationsSince check.clusterId check.id bound, .error e⟩] (some (.error e)) keys
  | outside (bound : Instant) (found : List CycleRecord)
      (bounded : bound? lastGood now trigger = some bound)
      (quiet : ¬ trigger.Calls found.length) :
      Turned check lastGood now trigger keys
        [⟨.violationsSince check.clusterId check.id bound, .ok found⟩,
          ⟨.dropKey check.id trigger.id, ()⟩]
        (some (.ok false)) (keys.drop check.id trigger.id)
  | mailed (bound : Instant) (found : List CycleRecord)
      (bounded : bound? lastGood now trigger = some bound) (calls : trigger.Calls found.length)
      (mails : List (Mail × Except String Unit)) (sent : Bool) :
      Turned check lastGood now trigger keys
        (⟨.violationsSince check.clusterId check.id bound, .ok found⟩ ::
          ⟨.incidentKey check.id trigger.id, keys.get? check.id trigger.id⟩ ::
            Exchange.mails mails)
        (some (.ok sent)) keys
  | unkeyed (bound : Instant) (found : List CycleRecord)
      (bounded : bound? lastGood now trigger = some bound) (calls : trigger.Calls found.length)
      (serviceKey description configured : String)
      (action : trigger.action = .pager serviceKey description configured) (page : Page)
      (carries : page.incidentKey =
        Dispatcher.chosenKey configured (keys.get? check.id trigger.id))
      (reply : Except String String) (noKey : ∀ key, reply = .ok key → key = "") (sent : Bool) :
      Turned check lastGood now trigger keys
        [⟨.violationsSince check.clusterId check.id bound, .ok found⟩,
          ⟨.incidentKey check.id trigger.id, keys.get? check.id trigger.id⟩, ⟨.page page, reply⟩]
        (some (.ok sent)) keys
  | keyed (bound : Instant) (found : List CycleRecord)
      (bounded : bound? lastGood now trigger = some bound) (calls : trigger.Calls found.length)
      (serviceKey description configured : String)
      (action : trigger.action = .pager serviceKey description configured) (page : Page)
      (carries : page.incidentKey =
        Dispatcher.chosenKey configured (keys.get? check.id trigger.id))
      (key : String) (someKey : key ≠ "") :
      Turned check lastGood now trigger keys
        [⟨.violationsSince check.clusterId check.id bound, .ok found⟩,
          ⟨.incidentKey check.id trigger.id, keys.get? check.id trigger.id⟩,
          ⟨.page page, .ok key⟩, ⟨.holdKey check.id trigger.id key, ()⟩]
        (some (.ok true)) (keys.hold check.id trigger.id key)

/-- A trigger in its band asks for its key, sends what it has to send, and keeps a key
that it is given. -/
theorem act_course (dispatcher : Dispatcher) (check : Check) (lastGood : Option Instant)
    (now : Instant) (trigger : Trigger) (bound : Instant) (found : List CycleRecord)
    (bounded : bound? lastGood now trigger = some bound) (calls : trigger.Calls found.length)
    {keys later : IncidentKeys} {log : List Exchange} {value : Option Bool}
    (course : Course IncidentKeys.Responds (act dispatcher check trigger found) keys log value
      later) :
    Turned check lastGood now trigger keys
      (⟨.violationsSince check.clusterId check.id bound, .ok found⟩ :: log) (value.map .ok)
      later := by
  unfold act at course
  obtain ⟨openKey, middle, tail, rfl, ⟨told, kept⟩, course⟩ := course.of_request_bind
  change openKey = keys.get? check.id trigger.id at told
  obtain rfl : keys = middle := kept.symm
  subst told
  rcases course.of_bind with ⟨head, rest, outcome, between, rfl, sent, ended⟩ | ⟨_, sent⟩
  · obtain ⟨rfl, ⟨mails, result, rfl, same, noKey⟩ | paged⟩ :=
      Dispatcher.dispatch_course dispatcher check trigger _ _ _ sent
    · obtain rfl := Option.some.inj same
      have finished : ∃ delivered, rest = [] ∧ value = some delivered ∧ later = between := by
        cases outcome with
        | error cause => exact ⟨_, ended.of_done⟩
        | ok delivery =>
            cases delivery with
            | incident key => exact absurd rfl (noKey key)
            | skipped => exact ⟨_, ended.of_done⟩
            | sent => exact ⟨_, ended.of_done⟩
      obtain ⟨delivered, rfl, rfl, rfl⟩ := finished
      rw [List.append_nil]
      exact .mailed bound found bounded calls mails delivered
    · obtain ⟨serviceKey, description, configured, page, reply, action, carries, rfl, same⟩ := paged
      obtain rfl := Option.some.inj same
      cases reply with
      | error reason =>
          obtain ⟨rfl, rfl, rfl⟩ := ended.of_done
          exact .unkeyed bound found bounded calls serviceKey description configured action page
            carries (.error reason) nofun false
      | ok key =>
          simp only [Dispatcher.joined] at ended
          split at ended
          · rename_i blank
            obtain ⟨rfl, rfl, rfl⟩ := ended.of_done
            refine .unkeyed bound found bounded calls serviceKey description configured action page
              carries (.ok key) (fun other same => ?_) true
            rw [← Except.ok.inj same]
            simpa using blank
          · rename_i someKey
            obtain ⟨_, after, tail, rfl, ⟨_, rfl⟩, ended⟩ := ended.of_request_bind
            obtain ⟨rfl, rfl, rfl⟩ := ended.of_done
            exact .keyed bound found bounded calls serviceKey description configured action page
              carries key (by simpa using someKey)
  · obtain ⟨_, ⟨_, _, _, same, _⟩ | ⟨_, _, _, _, _, _, _, _, same⟩⟩ :=
      Dispatcher.dispatch_course dispatcher check trigger _ _ _ sent
    · simp at same
    · simp at same

/-- There is no other way in which the turn of a trigger can go. -/
theorem runTrigger_course (dispatcher : Dispatcher) (check : Check) (lastGood : Option Instant)
    (now : Instant) (trigger : Trigger) {keys later : IncidentKeys} {log : List Exchange}
    {value : Option (Except StoreError Bool)}
    (course : Course IncidentKeys.Responds
      (runTrigger dispatcher check lastGood now trigger) keys log value later) :
    Turned check lastGood now trigger keys log value later := by
  unfold runTrigger at course
  cases bounded : bound? lastGood now trigger with
  | none =>
      rw [bounded] at course
      cases course with
      | broken => exact .outOfRange
  | some bound =>
      rw [bounded] at course
      have asked : Course IncidentKeys.Responds
          (Routine.request (.violationsSince check.clusterId check.id bound) >>= _) keys log value
            later := course
      obtain ⟨answer, middle, tail, rfl, ⟨_, rfl⟩, rest⟩ := asked.of_request_bind
      cases answer with
      | error e =>
          obtain ⟨rfl, rfl, rfl⟩ := rest.of_done
          exact .unread bound e
      | ok found =>
          simp only at rest
          split at rest
          · rename_i quiet
            obtain ⟨_, after, tail, rfl, ⟨_, rfl⟩, ended⟩ := rest.of_request_bind
            obtain ⟨rfl, rfl, rfl⟩ := ended.of_done
            exact .outside bound found bounded ((outside_iff trigger found).mp quiet)
          · rename_i inside
            rw [outside_iff, Classical.not_not] at inside
            rcases rest.of_bind with ⟨head, tail, sent, between, rfl, acted, ended⟩ | ⟨rfl, acted⟩
            · obtain ⟨rfl, rfl, rfl⟩ := ended.of_done
              rw [List.append_nil]
              exact act_course dispatcher check lastGood now trigger bound found bounded inside acted
            · exact act_course dispatcher check lastGood now trigger bound found bounded inside acted

end Escalation

end FleetMonitor
