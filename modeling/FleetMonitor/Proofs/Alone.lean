import FleetMonitor.Proofs.Hysteresis
import FleetMonitor.Proofs.Independence
import FleetMonitor.Proofs.Reaction
import FleetMonitor.Proofs.Recall
import Mathlib

/-!
# Triggers of one check

The triggers of a check share its records, the ways out and the table of keys.
Each of them asks for the key of its own incident only, so it acts in its turn
as it would alone, whatever the triggers before it have done.
-/

set_option autoImplicit false

namespace FleetMonitor

open Routine Surroundings

/-! ## What a trigger asks for -/

/-- The request is for violations of a check, for the key of one of its
triggers, or hands over a message. -/
def Request.OfTrigger (check : Check) (triggerId : Int) : Request → Prop
  | violationsSince _ checkId _ => checkId = check.id
  | request => request.OfAction check triggerId

theorem Request.OfAction.ofTrigger {check : Check} {triggerId : Int} (request : Request)
    (own : request.OfAction check triggerId) : request.OfTrigger check triggerId := by
  cases request with
  | violationsSince => exact own.elim
  | _ => exact own

namespace Escalation

theorem runTrigger_ofTrigger (dispatcher : Dispatcher) (check : Check)
    (lastGood : Option Instant) (now : Instant) (trigger : Trigger) :
    Asks (Request.OfTrigger check trigger.id)
      (runTrigger dispatcher check lastGood now trigger) := by
  cases bounded : bound? lastGood now trigger with
  | none =>
    unfold runTrigger
    rw [bounded]
    exact .broken
  | some bound =>
    rw [runTrigger_eq dispatcher check bounded]
    exact .ask _ _ (by rfl) fun told =>
      (heed_ofAction dispatcher check trigger told).mono Request.OfAction.ofTrigger

end Escalation

/-! ## What a trigger sees -/

/-- Two surroundings show the same to the trigger of a place: the same clock and
store, the same answers to messages, whenever they are sent, and the same key. -/
structure Surroundings.AlikeAt (checkId triggerId : Int) (s later : Surroundings) : Prop where
  now : later.now = s.now
  store : later.store = s.store
  faults : later.faults = s.faults
  mailReply : later.mailReply = s.mailReply
  pageReply : ∀ n m page, later.pageReply n page = s.pageReply m page
  key : later.keys.get? checkId triggerId = s.keys.get? checkId triggerId

namespace Surroundings.AlikeAt

variable {checkId triggerId : Int} {s later latest : Surroundings}

theorem refl (steady : s.Steady) : AlikeAt checkId triggerId s s :=
  ⟨rfl, rfl, rfl, rfl, steady, rfl⟩

theorem trans (early : AlikeAt checkId triggerId s later)
    (late : AlikeAt checkId triggerId later latest) : AlikeAt checkId triggerId s latest :=
  ⟨late.now.trans early.now, late.store.trans early.store, late.faults.trans early.faults,
    late.mailReply.trans early.mailReply,
    fun n m page => (late.pageReply n m page).trans (early.pageReply m m page),
    late.key.trans early.key⟩

theorem answer {check : Check} (alike : AlikeAt check.id triggerId s later) (request : Request)
    (own : request.OfTrigger check triggerId) :
    (Surroundings.answer request later).1 = (Surroundings.answer request s).1 ∧
      AlikeAt check.id triggerId (Surroundings.answer request s).2
        (Surroundings.answer request later).2 := by
  obtain ⟨now, store, faults, mailReply, pageReply, key⟩ := alike
  cases request with
  | violationsSince clusterId id bound =>
    exact ⟨by simp [Surroundings.answer, guarded, now, store, faults],
      now, store, faults, mailReply, pageReply, key⟩
  | incidentKey id place =>
    obtain ⟨rfl, rfl⟩ := Prod.mk.inj own
    exact ⟨key, now, store, faults, mailReply, pageReply, key⟩
  | holdKey id place newKey =>
    refine ⟨rfl, now, store, faults, mailReply, pageReply, ?_⟩
    simp only [Surroundings.answer, IncidentKeys.get?_hold, key]
  | dropKey id place =>
    refine ⟨rfl, now, store, faults, mailReply, pageReply, ?_⟩
    simp only [Surroundings.answer, IncidentKeys.get?_drop, key]
  | mail mail =>
    simp only [Surroundings.answer, takeMail, mailReply]
    split
    · exact ⟨rfl, now, store, faults, rfl, pageReply, key⟩
    · exact ⟨rfl, now, store, faults, mailReply, pageReply, key⟩
  | page page =>
    exact ⟨pageReply _ _ page, now, store, faults, mailReply, pageReply, key⟩
  | _ => exact own.elim

theorem aside {check : Check} {place : Int} (steady : s.Steady) (request : Request)
    (own : request.OfTrigger check place) (apart : (checkId, triggerId) ≠ (check.id, place)) :
    AlikeAt checkId triggerId s (Surroundings.answer request s).2 := by
  have still : AlikeAt checkId triggerId s s := .refl steady
  cases request with
  | violationsSince | incidentKey => exact still
  | page page => exact ⟨rfl, rfl, rfl, rfl, steady, rfl⟩
  | holdKey id other newKey =>
    refine ⟨rfl, rfl, rfl, rfl, steady, ?_⟩
    rw [← own] at apart
    simp only [Surroundings.answer, IncidentKeys.get?_hold, if_neg apart]
  | dropKey id other =>
    refine ⟨rfl, rfl, rfl, rfl, steady, ?_⟩
    rw [← own] at apart
    simp only [Surroundings.answer, IncidentKeys.get?_drop, if_neg apart]
  | mail mail =>
    simp only [Surroundings.answer, takeMail]
    split <;> exact ⟨rfl, rfl, rfl, rfl, steady, rfl⟩
  | _ => exact own.elim

end Surroundings.AlikeAt

namespace Routine.Asks

variable {α : Type} {routine : Routine α} {check : Check} {triggerId : Int}

theorem turn_alike (asks : Asks (Request.OfTrigger check triggerId) routine)
    {s later : Surroundings} (alike : AlikeAt check.id triggerId s later) :
    (routine.runIn later).1 = (routine.runIn s).1 ∧
      routine.logOf answer later = routine.logOf answer s ∧
        AlikeAt check.id triggerId (routine.runIn s).2 (routine.runIn later).2 := by
  induction asks generalizing s later with
  | done value => exact ⟨rfl, rfl, alike⟩
  | broken => exact ⟨rfl, rfl, alike⟩
  | ask request next own _ ih =>
    obtain ⟨told, after⟩ := alike.answer request own
    obtain ⟨value, log, rest⟩ := ih (answer request s).1 after
    refine ⟨?_, ?_, ?_⟩
    · simpa [runIn, run, told] using value
    · simpa [logOf, told] using log
    · simpa [runIn, run, told] using rest

/-- After the turn of a trigger every other one sees what it saw before. -/
theorem turn_aside (asks : Asks (Request.OfTrigger check triggerId) routine) {checkId place : Int}
    (apart : (checkId, place) ≠ (check.id, triggerId)) {s : Surroundings} (steady : s.Steady) :
    AlikeAt checkId place s (routine.runIn s).2 := by
  induction asks generalizing s with
  | done value => exact .refl steady
  | broken => exact .refl steady
  | ask request next own _ ih =>
    have first : AlikeAt checkId place s (answer request s).2 := .aside steady request own apart
    exact first.trans (ih (answer request s).1 (steady.answer request))

end Routine.Asks

/-! ## Turn after turn -/

def Trigger.inRange (now : Instant) (trigger : Trigger) : Bool :=
  (trigger.windowStart? now).isSome

namespace Escalation

def sentIn : Option (Except StoreError Bool) → Nat
  | some (.ok sent) => sent.toNat
  | _ => 0

section Turns

variable (dispatcher : Dispatcher) (check : Check) (lastGood : Option Instant)
  (s : Surroundings)

def turn (trigger : Trigger) : Routine (Except StoreError Bool) :=
  runTrigger dispatcher check lastGood s.now trigger

def turnCount (trigger : Trigger) : Nat :=
  sentIn ((turn dispatcher check lastGood s trigger).runIn s).1

/-- A run of triggers from a state where each of them sees what it sees at
another is made of their turns there, up to the first trigger that is out of
range. -/
structure OfTurns (triggers : List Trigger) (delivered : Nat) (start : Surroundings) : Prop where
  ends : triggers.all (Trigger.inRange s.now) = true →
    ((runAll dispatcher check lastGood s.now triggers delivered).runIn start).1 =
      some (.ok (delivered + (triggers.map (turnCount dispatcher check lastGood s)).sum))
  breaks : triggers.all (Trigger.inRange s.now) = false →
    ((runAll dispatcher check lastGood s.now triggers delivered).runIn start).1 = none
  log : (runAll dispatcher check lastGood s.now triggers delivered).logOf answer start =
    (triggers.takeWhile (Trigger.inRange s.now)).flatMap fun trigger =>
      (turn dispatcher check lastGood s trigger).logOf answer s
  keys : ∀ trigger ∈ triggers.takeWhile (Trigger.inRange s.now),
    ((runAll dispatcher check lastGood s.now triggers delivered).runIn start).2.keys.get?
        check.id trigger.id =
      ((turn dispatcher check lastGood s trigger).runIn s).2.keys.get? check.id trigger.id
  others : ∀ checkId place,
    (∀ trigger ∈ triggers.takeWhile (Trigger.inRange s.now),
      (checkId, place) ≠ (check.id, trigger.id)) →
    ((runAll dispatcher check lastGood s.now triggers delivered).runIn start).2.keys.get?
        checkId place = start.keys.get? checkId place

variable {dispatcher check lastGood s}

variable (dispatcher check lastGood) in
theorem turn_ends (works : s.works .violationsSince = true) {trigger : Trigger}
    (inRange : trigger.inRange s.now = true) :
    ∃ sent, ((turn dispatcher check lastGood s trigger).runIn s).1 = some (.ok sent) ∧
      turnCount dispatcher check lastGood s trigger = sent.toNat := by
  have window : trigger.windowStart? s.now ≠ none := Option.isSome_iff_ne_none.mp inRange
  rcases runTrigger_runIn (s := s) dispatcher check lastGood s.now trigger window with
    ⟨unread, -⟩ | ⟨-, sent, later, ran, -⟩
  · rw [works] at unread
    cases unread
  · have value : ((turn dispatcher check lastGood s trigger).runIn s).1 = some (.ok sent) :=
      congrArg Prod.fst ran
    exact ⟨sent, value, by rw [turnCount, value, sentIn]⟩

theorem OfTurns.outOfRange {trigger : Trigger} (outOfRange : trigger.inRange s.now = false)
    (rest : List Trigger) (delivered : Nat) (start : Surroundings) :
    OfTurns dispatcher check lastGood s (trigger :: rest) delivered start := by
  have window : trigger.windowStart? s.now = none := by simpa [Trigger.inRange] using outOfRange
  have broken : runAll dispatcher check lastGood s.now (trigger :: rest) delivered = .broken := by
    rw [runAll, runTrigger_eq_broken dispatcher check window]
    rfl
  constructor
  · intro inRange
    simp [outOfRange] at inRange
  · intro _
    rw [broken]
    rfl
  · rw [broken, List.takeWhile_cons_of_neg (by simp [outOfRange])]
    rfl
  · rw [List.takeWhile_cons_of_neg (by simp [outOfRange])]
    simp
  · intro checkId place _
    rw [broken]
    rfl

/-- A trigger in range takes its turn as it would where it sees the same, and
leaves to the others what they see. -/
theorem OfTurns.step (works : s.works .violationsSince = true) {trigger : Trigger}
    (inRange : trigger.inRange s.now = true) {rest : List Trigger} {delivered : Nat}
    {start : Surroundings} (steady : start.Steady)
    (alike : AlikeAt check.id trigger.id s start)
    (distinct : ∀ other ∈ rest, other.id ≠ trigger.id)
    (after : OfTurns dispatcher check lastGood s rest
      (delivered + turnCount dispatcher check lastGood s trigger)
      ((turn dispatcher check lastGood s trigger).runIn start).2) :
    OfTurns dispatcher check lastGood s (trigger :: rest) delivered start := by
  have asks : Asks (Request.OfTrigger check trigger.id) (turn dispatcher check lastGood s trigger) :=
    runTrigger_ofTrigger dispatcher check lastGood s.now trigger
  obtain ⟨value, log, left⟩ := asks.turn_alike alike
  obtain ⟨sent, ended, counted⟩ := turn_ends dispatcher check lastGood works inRange
  rw [counted] at after
  have ran : (turn dispatcher check lastGood s trigger).runIn start =
      (some (.ok sent), ((turn dispatcher check lastGood s trigger).runIn start).2) :=
    Prod.ext (value.trans ended) rfl
  have goesOn : (runAll dispatcher check lastGood s.now (trigger :: rest) delivered).runIn start =
      (runAll dispatcher check lastGood s.now rest (delivered + sent.toNat)).runIn
        ((turn dispatcher check lastGood s trigger).runIn start).2 :=
    run_bind_some answer _ _ start _ _ ran
  have logOn : (runAll dispatcher check lastGood s.now (trigger :: rest) delivered).logOf answer
        start =
      (turn dispatcher check lastGood s trigger).logOf answer start ++
        (runAll dispatcher check lastGood s.now rest (delivered + sent.toNat)).logOf answer
          ((turn dispatcher check lastGood s trigger).runIn start).2 :=
    logOf_bind_some answer _ _ start _ _ ran
  have heard : (trigger :: rest).takeWhile (Trigger.inRange s.now) =
      trigger :: rest.takeWhile (Trigger.inRange s.now) := List.takeWhile_cons_of_pos inRange
  have aside : ∀ checkId place, (checkId, place) ≠ (check.id, trigger.id) →
      ((turn dispatcher check lastGood s trigger).runIn start).2.keys.get? checkId place =
        start.keys.get? checkId place :=
    fun checkId place apart => (asks.turn_aside apart steady).key
  constructor
  case ends =>
    intro all
    have allRest : rest.all (Trigger.inRange s.now) = true := by simpa [inRange] using all
    rw [goesOn, after.ends allRest, List.map_cons, List.sum_cons, counted, Nat.add_assoc]
  case breaks =>
    intro notAll
    rw [goesOn]
    exact after.breaks (by simpa [inRange] using notAll)
  case log => rw [logOn, log, after.log, heard, List.flatMap_cons]
  case keys =>
    rw [heard, goesOn]
    refine List.forall_mem_cons.mpr ⟨?_, after.keys⟩
    refine (after.others check.id trigger.id fun other inRest same => ?_).trans left.key
    have isRest := (List.takeWhile_sublist _).subset inRest
    exact distinct other isRest (Prod.mk.inj same).2.symm
  case others =>
    rw [heard, goesOn]
    intro checkId place apart
    obtain ⟨first, others⟩ := List.forall_mem_cons.mp apart
    exact (after.others checkId place others).trans (aside checkId place first)

/-- Triggers with ids of their own take their turns as each of them would
alone. -/
theorem ofTurns (works : s.works .violationsSince = true) (triggers : List Trigger)
    (distinct : (triggers.map (·.id)).Nodup) (delivered : Nat) (start : Surroundings)
    (steady : start.Steady) (alike : ∀ trigger ∈ triggers, AlikeAt check.id trigger.id s start) :
    OfTurns dispatcher check lastGood s triggers delivered start := by
  induction triggers generalizing delivered start with
  | nil => exact ⟨fun _ => rfl, nofun, rfl, nofun, fun _ _ _ => rfl⟩
  | cons trigger rest ih =>
    obtain ⟨fresh, distinctRest⟩ := List.nodup_cons.mp distinct
    obtain ⟨first, others⟩ := List.forall_mem_cons.mp alike
    have apart : ∀ other ∈ rest, other.id ≠ trigger.id := fun other inRest same =>
      fresh (List.mem_map.mpr ⟨other, inRest, same⟩)
    cases inRange : trigger.inRange s.now with
    | false => exact .outOfRange inRange rest delivered start
    | true =>
      refine .step works inRange steady first apart (ih distinctRest _ _ ?_ ?_)
      · exact Routine.runIn_steady _ steady
      · intro other inRest
        have asks : Asks (Request.OfTrigger check trigger.id)
            (turn dispatcher check lastGood s trigger) :=
          runTrigger_ofTrigger dispatcher check lastGood s.now trigger
        exact (others other inRest).trans
          (asks.turn_aside (by simpa using apart other inRest) steady)

end Turns

end Escalation

/-! ## What is accepted -/

def Dispatcher.wentOut : Except DeliveryError Delivery → Bool
  | .ok delivery => delivery.delivered
  | .error _ => false

section Accepted

variable {σ : Type} {responds : σ → Exchange → σ → Prop} {s later : σ} {log : List Exchange}

theorem Dispatcher.hand_accepted (dispatcher : Dispatcher) (mail : Mail)
    {result : Except DeliveryError Delivery}
    (course : Course responds (dispatcher.hand mail) s log (some result) later) :
    log.countP Exchange.isAccepted = (wentOut result).toNat := by
  unfold hand at course
  split at course
  · obtain ⟨reply, middle, tail, rfl, -, rest⟩ := course.of_request_bind
    cases reply <;>
    · obtain ⟨rfl, same, -⟩ := rest.of_done
      obtain rfl := Option.some.inj same
      rfl
  · obtain ⟨rfl, same, -⟩ := course.of_done
    obtain rfl := Option.some.inj same
    rfl

theorem Dispatcher.dispatch_accepted (dispatcher : Dispatcher) (check : Check) (trigger : Trigger)
    (count : Nat) (newest : Option CycleRecord) (openKey : Option String)
    {result : Except DeliveryError Delivery}
    (course : Course responds (dispatcher.dispatch check trigger count newest openKey) s log
      (some result) later) :
    log.countP Exchange.isAccepted = (wentOut result).toNat := by
  have silent : ∀ {given : Except DeliveryError Delivery}, wentOut given = false →
      Course responds (Routine.done given) s log (some result) later →
        log.countP Exchange.isAccepted = (wentOut result).toNat := by
    intro given nothing ended
    obtain ⟨rfl, same, -⟩ := ended.of_done
    obtain rfl := Option.some.inj same
    rw [nothing]
    rfl
  unfold dispatch at course
  cases action : trigger.action with
  | nothing =>
    rw [action] at course
    exact silent rfl course
  | email address =>
    simp only [action] at course
    split at course
    · exact silent rfl course
    · exact dispatcher.hand_accepted _ course
  | sms phone carrier =>
    simp only [action] at course
    split at course
    · exact silent rfl course
    · split at course
      · exact dispatcher.hand_accepted _ course
      · exact silent rfl course
  | pager serviceKey description configured =>
    simp only [action] at course
    obtain ⟨reply, middle, tail, rfl, -, rest⟩ := course.of_request_bind
    cases reply <;>
    · obtain ⟨rfl, same, -⟩ := rest.of_done
      obtain rfl := Option.some.inj same
      rfl

namespace Escalation

theorem act_accepted (dispatcher : Dispatcher) (check : Check) (trigger : Trigger)
    (found : List CycleRecord) {sent : Bool}
    (course : Course responds (act dispatcher check trigger found) s log (some sent) later) :
    log.countP Exchange.isAccepted = sent.toNat := by
  unfold act at course
  obtain ⟨openKey, middle, tail, rfl, -, course⟩ := course.of_request_bind
  rcases course.of_bind with ⟨head, rest, result, between, rfl, dispatched, ended⟩ | ⟨broke, -⟩
  · have accepted := dispatcher.dispatch_accepted check trigger _ _ _ dispatched
    have nothingMore : rest.countP Exchange.isAccepted = 0 ∧ sent = Dispatcher.wentOut result := by
      match result with
      | .ok (.incident key) =>
        simp only at ended
        split at ended
        · obtain ⟨rfl, same, -⟩ := ended.of_done
          exact ⟨rfl, Option.some.inj same⟩
        · obtain ⟨_, _, _, rfl, -, ended⟩ := ended.of_request_bind
          obtain ⟨rfl, same, -⟩ := ended.of_done
          exact ⟨rfl, Option.some.inj same⟩
      | .ok .skipped =>
        obtain ⟨rfl, same, -⟩ := ended.of_done
        exact ⟨rfl, Option.some.inj same⟩
      | .ok .sent =>
        obtain ⟨rfl, same, -⟩ := ended.of_done
        exact ⟨rfl, Option.some.inj same⟩
      | .error _ =>
        obtain ⟨rfl, same, -⟩ := ended.of_done
        exact ⟨rfl, Option.some.inj same⟩
    rw [List.countP_cons_of_neg (by simp [Exchange.isAccepted]), List.countP_append,
      nothingMore.1, Nat.add_zero, accepted, nothingMore.2]
  · cases broke

theorem heed_accepted (dispatcher : Dispatcher) (check : Check) (trigger : Trigger)
    (told : Except StoreError (List CycleRecord)) {sent : Bool}
    (course : Course responds (heed dispatcher check trigger told) s log (some (.ok sent)) later) :
    log.countP Exchange.isAccepted = sent.toNat := by
  cases told with
  | error cause =>
    obtain ⟨-, same, -⟩ := course.of_done
    cases same
  | ok found =>
    rw [heed] at course
    split at course
    · obtain ⟨_, _, _, rfl, -, ended⟩ := course.of_request_bind
      obtain ⟨rfl, same, -⟩ := ended.of_done
      obtain rfl := Except.ok.inj (Option.some.inj same)
      rfl
    · rcases course.of_bind with ⟨head, rest, delivered, between, rfl, acted, ended⟩ | ⟨broke, -⟩
      · obtain ⟨rfl, same, -⟩ := ended.of_done
        obtain rfl := Except.ok.inj (Option.some.inj same)
        rw [List.append_nil]
        exact act_accepted dispatcher check trigger found acted
      · cases broke

theorem runTrigger_accepted (dispatcher : Dispatcher) (check : Check) (lastGood : Option Instant)
    (now : Instant) (trigger : Trigger) {sent : Bool}
    (course : Course responds (runTrigger dispatcher check lastGood now trigger) s log
      (some (.ok sent)) later) :
    log.countP Exchange.isAccepted = sent.toNat := by
  cases bounded : bound? lastGood now trigger with
  | none =>
    unfold runTrigger at course
    rw [bounded] at course
    cases course
  | some bound =>
    rw [runTrigger_eq dispatcher check bounded] at course
    cases course with
    | ask _ _ told _ middle _ tail _ responded rest =>
      rw [List.countP_cons_of_neg (by simp [Exchange.isAccepted])]
      exact heed_accepted dispatcher check trigger told rest

theorem runAll_accepted (dispatcher : Dispatcher) (check : Check) (lastGood : Option Instant)
    (now : Instant) (triggers : List Trigger) (delivered : Nat) {total : Nat}
    (course : Course responds (runAll dispatcher check lastGood now triggers delivered) s log
      (some (.ok total)) later) :
    total = delivered + log.countP Exchange.isAccepted := by
  induction triggers generalizing delivered s log with
  | nil =>
    obtain ⟨rfl, same, -⟩ := course.of_done
    exact Except.ok.inj (Option.some.inj same)
  | cons trigger rest ih =>
    rw [runAll] at course
    rcases course.of_bind with ⟨head, tail, result, between, rfl, turned, goesOn⟩ | ⟨broke, -⟩
    · cases result with
      | error cause =>
        obtain ⟨-, same, -⟩ := goesOn.of_done
        cases same
      | ok sent =>
        have first := runTrigger_accepted dispatcher check lastGood now trigger turned
        rw [ih _ goesOn, List.countP_append, first, Nat.add_assoc]
    · cases broke

/-- The number that triggers come to is the number of their messages that were
accepted, whatever the store and the ways out answer. -/
theorem runTriggers_accepted (dispatcher : Dispatcher) (check : Check) {total : Nat}
    (course : Course responds (runTriggers dispatcher check) s log (some (.ok total)) later) :
    total = log.countP Exchange.isAccepted := by
  unfold runTriggers at course
  split at course
  · obtain ⟨rfl, same, -⟩ := course.of_done
    exact Except.ok.inj (Option.some.inj same)
  · obtain ⟨told, middle, tail, rfl, -, course⟩ := course.of_request_bind
    rw [List.countP_cons_of_neg (by simp [Exchange.isAccepted])]
    cases told with
    | error cause =>
      obtain ⟨-, same, -⟩ := course.of_done
      cases same
    | ok newest =>
      obtain ⟨now, later, rest, rfl, -, course⟩ := course.of_request_bind
      rw [List.countP_cons_of_neg (by simp [Exchange.isAccepted])]
      simpa using runAll_accepted dispatcher check _ now check.triggers 0 course

theorem outcome_accepted (dispatcher : Dispatcher) (check : Check) (s : Surroundings) {total : Nat}
    (ended : outcome dispatcher check s = some (.ok total)) :
    total = (messages dispatcher check s).countP Exchange.isAccepted := by
  have course := course_of_run answer (runTriggers dispatcher check) s
  rw [show ((runTriggers dispatcher check).run answer s).1 = some (.ok total) from ended] at course
  rw [runTriggers_accepted dispatcher check course, messages, List.countP_filter]
  refine List.countP_congr fun exchange _ => ?_
  have := exchange.isMessage_of_isAccepted
  simp only [Bool.and_eq_true]
  tauto

end Escalation

end Accepted

/-! ## Triggers by themselves -/

def Check.solo (check : Check) (trigger : Trigger) : Check :=
  { check with triggers := [trigger] }

namespace Escalation

variable (dispatcher : Dispatcher) (check : Check)

theorem act_triggers (others : List Trigger) (trigger : Trigger) (found : List CycleRecord) :
    act dispatcher { check with triggers := others } trigger found =
      act dispatcher check trigger found := by
  have summary : Notice.summary { check with triggers := others } = Notice.summary check := rfl
  have body : Notice.body { check with triggers := others } = Notice.body check := rfl
  have same : ∀ count newest openKey,
      dispatcher.dispatch { check with triggers := others } trigger count newest openKey =
        dispatcher.dispatch check trigger count newest openKey := by
    intro count newest openKey
    unfold Dispatcher.dispatch
    rw [summary, body]
  unfold act
  simp only [same]

theorem heed_triggers (others : List Trigger) (trigger : Trigger) :
    heed dispatcher { check with triggers := others } trigger = heed dispatcher check trigger := by
  funext told
  cases told with
  | error cause => rfl
  | ok found =>
    rw [heed, heed, act_triggers]

theorem runTrigger_triggers (others : List Trigger) (lastGood : Option Instant) (now : Instant)
    (trigger : Trigger) :
    runTrigger dispatcher { check with triggers := others } lastGood now trigger =
      runTrigger dispatcher check lastGood now trigger := by
  cases bounded : bound? lastGood now trigger with
  | none =>
    unfold runTrigger
    rw [bounded]
    rfl
  | some bound => rw [runTrigger_eq _ _ bounded, runTrigger_eq _ _ bounded, heed_triggers]

theorem runAll_triggers (others : List Trigger) (lastGood : Option Instant) (now : Instant)
    (triggers : List Trigger) (delivered : Nat) :
    runAll dispatcher { check with triggers := others } lastGood now triggers delivered =
      runAll dispatcher check lastGood now triggers delivered := by
  induction triggers generalizing delivered with
  | nil => rfl
  | cons trigger rest ih =>
    rw [runAll, runAll, runTrigger_triggers]
    refine congrArg (runTrigger dispatcher check lastGood now trigger >>= ·) (funext fun result => ?_)
    cases result with
    | error cause => rfl
    | ok sent => exact ih _

variable {dispatcher check} {s : Surroundings}

variable (dispatcher) in
theorem runTriggers_of_triggers (loud : check.silenced = false) {newest : Option CycleRecord}
    (told : s.guarded .lastGood (s.store.lastGood check.clusterId check.id) = .ok newest)
    (triggers : List Trigger) :
    (runTriggers dispatcher { check with triggers }).runIn s =
        (runAll dispatcher check (newest.map (·.created)) s.now triggers 0).runIn s ∧
      messages dispatcher { check with triggers } s =
        ((runAll dispatcher check (newest.map (·.created)) s.now triggers 0).logOf answer s).filter
          Exchange.isMessage := by
  have ran := runTriggers_told (s := s) dispatcher { check with triggers } loud told
  rwa [runAll_triggers] at ran

/-- The triggers that a run comes to: those before the first that is out of
range. -/
def heard (check : Check) (now : Instant) : List Trigger :=
  check.triggers.takeWhile (Trigger.inRange now)

/-- The triggers of a check that a run comes to act as each of them would
alone. -/
structure ActAlone (dispatcher : Dispatcher) (check : Check) (s : Surroundings) : Prop where
  counted : ∃ counts : Trigger → Nat,
    (∀ trigger ∈ heard check s.now,
      outcome dispatcher (check.solo trigger) s = some (.ok (counts trigger))) ∧
    (heard check s.now = check.triggers →
      outcome dispatcher check s = some (.ok (check.triggers.map counts).sum))
  breaks : heard check s.now ≠ check.triggers → outcome dispatcher check s = none
  accepted : ∀ total, outcome dispatcher check s = some (.ok total) →
    total = (messages dispatcher check s).countP Exchange.isAccepted
  sent : messages dispatcher check s =
    (heard check s.now).flatMap fun trigger => messages dispatcher (check.solo trigger) s
  keys : ∀ trigger ∈ heard check s.now,
    (aftermath dispatcher check s).keys.get? check.id trigger.id =
      (aftermath dispatcher (check.solo trigger) s).keys.get? check.id trigger.id
  others : ∀ checkId place,
    (∀ trigger ∈ heard check s.now, (checkId, place) ≠ (check.id, trigger.id)) →
      (aftermath dispatcher check s).keys.get? checkId place = s.keys.get? checkId place

variable (check) in
theorem exists_newest (works : s.works .lastGood = true) :
    ∃ newest, s.guarded .lastGood (s.store.lastGood check.clusterId check.id) = .ok newest := by
  rw [guarded_told, Store.lastGood_told]
  exact (works_iff s .lastGood).mp works

variable (dispatcher) in
theorem solo_run (loud : check.silenced = false) {newest : Option CycleRecord}
    (told : s.guarded .lastGood (s.store.lastGood check.clusterId check.id) = .ok newest)
    (works : s.works .violationsSince = true) (steady : s.Steady) {trigger : Trigger}
    (inRange : trigger.inRange s.now = true) :
    outcome dispatcher (check.solo trigger) s =
        some (.ok (turnCount dispatcher check (newest.map (·.created)) s trigger)) ∧
      messages dispatcher (check.solo trigger) s =
        ((turn dispatcher check (newest.map (·.created)) s trigger).logOf answer s).filter
          Exchange.isMessage ∧
      (aftermath dispatcher (check.solo trigger) s).keys.get? check.id trigger.id =
        ((turn dispatcher check (newest.map (·.created)) s trigger).runIn s).2.keys.get?
          check.id trigger.id := by
  obtain ⟨ran, sent⟩ := runTriggers_of_triggers dispatcher loud told [trigger]
  have turns : OfTurns dispatcher check (newest.map (·.created)) s [trigger] 0 s :=
    ofTurns works [trigger] (by simp) 0 s steady fun _ _ => .refl steady
  have heard : [trigger].takeWhile (Trigger.inRange s.now) = [trigger] := by simp [inRange]
  refine ⟨?_, ?_, ?_⟩
  · refine (congrArg Prod.fst ran).trans ?_
    simpa using turns.ends (by simp [inRange])
  · refine sent.trans ?_
    rw [turns.log, heard]
    simp
  · refine (congrArg (fun ended => ended.2.keys.get? check.id trigger.id) ran).trans ?_
    exact turns.keys trigger (by simp [inRange])

theorem heard_eq_iff (now : Instant) :
    heard check now = check.triggers ↔ check.triggers.all (Trigger.inRange now) = true := by
  rw [heard, List.takeWhile_eq_self_iff, List.all_eq_true]

theorem actAlone (loud : check.silenced = false) (distinct : (check.triggers.map (·.id)).Nodup)
    (steady : s.Steady) (reads : s.works .lastGood = true)
    (works : s.works .violationsSince = true) : ActAlone dispatcher check s := by
  obtain ⟨newest, told⟩ := exists_newest check reads
  have turns : OfTurns dispatcher check (newest.map (·.created)) s check.triggers 0 s :=
    ofTurns works check.triggers distinct 0 s steady fun _ _ => .refl steady
  obtain ⟨ran, sent⟩ := runTriggers_of_triggers dispatcher loud told check.triggers
  have solo : ∀ trigger ∈ heard check s.now, _ := fun trigger isHeard =>
    solo_run dispatcher loud told works steady
      (List.mem_takeWhile_imp isHeard)
  constructor
  case counted =>
    refine ⟨turnCount dispatcher check (newest.map (·.created)) s, fun trigger isHeard =>
      (solo trigger isHeard).1, fun all => ?_⟩
    refine (congrArg Prod.fst ran).trans ?_
    rw [turns.ends ((heard_eq_iff s.now).mp all), Nat.zero_add]
  case breaks =>
    intro notAll
    rw [Ne, heard_eq_iff, Bool.not_eq_true] at notAll
    exact (congrArg Prod.fst ran).trans (turns.breaks notAll)
  case accepted => exact fun total ended => outcome_accepted dispatcher check s ended
  case sent =>
    refine sent.trans ?_
    rw [turns.log, List.filter_flatMap]
    exact List.flatMap_congr fun trigger isHeard => (solo trigger isHeard).2.1.symm
  case keys =>
    intro trigger isHeard
    rw [(solo trigger isHeard).2.2, ← turns.keys trigger isHeard]
    exact congrArg (fun ended => ended.2.keys.get? check.id trigger.id) ran
  case others =>
    intro checkId place apart
    rw [← turns.others checkId place apart]
    exact congrArg (fun ended => ended.2.keys.get? checkId place) ran

theorem ActAlone.reordered {order : List Trigger} (reordered : order.Perm check.triggers)
    (all : heard check s.now = check.triggers) (listed : ActAlone dispatcher check s)
    (shuffled : ActAlone dispatcher { check with triggers := order } s) :
    outcome dispatcher { check with triggers := order } s = outcome dispatcher check s ∧
      (messages dispatcher { check with triggers := order } s).Perm
        (messages dispatcher check s) ∧
      ∀ checkId place,
        (aftermath dispatcher { check with triggers := order } s).keys.get? checkId place =
          (aftermath dispatcher check s).keys.get? checkId place := by
  have allToo : heard { check with triggers := order } s.now = order := by
    rw [heard_eq_iff, List.all_eq_true] at all
    refine (heard_eq_iff s.now).mpr (List.all_eq_true.mpr fun trigger isListed => ?_)
    exact all trigger (reordered.subset isListed)
  refine ⟨?_, ?_, ?_⟩
  · obtain ⟨counts, alone, total⟩ := listed.counted
    obtain ⟨recounts, realone, retotal⟩ := shuffled.counted
    rw [all] at alone
    rw [allToo] at realone
    have agree : ∀ trigger ∈ order, recounts trigger = counts trigger := fun trigger isListed =>
      Except.ok.inj (Option.some.inj
        ((realone trigger isListed).symm.trans (alone trigger (reordered.subset isListed))))
    have sums : (order.map recounts).sum = (check.triggers.map counts).sum := by
      rw [List.map_congr_left agree, (reordered.map counts).sum_nat]
    rw [total all, ← sums]
    exact retotal allToo
  · rw [listed.sent, shuffled.sent, all, allToo]
    exact reordered.flatMap_right _
  · intro checkId place
    by_cases own : ∃ trigger ∈ check.triggers, (checkId, place) = (check.id, trigger.id)
    · obtain ⟨trigger, isListed, same⟩ := own
      obtain ⟨rfl, rfl⟩ := Prod.mk.inj same
      rw [listed.keys trigger (all ▸ isListed)]
      exact shuffled.keys trigger (allToo.symm ▸ reordered.symm.subset isListed)
    · push Not at own
      rw [listed.others checkId place (all.symm ▸ own)]
      refine shuffled.others checkId place ?_
      rw [allToo]
      exact fun trigger isListed => own trigger (reordered.subset isListed)

/-- The triggers of a check with distinct ids that a run comes to act as each of
them would alone: they send the same messages, leave the same keys and come to
the sum of their counts, which is the number of messages that were accepted. If
none is out of range, these are all the triggers, in whatever order. -/
theorem triggers_act_alone (dispatcher : Dispatcher) (check : Check) (s : Surroundings)
    (loud : check.silenced = false) (distinct : (check.triggers.map (·.id)).Nodup)
    (steady : s.Steady) (reads : s.works .lastGood = true)
    (works : s.works .violationsSince = true) :
    ActAlone dispatcher check s ∧
      ∀ order : List Trigger, order.Perm check.triggers → heard check s.now = check.triggers →
        outcome dispatcher { check with triggers := order } s = outcome dispatcher check s ∧
          (messages dispatcher { check with triggers := order } s).Perm
            (messages dispatcher check s) ∧
          ∀ checkId place,
            (aftermath dispatcher { check with triggers := order } s).keys.get? checkId place =
              (aftermath dispatcher check s).keys.get? checkId place := by
  have listed : ActAlone dispatcher check s := actAlone loud distinct steady reads works
  refine ⟨listed, fun order reordered all => listed.reordered reordered all ?_⟩
  have stillDistinct : (order.map (·.id)).Nodup := (reordered.map _).nodup_iff.mpr distinct
  exact actAlone loud stillDistinct steady reads works

def secondMail : Trigger :=
  { mailAt 1 with id := 2 }

def mailedCheck : Check :=
  { pagedCheck with triggers := [pagedTrigger, secondMail] }

/-- Both triggers of the check go off, each of them as it would alone, and so
they do in the other order. -/
theorem page_and_mail_act_alone :
    ActAlone ⟨[], true, "daemon"⟩ mailedCheck violated ∧
      outcome ⟨[], true, "daemon"⟩ mailedCheck violated = some (.ok 2) ∧
      (aftermath ⟨[], true, "daemon"⟩ mailedCheck violated).keys.get? 1 1 = some "INC-1" ∧
      outcome ⟨[], true, "daemon"⟩ { mailedCheck with triggers := [secondMail, pagedTrigger] }
        violated = outcome ⟨[], true, "daemon"⟩ mailedCheck violated := by
  obtain ⟨alone, reordered⟩ := triggers_act_alone ⟨[], true, "daemon"⟩ mailedCheck violated rfl
    (by decide) (fun _ _ _ => rfl) rfl rfl
  exact ⟨alone, by decide +kernel, by decide +kernel,
    (reordered [secondMail, pagedTrigger] (.swap _ _ _) (by decide +kernel)).1⟩

/-- A mail that a trigger sends alone is not sent after a trigger whose window is
out of range: the run breaks off there, though the store works, the ways out are
steady and the ids are distinct. -/
theorem endless_window_silences_mail :
    pagedCheck.silenced = false ∧ ([endlessTrigger, mailAt 1].map (·.id)).Nodup ∧
      violated.Steady ∧ violated.works .lastGood = true ∧
      violated.works .violationsSince = true ∧
      outcome ⟨[], true, "daemon"⟩ (pagedCheck.solo (mailAt 1)) violated = some (.ok 1) ∧
      (messages ⟨[], true, "daemon"⟩ (pagedCheck.solo (mailAt 1)) violated).length = 1 ∧
      outcome ⟨[], true, "daemon"⟩ { pagedCheck with triggers := [endlessTrigger, mailAt 1] }
        violated = none ∧
      messages ⟨[], true, "daemon"⟩ { pagedCheck with triggers := [endlessTrigger, mailAt 1] }
        violated = [] :=
  ⟨rfl, by decide, fun _ _ _ => rfl, rfl, rfl, by decide +kernel, by decide +kernel,
    by decide +kernel, List.length_eq_zero_iff.mp (by decide +kernel)⟩

end Escalation

end FleetMonitor
