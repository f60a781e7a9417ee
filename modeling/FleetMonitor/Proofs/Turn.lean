import FleetMonitor.Proofs.Escalation

/-!
# A cycle up to the turn of a trigger

In its turn a trigger sends a message exactly if the number of violations in its
window calls for it.  It has its turn unless a time that the cycle needs before it is
out of range: the end of the life of the record, or the start of the window of a
trigger before it.
-/

set_option autoImplicit false

namespace FleetMonitor

open Routine Surroundings

namespace Routine

theorem bind_assoc {α β γ : Type} (first : Routine α) (second : α → Routine β)
    (third : β → Routine γ) :
    (first >>= second) >>= third = first >>= fun value => second value >>= third := by
  induction first with
  | done value => rfl
  | broken => rfl
  | ask request rest ih => exact congrArg (Routine.ask request) (funext ih)

end Routine

structure Standing where
  lastGood : Option Instant
  now : Instant
  delivered : Nat

namespace Escalation

/-! ## The escalation up to the turn of a trigger -/

/-- The escalation up to the turn of the trigger that follows some others. -/
def upTo (dispatcher : Dispatcher) (check : Check) (before : List Trigger) :
    Routine (Except StoreError Standing) := do
  match ← .request (.lastGood check.clusterId check.id) with
  | .error e => pure (.error e)
  | .ok lastGood => do
      let now ← .request .now
      match ← runAll dispatcher check (lastGood.map (·.created)) now before 0 with
      | .error e => pure (.error e)
      | .ok delivered => pure (.ok ⟨lastGood.map (·.created), now, delivered⟩)

def fromTurn (dispatcher : Dispatcher) (check : Check) (trigger : Trigger)
    (after : List Trigger) : Except StoreError Standing → Routine (Except StoreError Nat)
  | .error e => pure (.error e)
  | .ok standing => do
      match ← runTrigger dispatcher check standing.lastGood standing.now trigger with
      | .error e => pure (.error e)
      | .ok sent =>
          runAll dispatcher check standing.lastGood standing.now after
            (standing.delivered + sent.toNat)

theorem runAll_cons (dispatcher : Dispatcher) (check : Check) (lastGood : Option Instant)
    (now : Instant) (trigger : Trigger) (rest : List Trigger) (delivered : Nat) :
    runAll dispatcher check lastGood now (trigger :: rest) delivered =
      (do
        match ← runTrigger dispatcher check lastGood now trigger with
        | .error e => pure (.error e)
        | .ok sent => runAll dispatcher check lastGood now rest (delivered + sent.toNat)) :=
  rfl

theorem runAll_append (dispatcher : Dispatcher) (check : Check) (lastGood : Option Instant)
    (now : Instant) (before after : List Trigger) (delivered : Nat) :
    runAll dispatcher check lastGood now (before ++ after) delivered =
      (do
        match ← runAll dispatcher check lastGood now before delivered with
        | .error e => pure (.error e)
        | .ok total => runAll dispatcher check lastGood now after total) := by
  induction before generalizing delivered with
  | nil => rfl
  | cons trigger rest ih =>
      rw [List.cons_append, runAll_cons, runAll_cons, bind_assoc]
      refine congrArg (Routine.bind _) (funext fun result => ?_)
      cases result with
      | error e => rfl
      | ok sent => exact ih _

/-- Every trigger of a check that is not silenced has its turn. -/
theorem runTriggers_eq_upTo (dispatcher : Dispatcher) (check : Check)
    (loud : check.silenced = false) (before after : List Trigger) (trigger : Trigger)
    (listed : check.triggers = before ++ trigger :: after) :
    runTriggers dispatcher check =
      upTo dispatcher check before >>= fromTurn dispatcher check trigger after := by
  have someTrigger : check.triggers.isEmpty = false := by
    rw [listed]
    cases before <;> rfl
  unfold runTriggers upTo
  simp only [loud, someTrigger, Bool.or_false, Bool.false_eq_true, if_false]
  rw [bind_assoc]
  refine congrArg (Routine.bind _) (funext fun lastGood => ?_)
  cases lastGood with
  | error e => rfl
  | ok lastGood =>
      simp only
      rw [bind_assoc]
      refine congrArg (Routine.bind _) (funext fun now => ?_)
      rw [listed, runAll_append, bind_assoc]
      refine congrArg (Routine.bind _) (funext fun total => ?_)
      cases total with
      | error e => rfl
      | ok total => rfl

/-- An escalation asks for the newest passing record and for the time, and goes by
them from then on. -/
theorem upTo_run_asked (dispatcher : Dispatcher) (check : Check) (before : List Trigger)
    (clock : Nat → Instant) (state : Nat × Surroundings) (store : MemoryStore)
    (memory : state.2.store = .memory store) (working : state.2.faults = []) :
    ∃ asked : Nat × Surroundings, asked.1 = state.1 + 2 ∧ SameGround state.2 asked.2 ∧
      (upTo dispatcher check before).run (answerAt clock) state =
        (runAll dispatcher check ((store.lastGood check.clusterId check.id).map (·.created))
            (clock (state.1 + 1)) before 0 >>= fun result =>
          match result with
          | .error e => pure (.error e)
          | .ok delivered => pure (.ok (Standing.mk
              ((store.lastGood check.clusterId check.id).map (·.created))
              (clock (state.1 + 1)) delivered))).run (answerAt clock) asked := by
  let asked := answerAt clock (.lastGood check.clusterId check.id) state
  have answered : asked.1 = .ok (store.lastGood check.clusterId check.id) := by
    simp [asked, answerAt, answer, guarded, memory, working, Store.lastGood]
  let timed := answerAt clock .now asked.2
  have askedGround : SameGround state.2 asked.2.2 :=
    answerAt_sameGround clock (.lastGood check.clusterId check.id) state rfl
  have timedGround : SameGround asked.2.2 timed.2.2 :=
    answerAt_sameGround clock .now asked.2 rfl
  refine ⟨timed.2, rfl, askedGround.trans timedGround, ?_⟩
  unfold upTo
  rw [run_bind_some (answerAt clock) (Routine.request (.lastGood check.clusterId check.id)) _ state
    asked.2 asked.1 rfl, answered]
  exact run_bind_some (answerAt clock) (Routine.request .now) _ asked.2 timed.2 timed.1 rfl

theorem upTo_run (dispatcher : Dispatcher) (check : Check) (before : List Trigger)
    (clock : Nat → Instant) (state : Nat × Surroundings) (store : MemoryStore)
    (memory : state.2.store = .memory store) (working : state.2.faults = [])
    (inRange : ∀ trigger ∈ before, trigger.windowStart? (clock (state.1 + 1)) ≠ none) :
    ∃ delivered later,
      (upTo dispatcher check before).run (answerAt clock) state =
          (some (.ok ⟨(store.lastGood check.clusterId check.id).map (·.created),
            clock (state.1 + 1), delivered⟩), later) ∧
        state.1 + 2 ≤ later.1 ∧ SameGround state.2 later.2 := by
  obtain ⟨asked, index, ground, ran⟩ :=
    upTo_run_asked dispatcher check before clock state store memory working
  obtain ⟨delivered, later, allRan, onward, allGround⟩ :=
    runAll_run dispatcher clock check (clock (state.1 + 1)) before 0 inRange asked store
      (ground.store.trans memory) (ground.faults.trans working)
  refine ⟨delivered, later, ?_, index ▸ onward, ground.trans allGround⟩
  rw [ran, run_bind_some (answerAt clock) _ _ asked later _ allRan]
  rfl

theorem upTo_broken (dispatcher : Dispatcher) (check : Check) (before : List Trigger)
    (clock : Nat → Instant) (state : Nat × Surroundings) (store : MemoryStore)
    (memory : state.2.store = .memory store) (working : state.2.faults = [])
    (outOfRange : ∃ trigger ∈ before, trigger.windowStart? (clock (state.1 + 1)) = none) :
    ((upTo dispatcher check before).run (answerAt clock) state).1 = none := by
  obtain ⟨asked, _, ground, ran⟩ :=
    upTo_run_asked dispatcher check before clock state store memory working
  have broken := runAll_broken dispatcher clock check (clock (state.1 + 1)) before 0 outOfRange
    asked store (ground.store.trans memory) (ground.faults.trans working)
  rw [ran, run_bind_none (answerAt clock) _ _ asked _ (Prod.ext broken rfl)]

end Escalation

theorem Store.create_memory (store : MemoryStore) (created expires : Instant)
    (clusterId checkId : Int) (failing : Bool) (expressions : List Expression) (seconds : Int)
    (later : created.plus? seconds = some expires) :
    (Store.memory store).create created clusterId checkId failing expressions seconds =
      some (.ok (⟨clusterId, checkId, created, failing, expressions, expires⟩,
        .memory (store.addRecord
          ⟨clusterId, checkId, created, failing, expressions, expires⟩))) := by
  rw [Store.create, later]
  rfl

structure Turn where
  failing : Bool
  standing : Standing

namespace Pipeline

/-! ## A cycle up to the turn of a trigger -/

/-- A cycle up to the turn of the trigger that follows some others; or how the cycle
ended before. -/
def upTo (pipeline : Pipeline) (check : Check) (before : List Trigger) :
    Routine (Except (Except CycleError CycleReport) Turn) := do
  match ← Evaluation.evaluate pipeline.freshness check with
  | .error e => pure (.error (.error (.evaluation e)))
  | .ok (expressions, failing) =>
      if expressions.isEmpty then pure (.error (.ok ⟨failing, false, 0⟩))
      else do
        let seconds ← pipeline.retention check
        let written ← .request (.create check.clusterId check.id failing expressions seconds)
        match ← .within written with
        | .error e => pure (.error (.error (.record e)))
        | .ok _ =>
            match ← Escalation.upTo pipeline.dispatcher check before with
            | .error e => pure (.error (.error (.triggers e)))
            | .ok standing => pure (.ok ⟨failing, standing⟩)

def fromTurn (pipeline : Pipeline) (check : Check) (trigger : Trigger) (after : List Trigger) :
    Except (Except CycleError CycleReport) Turn → Routine (Except CycleError CycleReport)
  | .error ended => pure ended
  | .ok turn => do
      match ← Escalation.fromTurn pipeline.dispatcher check trigger after (.ok turn.standing) with
      | .error e => pure (.error (.triggers e))
      | .ok dispatched => pure (.ok ⟨turn.failing, true, dispatched⟩)

theorem cycle_eq_upTo (pipeline : Pipeline) (check : Check)
    (loud : check.silenced = false) (before after : List Trigger) (trigger : Trigger)
    (listed : check.triggers = before ++ trigger :: after) :
    pipeline.cycle check =
      pipeline.upTo check before >>= pipeline.fromTurn check trigger after := by
  unfold cycle upTo
  rw [bind_assoc]
  refine congrArg (Routine.bind _) (funext fun evaluated => ?_)
  cases evaluated with
  | error e => rfl
  | ok evaluated =>
      obtain ⟨expressions, failing⟩ := evaluated
      simp only
      split
      · rfl
      · rw [bind_assoc]
        refine congrArg (Routine.bind _) (funext fun seconds => ?_)
        rw [bind_assoc]
        refine congrArg (Routine.bind _) (funext fun written => ?_)
        rw [bind_assoc]
        refine congrArg (Routine.bind _) (funext fun record => ?_)
        cases record with
        | error e => rfl
        | ok record =>
            simp only
            rw [Escalation.runTriggers_eq_upTo pipeline.dispatcher check loud before after trigger
              listed, bind_assoc, bind_assoc]
            refine congrArg (Routine.bind _) (funext fun standing => ?_)
            cases standing with
            | error e => rfl
            | ok standing => rfl

def days (pipeline : Pipeline) (store : MemoryStore) (check : Check) : Nat :=
  (store.retentionDays check.clusterId recordTable).getD pipeline.retentionDays

def expiry? (pipeline : Pipeline) (store : MemoryStore) (check : Check) (created : Instant) :
    Option Instant :=
  (Instant.days? (pipeline.days store check)).bind created.plus?

theorem retention_run (pipeline : Pipeline) (check : Check) (clock : Nat → Instant)
    (state : Nat × Surroundings) (store : MemoryStore) (memory : state.2.store = .memory store)
    (working : state.2.faults = []) :
    (pipeline.retention check).run (answerAt clock) state =
      (Instant.days? (pipeline.days store check),
        (state.1 + 1, { state.2 with now := clock state.1 })) := by
  let asked := answerAt clock (.retentionDays check.clusterId recordTable) state
  have answered : asked.1 = .ok (store.retentionDays check.clusterId recordTable) := by
    simp [asked, answerAt, answer, guarded, memory, working, Store.retentionDays]
  have ran : ∀ days : Option Int, (Routine.within days).run (answerAt clock) asked.2 =
      (days, asked.2) := by
    intro days
    cases days <;> rfl
  unfold retention days
  rw [run_bind_some (answerAt clock) (Routine.request (.retentionDays check.clusterId recordTable))
    _ state asked.2 asked.1 rfl, answered]
  cases store.retentionDays check.clusterId recordTable with
  | none => exact ran _
  | some days => exact ran _

def recorded (check : Check) (created expires : Instant) (failing : Bool)
    (expressions : List Expression) (store : MemoryStore) : MemoryStore :=
  store.addRecord ⟨check.clusterId, check.id, created, failing, expressions, expires⟩

theorem upTo_unrecorded (pipeline : Pipeline) (check : Check) (before : List Trigger)
    (clock : Nat → Instant) (state evaluated : Nat × Surroundings)
    (expressions : List Expression) (failing : Bool)
    (found : (Evaluation.evaluate pipeline.freshness check).run (answerAt clock) state =
      (some (.ok (expressions, failing)), evaluated))
    (someExpression : expressions ≠ []) (store : MemoryStore)
    (memory : evaluated.2.store = .memory store) (working : evaluated.2.faults = [])
    (endless : pipeline.expiry? store check (clock (evaluated.1 + 1)) = none) :
    ((pipeline.upTo check before).run (answerAt clock) state).1 = none := by
  have notEmpty : expressions.isEmpty = false := by simpa using someExpression
  have retained := retention_run pipeline check clock evaluated store memory working
  unfold upTo
  rw [run_bind_some (answerAt clock) _ _ state evaluated _ found]
  simp only [notEmpty, Bool.false_eq_true, if_false]
  unfold expiry? at endless
  cases days : Instant.days? (pipeline.days store check) with
  | none =>
      rw [days] at retained
      rw [run_bind_none (answerAt clock) _ _ evaluated _ retained]
  | some seconds =>
      rw [days] at retained endless
      rw [run_bind_some (answerAt clock) _ _ evaluated _ _ retained]
      let asked := answerAt clock
        (.create check.clusterId check.id failing expressions seconds)
        (evaluated.1 + 1, { evaluated.2 with now := clock evaluated.1 })
      have unanswered : asked.1 = none := by
        have missing : (clock (evaluated.1 + 1)).plus? seconds = none := endless
        simp [asked, answerAt, answer, Surroundings.create, guardedTimely, memory, working,
          Store.create, missing]
      rw [run_bind_some (answerAt clock) (Routine.request _) _ _ asked.2 asked.1 rfl, unanswered]
      rfl

theorem upTo_recorded (pipeline : Pipeline) (check : Check) (before : List Trigger)
    (clock : Nat → Instant) (state evaluated : Nat × Surroundings)
    (expressions : List Expression) (failing : Bool)
    (found : (Evaluation.evaluate pipeline.freshness check).run (answerAt clock) state =
      (some (.ok (expressions, failing)), evaluated))
    (someExpression : expressions ≠ []) (store : MemoryStore)
    (memory : evaluated.2.store = .memory store) (working : evaluated.2.faults = [])
    (expires : Instant)
    (ending : pipeline.expiry? store check (clock (evaluated.1 + 1)) = some expires) :
    ∃ written : Nat × Surroundings, written.1 = evaluated.1 + 2 ∧
      written.2.store = .memory
        (recorded check (clock (evaluated.1 + 1)) expires failing expressions store) ∧
      written.2.faults = [] ∧ written.2.mailReply = evaluated.2.mailReply ∧
      written.2.pageReply = evaluated.2.pageReply ∧
      (pipeline.upTo check before).run (answerAt clock) state =
        (Escalation.upTo pipeline.dispatcher check before >>= fun result =>
          match result with
          | .error e => pure (.error (.error (.triggers e)))
          | .ok standing => pure (.ok ⟨failing, standing⟩)).run (answerAt clock) written := by
  have notEmpty : expressions.isEmpty = false := by simpa using someExpression
  have retained := retention_run pipeline check clock evaluated store memory working
  unfold expiry? at ending
  obtain ⟨seconds, days, later⟩ := Option.bind_eq_some_iff.mp ending
  rw [days] at retained
  let asked := answerAt clock
    (.create check.clusterId check.id failing expressions seconds)
    (evaluated.1 + 1, { evaluated.2 with now := clock evaluated.1 })
  have answered : asked =
      (some (.ok ⟨check.clusterId, check.id, clock (evaluated.1 + 1), failing, expressions,
          expires⟩),
        (evaluated.1 + 2,
          { evaluated.2 with
            now := clock (evaluated.1 + 1)
            store := .memory
              (recorded check (clock (evaluated.1 + 1)) expires failing expressions store) })) := by
    have made := Store.create_memory store _ _ check.clusterId check.id failing expressions seconds
      later
    simp [asked, answerAt, answer, Surroundings.create, guardedTimely, memory, working, made,
      recorded]
  refine ⟨asked.2, ?_, ?_, ?_, ?_, ?_, ?_⟩
  · rw [answered]
  · rw [answered]
  · rw [answered]
    exact working
  · rw [answered]
  · rw [answered]
  · unfold upTo
    rw [run_bind_some (answerAt clock) _ _ state evaluated _ found]
    simp only [notEmpty, Bool.false_eq_true, if_false]
    rw [run_bind_some (answerAt clock) _ _ evaluated _ _ retained,
      run_bind_some (answerAt clock) (Routine.request _) _ _ asked.2 asked.1 rfl, answered]
    rfl

/-- In a cycle from some state, a message goes out for the trigger that follows some
others in its turn. -/
def Dispatches (pipeline : Pipeline) (clock : Nat → Instant) (check : Check)
    (before : List Trigger) (trigger : Trigger) (state : Nat × Surroundings) : Prop :=
  ∃ turn reached after,
    (pipeline.upTo check before).run (answerAt clock) state = (some (.ok turn), reached) ∧
      (Escalation.runTrigger pipeline.dispatcher check turn.standing.lastGood turn.standing.now
        trigger).run (answerAt clock) reached = (some (.ok true), after)

def turnReading (pipeline : Pipeline) (clock : Nat → Instant) (check : Check)
    (before : List Trigger) (state : Nat × Surroundings) : Nat :=
  ((pipeline.upTo check before).run (answerAt clock) state).2.1

theorem not_dispatches_of_broken (pipeline : Pipeline) (clock : Nat → Instant) (check : Check)
    (before : List Trigger) (trigger : Trigger) (state : Nat × Surroundings)
    (broken : ((pipeline.upTo check before).run (answerAt clock) state).1 = none) :
    ¬ pipeline.Dispatches clock check before trigger state := by
  rintro ⟨turn, reached, after, ran, _⟩
  rw [ran] at broken
  simp at broken

theorem dispatches_iff_sends (pipeline : Pipeline) (clock : Nat → Instant) (check : Check)
    (before : List Trigger) (trigger : Trigger) (state reached : Nat × Surroundings) (turn : Turn)
    (ran : (pipeline.upTo check before).run (answerAt clock) state = (some (.ok turn), reached)) :
    pipeline.Dispatches clock check before trigger state ↔
      ∃ after, (Escalation.runTrigger pipeline.dispatcher check turn.standing.lastGood
        turn.standing.now trigger).run (answerAt clock) reached = (some (.ok true), after) := by
  constructor
  · rintro ⟨turn', reached', after, ran', sends⟩
    obtain ⟨turnEq, rfl⟩ := Prod.mk.inj (ran.symm.trans ran')
    obtain rfl := Except.ok.inj (Option.some.inj turnEq)
    exact ⟨after, sends⟩
  · rintro ⟨after, sends⟩
    exact ⟨turn, reached, after, ran, sends⟩

/-- A trigger sends a message in a cycle exactly if all times that the cycle needs up to
its turn are in range and the number of violations calls for it. -/
theorem dispatches_iff (pipeline : Pipeline) (check : Check) (before : List Trigger)
    (trigger : Trigger) (clock : Nat → Instant) (state evaluated : Nat × Surroundings)
    (expressions : List Expression) (failing : Bool)
    (found : (Evaluation.evaluate pipeline.freshness check).run (answerAt clock) state =
      (some (.ok (expressions, failing)), evaluated))
    (someExpression : expressions ≠ []) (store : MemoryStore)
    (memory : evaluated.2.store = .memory store) (working : evaluated.2.faults = [])
    (accepts : pipeline.dispatcher.Accepts evaluated.2 trigger.action) :
    pipeline.Dispatches clock check before trigger state ↔
      ∃ expires start,
        pipeline.expiry? store check (clock (evaluated.1 + 1)) = some expires ∧
          (∀ earlier ∈ before, earlier.windowStart? (clock (evaluated.1 + 3)) ≠ none) ∧
          trigger.windowStart? (clock (evaluated.1 + 3)) = some start ∧
          trigger.Calls (violations
            (recorded check (clock (evaluated.1 + 1)) expires failing expressions store).records
            check start (clock (pipeline.turnReading clock check before state))) := by
  cases ending : pipeline.expiry? store check (clock (evaluated.1 + 1)) with
  | none =>
      have broken := upTo_unrecorded pipeline check before clock state evaluated expressions failing
        found someExpression store memory working ending
      refine iff_of_false (not_dispatches_of_broken pipeline clock check before trigger state broken)
        ?_
      rintro ⟨expires, start, isExpiry, _⟩
      simp at isExpiry
  | some expires =>
      obtain ⟨written, index, records, worksOn, mails, pages, upToRan⟩ :=
        upTo_recorded pipeline check before clock state evaluated expressions failing found
          someExpression store memory working expires ending
      have timeEq : evaluated.1 + 3 = written.1 + 1 := by omega
      rw [timeEq]
      by_cases inRange : ∀ earlier ∈ before, earlier.windowStart? (clock (written.1 + 1)) ≠ none
      · obtain ⟨delivered, reached, escalated, _, ground⟩ :=
          Escalation.upTo_run pipeline.dispatcher check before clock written _ records worksOn
            inRange
        rw [run_bind_some (answerAt clock) _ _ written reached _ escalated] at upToRan
        have readingEq : pipeline.turnReading clock check before state = reached.1 :=
          congrArg (fun result => result.2.1) upToRan
        have acceptsStill := Dispatcher.Accepts.of_replies pipeline.dispatcher _ _
          (ground.mailReply.trans mails) (ground.pageReply.trans pages) _ accepts
        rw [readingEq, dispatches_iff_sends pipeline clock check before trigger state reached _
          upToRan, Escalation.sends_iff pipeline.dispatcher clock check _ trigger reached _
          (ground.store.trans records) (ground.faults.trans worksOn) acceptsStill]
        constructor
        · rintro ⟨start, window, calls⟩
          exact ⟨expires, start, rfl, inRange, window, calls⟩
        · rintro ⟨_, start, sameExpires, _, window, calls⟩
          obtain rfl := Option.some.inj sameExpires
          exact ⟨start, window, calls⟩
      · have stops := Escalation.upTo_broken pipeline.dispatcher check before clock written _
          records worksOn (by simpa using inRange)
        rw [run_bind_none (answerAt clock) _ _ written _ (Prod.ext stops rfl)] at upToRan
        refine iff_of_false (not_dispatches_of_broken pipeline clock check before trigger state
          (congrArg Prod.fst upToRan)) ?_
        rintro ⟨_, _, _, allInRange, _⟩
        exact inRange allInRange

end Pipeline

end FleetMonitor
