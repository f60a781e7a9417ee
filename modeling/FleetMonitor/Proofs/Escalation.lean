import FleetMonitor.Proofs.Clocked

/-!
# The turn of a trigger

A trigger counts the violations in its window that are later than every passing
record, and a message goes out for it while the count lies in its band.  The lower
bound that the store is asked with stands for both conditions at once.
-/

set_option autoImplicit false

namespace FleetMonitor

theorem Instant.not_le_iff (a b : Instant) : ¬ a ≤ b ↔ b < a :=
  Int.not_le

theorem Instant.later_lt_iff (a b c : Instant) : a.later b < c ↔ b < c ∧ a < c := by
  unfold Instant.later
  split
  · rename_i ordered
    exact ⟨fun before => ⟨before, Int.lt_of_le_of_lt ordered before⟩, fun both => both.1⟩
  · rename_i unordered
    rw [Instant.not_le_iff] at unordered
    exact ⟨fun before => ⟨Int.lt_trans unordered before, before⟩, fun both => both.2⟩

/-! ## The newest passing record -/

namespace MemoryStore

def newer (best : Option CycleRecord) (record : CycleRecord) : Option CycleRecord :=
  match best with
  | none => some record
  | some other => if other.created ≤ record.created then some record else some other

theorem foldl_newer (records : List CycleRecord) (first : CycleRecord) :
    ∃ newest, records.foldl newer (some first) = some newest ∧ newest ∈ first :: records ∧
      ∀ record ∈ first :: records, record.created ≤ newest.created := by
  induction records generalizing first with
  | nil =>
      refine ⟨first, rfl, by simp, fun record member => ?_⟩
      rw [List.mem_singleton.mp member]
      exact Int.le_refl _
  | cons record rest ih =>
      by_cases ordered : first.created ≤ record.created
      · obtain ⟨newest, folded, member, greatest⟩ := ih record
        refine ⟨newest, ?_, List.mem_cons_of_mem _ member, ?_⟩
        · rw [List.foldl_cons, newer, if_pos ordered, folded]
        · intro other otherMem
          rcases List.mem_cons.mp otherMem with rfl | later
          · exact Int.le_trans ordered (greatest record (by simp))
          · exact greatest other later
      · obtain ⟨newest, folded, member, greatest⟩ := ih first
        refine ⟨newest, ?_, ?_, ?_⟩
        · rw [List.foldl_cons, newer, if_neg ordered, folded]
        · rcases List.mem_cons.mp member with same | later
          · rw [same]
            exact List.mem_cons_self
          · exact List.mem_cons_of_mem _ (List.mem_cons_of_mem _ later)
        · intro other otherMem
          rcases List.mem_cons.mp otherMem with rfl | inRest
          · exact greatest other (by simp)
          · rcases List.mem_cons.mp inRest with rfl | later
            · have before := (Instant.not_le_iff _ _).mp ordered
              exact Int.le_trans (Int.le_of_lt before) (greatest first (by simp))
            · exact greatest other (by simp [later])

def passes (clusterId checkId : Int) (record : CycleRecord) : Bool :=
  record.belongs clusterId checkId && !record.failing

theorem after_lastGood_iff (store : MemoryStore) (clusterId checkId : Int) (time : Instant) :
    (∀ good, store.lastGood clusterId checkId = some good → good.created < time) ↔
      ∀ record ∈ store.records, passes clusterId checkId record = true →
        record.created < time := by
  have folded : store.lastGood clusterId checkId =
      (store.records.filter (passes clusterId checkId)).foldl newer none := rfl
  rw [folded]
  cases passing : store.records.filter (passes clusterId checkId) with
  | nil =>
      constructor
      · intro _ record member isPass
        have inPassing := List.mem_filter.mpr ⟨member, isPass⟩
        rw [passing] at inPassing
        simp at inPassing
      · intro _ good found
        simp at found
  | cons first rest =>
      obtain ⟨newest, newestEq, newestMem, greatest⟩ := foldl_newer rest first
      have started : (first :: rest).foldl newer none = some newest := newestEq
      rw [started]
      constructor
      · intro before record member isPass
        have inPassing := List.mem_filter.mpr ⟨member, isPass⟩
        rw [passing] at inPassing
        exact Int.lt_of_le_of_lt (greatest record inPassing) (before newest rfl)
      · rintro before good found
        rw [← Option.some.inj found]
        rw [← passing] at newestMem
        obtain ⟨member, isPass⟩ := List.mem_filter.mp newestMem
        exact before newest member isPass

end MemoryStore

/-! ## Counting violations -/

def Trigger.windowStart? (trigger : Trigger) (now : Instant) : Option Instant :=
  trigger.window?.bind now.minus?

/-- There are violations, and their number lies in the band of the trigger; numbers that
64 bits do not hold are taken for the largest. -/
def Trigger.Calls (trigger : Trigger) (count : Nat) : Prop :=
  1 ≤ count ∧ trigger.low ≤ Trigger.clamp count ∧ Trigger.clamp count ≤ trigger.highBound

/-- The record counts for a check: it failed after the start of a window and after every
passing record of the check, and its life has not ended. -/
def CycleRecord.counts (records : List CycleRecord) (check : Check) (start reading : Instant)
    (record : CycleRecord) : Bool :=
  record.belongs check.clusterId check.id && record.failing &&
    decide (start < record.created) && record.retained reading &&
    records.all fun good =>
      !MemoryStore.passes check.clusterId check.id good || decide (good.created < record.created)

def violations (records : List CycleRecord) (check : Check) (start reading : Instant) : Nat :=
  (records.filter (CycleRecord.counts records check start reading)).length

namespace Escalation

theorem bound?_eq (lastGood : Option Instant) (now : Instant) (trigger : Trigger) :
    bound? lastGood now trigger =
      (trigger.windowStart? now).map fun start =>
        match lastGood with
        | some good => good.later start
        | none => start := by
  unfold bound? Trigger.windowStart?
  cases trigger.window? with
  | none => rfl
  | some seconds =>
      change windowBound? lastGood now seconds = _
      rw [windowBound?, Option.bind_some]
      cases lastGood <;> rfl

theorem violationsSince_length (store : MemoryStore) (check : Check) (now start bound reading : Instant)
    (trigger : Trigger) (window : trigger.windowStart? now = some start)
    (bounded : bound? ((store.lastGood check.clusterId check.id).map (·.created)) now trigger =
      some bound) :
    (store.violationsSince reading check.clusterId check.id bound).length =
      violations store.records check start reading := by
  have after : ∀ time : Instant, bound < time ↔ start < time ∧
      ∀ record ∈ store.records, MemoryStore.passes check.clusterId check.id record = true →
        record.created < time := by
    intro time
    rw [← MemoryStore.after_lastGood_iff]
    rw [bound?_eq, window, Option.map_some, Option.some.injEq] at bounded
    subst bounded
    cases found : store.lastGood check.clusterId check.id with
    | none => simp
    | some good =>
        simp only [Option.map_some, Option.some.injEq, forall_eq']
        exact Instant.later_lt_iff good.created start time
  rw [MemoryStore.violationsSince, CycleRecord.newestFirst, List.length_mergeSort, violations]
  congr 1
  refine List.filter_congr fun record _ => ?_
  rw [Bool.eq_iff_iff]
  simp only [CycleRecord.violatesAfter, CycleRecord.counts, Bool.and_eq_true, decide_eq_true_eq,
    after, List.all_eq_true, Bool.or_eq_true, Bool.not_eq_true']
  constructor
  · rintro ⟨own, ⟨failing, opened, later⟩, retained⟩
    refine ⟨⟨⟨⟨own, failing⟩, opened⟩, retained⟩, fun good member => ?_⟩
    cases isPass : MemoryStore.passes check.clusterId check.id good with
    | false => exact Or.inl rfl
    | true => exact Or.inr (later good member isPass)
  · rintro ⟨⟨⟨⟨own, failing⟩, opened⟩, retained⟩, later⟩
    refine ⟨own, ⟨failing, opened, fun good member isPass => ?_⟩, retained⟩
    rcases later good member with noPass | before
    · rw [isPass] at noPass
      simp at noPass
    · exact before

end Escalation

namespace Dispatcher

open Routine Surroundings

/-! ## Sending -/

theorem hand_calm (dispatcher : Dispatcher) (mail : Mail) : Calm (dispatcher.hand mail) := by
  unfold hand
  split
  · refine (Calm.request _ rfl).bind fun reply => ?_
    cases reply <;> exact .done _
  · exact .done _

theorem dispatch_calm (dispatcher : Dispatcher) (check : Check) (trigger : Trigger)
    (count : Nat) (newest : Option CycleRecord) (openKey : Option String) :
    Calm (dispatcher.dispatch check trigger count newest openKey) := by
  unfold dispatch
  cases trigger.action with
  | nothing => exact .done _
  | email address =>
      simp only
      split
      · exact .done _
      · exact hand_calm dispatcher _
  | sms phone carrier =>
      simp only
      split
      · exact .done _
      · split
        · exact hand_calm dispatcher _
        · exact .done _
  | pager serviceKey description configured =>
      refine (Calm.request _ rfl).bind fun reply => ?_
      cases reply <;> exact .done _

def Accepts (dispatcher : Dispatcher) (s : Surroundings) : Action → Prop
  | .nothing => False
  | .email address =>
      Text.allBlank address = false ∧ dispatcher.hasMailer = true ∧
        ∀ mail : Mail, mail.recipient = Text.trim address → s.mailReply mail = .ok ()
  | .sms phone carrier =>
      (Notice.phoneDigits phone).length = 10 ∧ dispatcher.hasMailer = true ∧
        ∃ gateway, dispatcher.gateways.lookup (Text.lower carrier) = some gateway ∧
          ∀ mail : Mail, mail.recipient = Notice.phoneDigits phone ++ "@" ++ gateway →
            s.mailReply mail = .ok ()
  | .pager serviceKey _ _ =>
      ∀ calls (page : Page), page.serviceKey = serviceKey → ∃ key, s.pageReply calls page = .ok key

theorem hand_delivers (dispatcher : Dispatcher) (clock : Nat → Instant) (mail : Mail)
    (state : Nat × Surroundings) (mailer : dispatcher.hasMailer = true)
    (accepted : state.2.mailReply mail = .ok ()) :
    ∃ later, (dispatcher.hand mail).run (answerAt clock) state = (some (.ok .sent), later) := by
  unfold hand
  rw [if_pos mailer]
  refine ⟨(answerAt clock (.mail mail) state).2, ?_⟩
  have reply : (answerAt clock (.mail mail) state).1 = .ok () := by
    simp [answerAt, answer, takeMail, accepted]
  rw [run_bind_some (answerAt clock) (Routine.request (.mail mail)) _ state
    (answerAt clock (.mail mail) state).2 (answerAt clock (.mail mail) state).1 rfl, reply]
  rfl

theorem dispatch_delivers (dispatcher : Dispatcher) (clock : Nat → Instant) (check : Check)
    (trigger : Trigger) (count : Nat) (newest : Option CycleRecord) (openKey : Option String)
    (state : Nat × Surroundings) (accepts : dispatcher.Accepts state.2 trigger.action) :
    ∃ delivery later,
      (dispatcher.dispatch check trigger count newest openKey).run (answerAt clock) state =
          (some (.ok delivery), later) ∧ delivery.delivered = true := by
  unfold dispatch
  cases action : trigger.action with
  | nothing =>
      rw [action] at accepts
      exact accepts.elim
  | email address =>
      rw [action] at accepts
      obtain ⟨notBlank, mailer, takes⟩ := accepts
      simp only [notBlank, Bool.false_eq_true, if_false]
      have accepted := takes ⟨Text.trim address, Notice.summary check count,
        (newest.map (Notice.body check)).getD ""⟩ rfl
      obtain ⟨later, ran⟩ := hand_delivers dispatcher clock _ state mailer accepted
      exact ⟨.sent, later, ran, rfl⟩
  | sms phone carrier =>
      rw [action] at accepts
      obtain ⟨digits, mailer, gateway, known, takes⟩ := accepts
      simp only [known, digits, if_true]
      have accepted := takes
        ⟨Notice.phoneDigits phone ++ "@" ++ gateway, "", Notice.summary check count⟩ rfl
      obtain ⟨later, ran⟩ := hand_delivers dispatcher clock _ state mailer accepted
      exact ⟨.sent, later, ran, rfl⟩
  | pager serviceKey description configured =>
      rw [action] at accepts
      let page : Page := ⟨serviceKey, description, chosenKey configured openKey,
        dispatcher.client, details newest⟩
      obtain ⟨key, reply⟩ := accepts state.2.outbox.pages.length page rfl
      have given : (answerAt clock (.page page) state).1 = .ok key := reply
      refine ⟨.incident key, (answerAt clock (.page page) state).2, ?_, rfl⟩
      simp only
      rw [run_bind_some (answerAt clock) (Routine.request (.page page)) _ state
        (answerAt clock (.page page) state).2 (answerAt clock (.page page) state).1 rfl, given]
      rfl

theorem Accepts.of_replies (dispatcher : Dispatcher) (s later : Surroundings)
    (mails : later.mailReply = s.mailReply) (pages : later.pageReply = s.pageReply)
    (action : Action) (accepts : dispatcher.Accepts s action) :
    dispatcher.Accepts later action := by
  cases action <;> simp only [Accepts, mails, pages] at accepts ⊢ <;> exact accepts

end Dispatcher

namespace Escalation

open Routine Surroundings

/-! ## One trigger -/

theorem act_calm (dispatcher : Dispatcher) (check : Check) (trigger : Trigger)
    (found : List CycleRecord) : Calm (act dispatcher check trigger found) := by
  refine (Calm.request _ rfl).bind fun openKey => ?_
  refine (Dispatcher.dispatch_calm dispatcher check trigger _ _ _).bind fun result => ?_
  cases result with
  | error cause => exact .done _
  | ok delivery =>
      cases delivery with
      | skipped => exact .done _
      | sent => exact .done _
      | incident key =>
          simp only
          split
          · exact .done _
          · exact (Calm.request _ rfl).bind fun _ => .done _

theorem runTrigger_quiet (dispatcher : Dispatcher) (check : Check) (lastGood : Option Instant)
    (now : Instant) (trigger : Trigger) :
    Quiet (runTrigger dispatcher check lastGood now trigger) := by
  refine (Quiet.within _).bind fun bound => (Quiet.request _ rfl).bind fun found => ?_
  cases found with
  | error e => exact .done _
  | ok found =>
      simp only
      split
      · exact (Quiet.request _ rfl).bind fun _ => .done _
      · exact (act_calm dispatcher check trigger found).quiet.bind fun sent => .done _

theorem runAll_quiet (dispatcher : Dispatcher) (check : Check) (lastGood : Option Instant)
    (now : Instant) (triggers : List Trigger) (delivered : Nat) :
    Quiet (runAll dispatcher check lastGood now triggers delivered) := by
  induction triggers generalizing delivered with
  | nil => exact .done _
  | cons trigger rest ih =>
      refine (runTrigger_quiet dispatcher check lastGood now trigger).bind fun result => ?_
      cases result with
      | error e => exact .done _
      | ok sent => exact ih _

theorem runTriggers_quiet (dispatcher : Dispatcher) (check : Check) :
    Quiet (runTriggers dispatcher check) := by
  unfold runTriggers
  split
  · exact .done _
  · refine (Quiet.request _ rfl).bind fun lastGood => ?_
    cases lastGood with
    | error e => exact .done _
    | ok lastGood =>
        exact (Quiet.request _ rfl).bind fun now => runAll_quiet dispatcher check _ now _ _

theorem act_sends (dispatcher : Dispatcher) (clock : Nat → Instant) (check : Check)
    (trigger : Trigger) (found : List CycleRecord) (state : Nat × Surroundings)
    (accepts : dispatcher.Accepts state.2 trigger.action) :
    ∃ later, (act dispatcher check trigger found).run (answerAt clock) state =
      (some true, later) := by
  let asked := answerAt clock (.incidentKey check.id trigger.id) state
  have sameGround : SameGround state.2 asked.2.2 :=
    answerAt_sameGround clock (.incidentKey check.id trigger.id) state rfl
  obtain ⟨delivery, later, sent, delivered⟩ :=
    Dispatcher.dispatch_delivers dispatcher clock check trigger found.length found.head? asked.1
      asked.2 (Dispatcher.Accepts.of_replies dispatcher _ _
        sameGround.mailReply sameGround.pageReply _ accepts)
  unfold act
  rw [run_bind_some (answerAt clock) (Routine.request (.incidentKey check.id trigger.id)) _ state
    asked.2 asked.1 rfl, run_bind_some (answerAt clock) _ _ asked.2 later (.ok delivery) sent]
  cases delivery with
  | skipped => simp [Delivery.delivered] at delivered
  | sent => exact ⟨later, rfl⟩
  | incident key =>
      simp only
      split
      · exact ⟨later, rfl⟩
      · exact ⟨(answerAt clock (.holdKey check.id trigger.id key) later).2, rfl⟩

theorem outside_iff (trigger : Trigger) (found : List CycleRecord) :
    (found.isEmpty || !trigger.inBand found.length) = true ↔ ¬ trigger.Calls found.length := by
  cases found with
  | nil => simp [Trigger.Calls]
  | cons first rest =>
      simp only [List.isEmpty_cons, Bool.false_or, Bool.not_eq_true', Trigger.inBand, Trigger.Calls,
        Bool.and_eq_false_iff, decide_eq_false_iff_not, List.length_cons]
      omega

/-- What a trigger in range does in its turn, at a state whose store is in memory. -/
theorem runTrigger_run (dispatcher : Dispatcher) (clock : Nat → Instant) (check : Check)
    (now start : Instant) (trigger : Trigger) (window : trigger.windowStart? now = some start)
    (state : Nat × Surroundings) (store : MemoryStore) (memory : state.2.store = .memory store)
    (working : state.2.faults = []) :
    ∃ sent later,
      (runTrigger dispatcher check
          ((store.lastGood check.clusterId check.id).map (·.created)) now trigger).run
        (answerAt clock) state = (some (.ok sent), later) ∧
      state.1 ≤ later.1 ∧ SameGround state.2 later.2 ∧
      (dispatcher.Accepts state.2 trigger.action →
        (sent = true ↔
          trigger.Calls (violations store.records check start (clock state.1)))) := by
  obtain ⟨bound, bounded⟩ : ∃ bound,
      bound? ((store.lastGood check.clusterId check.id).map (·.created)) now trigger =
        some bound := by
    rw [bound?_eq, window]
    exact ⟨_, rfl⟩
  let asked := answerAt clock (.violationsSince check.clusterId check.id bound) state
  have askedGround : SameGround state.2 asked.2.2 :=
    answerAt_sameGround clock (.violationsSince check.clusterId check.id bound) state rfl
  have answered : asked.1 =
      .ok (store.violationsSince (clock state.1) check.clusterId check.id bound) := by
    simp [asked, answerAt, answer, guarded, memory, working, Store.violationsSince]
  have counted := violationsSince_length store check now start bound (clock state.1) trigger window
    bounded
  unfold runTrigger
  rw [bounded, run_bind_some (answerAt clock) (Routine.within (some bound)) _ state state bound rfl,
    run_bind_some (answerAt clock) (Routine.request (.violationsSince check.clusterId check.id bound))
      _ state asked.2 asked.1 rfl, answered]
  simp only
  split
  · rename_i outside
    let dropped := answerAt clock (.dropKey check.id trigger.id) asked.2
    have droppedGround : SameGround asked.2.2 dropped.2.2 :=
      answerAt_sameGround clock (.dropKey check.id trigger.id) asked.2 rfl
    refine ⟨false, dropped.2, rfl, ?_, askedGround.trans droppedGround, fun _ => ?_⟩
    · simp only [dropped, asked, answerAt]
      omega
    · rw [outside_iff, counted] at outside
      simp [outside]
  · rename_i inside
    rw [outside_iff, counted, Classical.not_not] at inside
    have calm := act_calm dispatcher check trigger
      (store.violationsSince (clock state.1) check.clusterId check.id bound)
    obtain ⟨sent, later, acted⟩ := calm.ends clock asked.2
    obtain ⟨onward, actGround⟩ := calm.quiet.run clock asked.2
    rw [acted] at onward actGround
    rw [run_bind_some (answerAt clock) _ _ asked.2 later sent acted]
    refine ⟨sent, later, rfl, ?_, askedGround.trans actGround, fun accepts => ?_⟩
    · exact Nat.le_trans (Nat.le_succ _) onward
    · obtain ⟨after, sends⟩ := act_sends dispatcher clock check trigger
        (store.violationsSince (clock state.1) check.clusterId check.id bound) asked.2
        (Dispatcher.Accepts.of_replies dispatcher _ _ askedGround.mailReply askedGround.pageReply _
          accepts)
      rw [acted] at sends
      obtain rfl := Option.some.inj (congrArg Prod.fst sends)
      simp [inside]

theorem runTrigger_broken (dispatcher : Dispatcher) (clock : Nat → Instant) (check : Check)
    (lastGood : Option Instant) (now : Instant) (trigger : Trigger)
    (window : trigger.windowStart? now = none) (state : Nat × Surroundings) :
    (runTrigger dispatcher check lastGood now trigger).run (answerAt clock) state =
      (none, state) := by
  unfold runTrigger
  rw [bound?_eq, window]
  rfl

/-- In its turn a trigger sends a message exactly if its window is in range and the number
of violations calls for it. -/
theorem sends_iff (dispatcher : Dispatcher) (clock : Nat → Instant) (check : Check)
    (now : Instant) (trigger : Trigger) (state : Nat × Surroundings) (store : MemoryStore)
    (memory : state.2.store = .memory store) (working : state.2.faults = [])
    (accepts : dispatcher.Accepts state.2 trigger.action) :
    (∃ after,
      (runTrigger dispatcher check
          ((store.lastGood check.clusterId check.id).map (·.created)) now trigger).run
        (answerAt clock) state = (some (.ok true), after)) ↔
      ∃ start, trigger.windowStart? now = some start ∧
        trigger.Calls (violations store.records check start (clock state.1)) := by
  cases window : trigger.windowStart? now with
  | none =>
      have broken := runTrigger_broken dispatcher clock check
        ((store.lastGood check.clusterId check.id).map (·.created)) now trigger window state
      rw [broken]
      simp
  | some start =>
      obtain ⟨sent, later, ran, _, _, decides⟩ :=
        runTrigger_run dispatcher clock check now start trigger window state store memory working
      rw [ran]
      constructor
      · rintro ⟨after, sends⟩
        have sentEq := Except.ok.inj (Option.some.inj (congrArg Prod.fst sends))
        exact ⟨start, rfl, (decides accepts).mp sentEq⟩
      · rintro ⟨_, same, calls⟩
        obtain rfl := Option.some.inj same
        exact ⟨later, by rw [(decides accepts).mpr calls]⟩

/-! ## Triggers in their order -/

/-- Triggers come to their turns as long as their windows are in range, and the ground
stays as it is. -/
theorem runAll_run (dispatcher : Dispatcher) (clock : Nat → Instant) (check : Check)
    (now : Instant) (triggers : List Trigger) (delivered : Nat)
    (inRange : ∀ trigger ∈ triggers, trigger.windowStart? now ≠ none)
    (state : Nat × Surroundings) (store : MemoryStore) (memory : state.2.store = .memory store)
    (working : state.2.faults = []) :
    ∃ total later,
      (runAll dispatcher check ((store.lastGood check.clusterId check.id).map (·.created)) now
          triggers delivered).run (answerAt clock) state = (some (.ok total), later) ∧
        state.1 ≤ later.1 ∧ SameGround state.2 later.2 := by
  induction triggers generalizing delivered state with
  | nil => exact ⟨delivered, state, rfl, Nat.le_refl _, .refl _⟩
  | cons trigger rest ih =>
      obtain ⟨start, window⟩ := Option.ne_none_iff_exists'.mp (inRange trigger (by simp))
      obtain ⟨sent, middle, ran, onward, ground, _⟩ :=
        runTrigger_run dispatcher clock check now start trigger window state store memory working
      obtain ⟨total, later, rest, further, restGround⟩ :=
        ih (delivered + sent.toNat) (fun other member => inRange other (by simp [member])) middle
          (ground.store.trans memory) (ground.faults.trans working)
      refine ⟨total, later, ?_, Nat.le_trans onward further, ground.trans restGround⟩
      rw [runAll, run_bind_some (answerAt clock) _ _ state middle (.ok sent) ran]
      exact rest

/-- A window out of range ends the run before the triggers after it come to their turns. -/
theorem runAll_broken (dispatcher : Dispatcher) (clock : Nat → Instant) (check : Check)
    (now : Instant) (triggers : List Trigger) (delivered : Nat)
    (outOfRange : ∃ trigger ∈ triggers, trigger.windowStart? now = none)
    (state : Nat × Surroundings) (store : MemoryStore) (memory : state.2.store = .memory store)
    (working : state.2.faults = []) :
    ((runAll dispatcher check ((store.lastGood check.clusterId check.id).map (·.created)) now
      triggers delivered).run (answerAt clock) state).1 = none := by
  induction triggers generalizing delivered state with
  | nil => simp at outOfRange
  | cons trigger rest ih =>
      rw [runAll]
      cases window : trigger.windowStart? now with
      | none =>
          rw [run_bind_none (answerAt clock) _ _ state state
            (runTrigger_broken dispatcher clock check _ now trigger window state)]
      | some start =>
          obtain ⟨sent, middle, ran, _, ground, _⟩ :=
            runTrigger_run dispatcher clock check now start trigger window state store memory
              working
          rw [run_bind_some (answerAt clock) _ _ state middle (.ok sent) ran]
          refine ih (delivered + sent.toNat) ?_ middle (ground.store.trans memory)
            (ground.faults.trans working)
          obtain ⟨other, member, missing⟩ := outOfRange
          rcases List.mem_cons.mp member with rfl | later
          · rw [window] at missing
            simp at missing
          · exact ⟨other, later, missing⟩

end Escalation

end FleetMonitor
