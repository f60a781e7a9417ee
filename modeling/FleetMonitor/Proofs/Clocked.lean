import FleetMonitor.Proofs.Observation
import FleetMonitor.Surroundings

/-!
# Runs under a clock

Every request is answered at a reading of its own of a clock, so time passes within
a cycle.  Of all that a cycle asks, one request writes a record; the others leave
the store as it is.
-/

set_option autoImplicit false

namespace FleetMonitor

namespace Surroundings

def answerAt (clock : Nat → Instant) (request : Request) (state : Nat × Surroundings) :
    request.Answer × (Nat × Surroundings) :=
  let answered := answer request { state.2 with now := clock state.1 }
  (answered.1, (state.1 + 1, answered.2))

structure SameGround (s later : Surroundings) : Prop where
  store : later.store = s.store
  faults : later.faults = s.faults
  mailReply : later.mailReply = s.mailReply
  pageReply : later.pageReply = s.pageReply

theorem SameGround.refl (s : Surroundings) : SameGround s s :=
  ⟨rfl, rfl, rfl, rfl⟩

theorem SameGround.trans {first second third : Surroundings} (early : SameGround first second)
    (late : SameGround second third) : SameGround first third :=
  ⟨late.store.trans early.store, late.faults.trans early.faults,
    late.mailReply.trans early.mailReply, late.pageReply.trans early.pageReply⟩

end Surroundings

def Request.isCreate : Request → Bool
  | create _ _ _ _ _ => true
  | _ => false

theorem Surroundings.answer_sameGround (request : Request) (s : Surroundings)
    (harmless : request.isCreate = false) : SameGround s (answer request s).2 := by
  cases request with
  | create clusterId checkId failing expressions seconds => simp [Request.isCreate] at harmless
  | mail mail =>
      simp only [answer, takeMail]
      split <;> exact ⟨rfl, rfl, rfl, rfl⟩
  | _ => exact ⟨rfl, rfl, rfl, rfl⟩

theorem Surroundings.answerAt_sameGround (clock : Nat → Instant) (request : Request)
    (state : Nat × Surroundings) (harmless : request.isCreate = false) :
    SameGround state.2 (answerAt clock request state).2.2 := by
  have same := answer_sameGround request { state.2 with now := clock state.1 } harmless
  exact ⟨same.store, same.faults, same.mailReply, same.pageReply⟩

namespace Routine

variable {α β : Type}

/-- The routine writes no record, whatever it is answered. -/
inductive Quiet : Routine α → Prop
  | done (value : α) : Quiet (done value)
  | broken : Quiet broken
  | ask (request : Request) (next : request.Answer → Routine α)
      (harmless : request.isCreate = false) (rest : ∀ answer, Quiet (next answer)) :
      Quiet (ask request next)

namespace Quiet

theorem bind {first : Routine α} {next : α → Routine β} (quiet : Quiet first)
    (nextQuiet : ∀ value, Quiet (next value)) : Quiet (first >>= next) := by
  induction quiet with
  | done value => exact nextQuiet value
  | broken => exact .broken
  | ask request rest harmless _ ih => exact .ask request _ harmless ih

theorem request (request : Request) (harmless : request.isCreate = false) :
    Quiet (Routine.request request) :=
  .ask request _ harmless fun answer => .done answer

theorem within (value : Option α) : Quiet (Routine.within value) := by
  cases value with
  | none => exact .broken
  | some value => exact .done value

theorem of_observes {routine : Routine α} (observes : routine.Observes) : Quiet routine := by
  induction observes with
  | done value => exact .done value
  | broken => exact .broken
  | ask request next observing _ ih =>
      have harmless : request.isCreate = false := by
        cases request <;> first | rfl | cases observing
      exact .ask request next harmless ih

theorem asks {routine : Routine α} (quiet : Quiet routine) :
    Asks (fun request => request.isCreate = false) routine := by
  induction quiet with
  | done value => exact .done value
  | broken => exact .broken
  | ask request next harmless _ ih => exact .ask request next harmless ih

theorem run {routine : Routine α} (quiet : Quiet routine) (clock : Nat → Instant)
    (state : Nat × Surroundings) :
    state.1 ≤ (routine.run (Surroundings.answerAt clock) state).2.1 ∧
      Surroundings.SameGround state.2 (routine.run (Surroundings.answerAt clock) state).2.2 := by
  induction quiet generalizing state with
  | done value => exact ⟨Nat.le_refl _, .refl _⟩
  | broken => exact ⟨Nat.le_refl _, .refl _⟩
  | ask request next harmless _ ih =>
      have first := Surroundings.answerAt_sameGround clock request state harmless
      obtain ⟨later, rest⟩ := ih (Surroundings.answerAt clock request state).1
        (Surroundings.answerAt clock request state).2
      exact ⟨Nat.le_trans (Nat.le_succ _) later, first.trans rest⟩

end Quiet

/-- The routine writes no record and comes to its end, whatever it is answered. -/
inductive Calm : Routine α → Prop
  | done (value : α) : Calm (done value)
  | ask (request : Request) (next : request.Answer → Routine α)
      (harmless : request.isCreate = false) (rest : ∀ answer, Calm (next answer)) :
      Calm (ask request next)

namespace Calm

theorem quiet {routine : Routine α} (calm : Calm routine) : Quiet routine := by
  induction calm with
  | done value => exact .done value
  | ask request next harmless _ ih => exact .ask request next harmless ih

theorem bind {first : Routine α} {next : α → Routine β} (calm : Calm first)
    (nextCalm : ∀ value, Calm (next value)) : Calm (first >>= next) := by
  induction calm with
  | done value => exact nextCalm value
  | ask request rest harmless _ ih => exact .ask request _ harmless ih

theorem request (request : Request) (harmless : request.isCreate = false) :
    Calm (Routine.request request) :=
  .ask request _ harmless fun answer => .done answer

theorem ends {routine : Routine α} (calm : Calm routine) (clock : Nat → Instant)
    (state : Nat × Surroundings) :
    ∃ value later, routine.run (Surroundings.answerAt clock) state = (some value, later) := by
  induction calm generalizing state with
  | done value => exact ⟨value, state, rfl⟩
  | ask request next _ _ ih =>
      exact ih (Surroundings.answerAt clock request state).1
        (Surroundings.answerAt clock request state).2

end Calm

inductive Once : Routine α → Prop
  | quiet {routine : Routine α} (quiet : Quiet routine) : Once routine
  | ask (request : Request) (next : request.Answer → Routine α)
      (harmless : request.isCreate = false) (rest : ∀ answer, Once (next answer)) :
      Once (ask request next)
  | create (clusterId checkId : Int) (failing : Bool) (expressions : List Expression)
      (seconds : Int)
      (next : (Request.create clusterId checkId failing expressions seconds).Answer → Routine α)
      (rest : ∀ answer, Quiet (next answer)) :
      Once (ask (.create clusterId checkId failing expressions seconds) next)

theorem Once.bind {first : Routine α} {next : α → Routine β} (quiet : Quiet first)
    (nextOnce : ∀ value, Once (next value)) : Once (first >>= next) := by
  induction quiet with
  | done value => exact nextOnce value
  | broken => exact .quiet .broken
  | ask request rest harmless _ ih => exact .ask request _ harmless ih

/-- What became of a store in memory between two readings of a clock: at most one
record came to it, created at a reading between them. -/
def Recorded (clock : Nat → Instant) (first last : Nat) (store later : MemoryStore) : Prop :=
  later = store ∨ ∃ reading record, first ≤ reading ∧ reading < last ∧
    record.created = clock reading ∧ later = store.addRecord record

theorem create_recorded (clock : Nat → Instant) (state : Nat × Surroundings)
    (store : MemoryStore) (memory : state.2.store = .memory store) (clusterId checkId : Int)
    (failing : Bool) (expressions : List Expression) (seconds : Int) :
    ∃ later, (Surroundings.answerAt clock
        (.create clusterId checkId failing expressions seconds) state).2.2.store =
          .memory later ∧
      Recorded clock state.1 (state.1 + 1) store later := by
  simp only [Surroundings.answerAt, Surroundings.answer, Surroundings.create,
    Surroundings.guardedTimely, memory, Store.create]
  split
  · exact ⟨store, rfl, Or.inl rfl⟩
  · exact ⟨store, rfl, Or.inl rfl⟩
  · rename_i record written answered
    split at answered
    · simp at answered
    · obtain ⟨expires, _, made⟩ := Option.map_eq_some_iff.mp answered
      obtain ⟨rfl, rfl⟩ := Prod.mk.inj (Except.ok.inj made)
      exact ⟨_, rfl, Or.inr ⟨state.1, _, Nat.le_refl _, Nat.lt_succ_self _, rfl, rfl⟩⟩

theorem Once.run {routine : Routine α} (once : Once routine) (clock : Nat → Instant)
    (state : Nat × Surroundings) (store : MemoryStore) (memory : state.2.store = .memory store) :
    state.1 ≤ (routine.run (Surroundings.answerAt clock) state).2.1 ∧
      ∃ later, (routine.run (Surroundings.answerAt clock) state).2.2.store = .memory later ∧
        Recorded clock state.1 (routine.run (Surroundings.answerAt clock) state).2.1 store
          later := by
  induction once generalizing state with
  | quiet quiet =>
      obtain ⟨onward, ground⟩ := quiet.run clock state
      exact ⟨onward, store, ground.store.trans memory, Or.inl rfl⟩
  | ask request next harmless _ ih =>
      have first := Surroundings.answerAt_sameGround clock request state harmless
      obtain ⟨onward, later, isMemory, recorded⟩ :=
        ih (Surroundings.answerAt clock request state).1
          (Surroundings.answerAt clock request state).2 (first.store.trans memory)
      refine ⟨Nat.le_trans (Nat.le_succ _) onward, later, isMemory, ?_⟩
      rcases recorded with same | ⟨reading, record, after, before, created, added⟩
      · exact Or.inl same
      · exact Or.inr ⟨reading, record, Nat.le_trans (Nat.le_succ _) after, before, created, added⟩
  | create clusterId checkId failing expressions seconds next rest =>
      obtain ⟨later, isMemory, recorded⟩ := create_recorded clock state store memory clusterId
        checkId failing expressions seconds
      let asked := Surroundings.answerAt clock
        (.create clusterId checkId failing expressions seconds) state
      obtain ⟨onward, ground⟩ := (rest asked.1).run clock asked.2
      refine ⟨Nat.le_trans (Nat.le_succ _) onward, later, ground.store.trans isMemory, ?_⟩
      rcases recorded with same | ⟨reading, record, after, before, created, added⟩
      · exact Or.inl same
      · exact Or.inr ⟨reading, record, after, Nat.lt_of_lt_of_le before onward, created, added⟩

inductive Yields (holds : α → Prop) : Routine α → Prop
  | done (value : α) (isSo : holds value) : Yields holds (done value)
  | broken : Yields holds broken
  | ask (request : Request) (next : request.Answer → Routine α)
      (rest : ∀ answer, Yields holds (next answer)) : Yields holds (ask request next)

namespace Yields

theorem always (routine : Routine α) : Yields (fun _ => True) routine := by
  induction routine with
  | done value => exact .done value trivial
  | broken => exact .broken
  | ask request next ih => exact .ask request next ih

theorem bind {holds : α → Prop} {holds' : β → Prop} {first : Routine α} {next : α → Routine β}
    (yields : Yields holds first) (nextYields : ∀ value, holds value → Yields holds' (next value)) :
    Yields holds' (first >>= next) := by
  induction yields with
  | done value isSo => exact nextYields value isSo
  | broken => exact .broken
  | ask request rest _ ih => exact .ask request _ ih

theorem run {σ : Type} {holds : α → Prop} {routine : Routine α} (yields : Yields holds routine)
    (answer : (request : Request) → σ → request.Answer × σ) (s later : σ) (value : α)
    (ran : routine.run answer s = (some value, later)) : holds value := by
  induction yields generalizing s with
  | done found isSo =>
      obtain rfl := Option.some.inj (congrArg Prod.fst ran)
      exact isSo
  | broken => simp [Routine.run] at ran
  | ask request next _ ih => exact ih _ _ ran

end Yields

theorem run_bind_some {σ : Type} (answer : (request : Request) → σ → request.Answer × σ)
    (first : Routine α) (next : α → Routine β) (s later : σ) (value : α)
    (ran : first.run answer s = (some value, later)) :
    (first >>= next).run answer s = (next value).run answer later := by
  refine (run_bind answer first next s).trans ?_
  rw [ran]

theorem run_bind_none {σ : Type} (answer : (request : Request) → σ → request.Answer × σ)
    (first : Routine α) (next : α → Routine β) (s later : σ)
    (ran : first.run answer s = (none, later)) :
    (first >>= next).run answer s = (none, later) := by
  refine (run_bind answer first next s).trans ?_
  rw [ran]

end Routine

namespace Evaluation

open Routine

/-! ## An evaluation writes no record -/

theorem evaluate_quiet (freshness : Span) (check : Check) : Quiet (evaluate freshness check) :=
  .of_observes (evaluate_observes freshness check)

theorem evaluate_length (freshness : Span) (check : Check) :
    Yields (fun result => ∀ list failing, result = .ok (list, failing) →
      list.length = check.expressions.length) (evaluate freshness check) := by
  have lengths : ∀ (hosts : List Host) (list : List Expression),
      Yields (fun evaluated => evaluated.length = list.length) (expressions check hosts list) := by
    intro hosts list
    induction list with
    | nil => exact .done [] rfl
    | cons e rest ih =>
        refine (Yields.always _).bind fun outcome _ => ih.bind fun evaluated same => ?_
        exact .done _ (by simp [same])
  refine (Yields.always (resolve freshness check)).bind fun hosts _ => ?_
  cases hosts with
  | error cause => exact .done _ fun list failing found => nomatch found
  | ok hosts =>
      refine (lengths hosts check.expressions).bind fun evaluated same => .done _ ?_
      intro list failing found
      rw [← (Prod.mk.inj (Except.ok.inj found)).1]
      exact same

end Evaluation

end FleetMonitor
