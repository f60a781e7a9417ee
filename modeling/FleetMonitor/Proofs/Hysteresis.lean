import FleetMonitor.Proofs.Turn
import Mathlib.Data.List.DropRight

/-!
# When a trigger goes off

Cycles follow each other under one clock and share the records of a store in memory.
In each of them a trigger goes by the number of violations in its window since the
newest passing record; a passing cycle keeps every trigger quiet.
-/

set_option autoImplicit false

namespace FleetMonitor

open Routine Surroundings

/-! ## Streaks -/

theorem Instant.lt_of_le_of_ne {a b : Instant} (ordered : a ≤ b) (apart : a ≠ b) : a < b := by
  have microsApart : a.micros ≠ b.micros := fun same => apart (congrArg Instant.mk same)
  have microsOrdered : a.micros ≤ b.micros := ordered
  change a.micros < b.micros
  omega

theorem violations_of_pass (records : List CycleRecord) (check : Check) (pass : CycleRecord)
    (start reading : Instant) (own : MemoryStore.passes check.clusterId check.id pass = true)
    (latest : ∀ record ∈ records, record.created ≤ pass.created) :
    violations (records ++ [pass]) check start reading = 0 := by
  rw [violations, List.length_eq_zero_iff, List.filter_eq_nil_iff]
  intro record member counts
  simp only [CycleRecord.counts, Bool.and_eq_true, List.all_eq_true] at counts
  obtain ⟨⟨⟨⟨_, failing⟩, _⟩, _⟩, later⟩ := counts
  have after := later pass (by simp)
  simp only [own, Bool.not_true, Bool.false_or, decide_eq_true_eq] at after
  rcases List.mem_append.mp member with former | last
  · exact absurd (Int.lt_of_lt_of_le after (latest record former)) (Int.lt_irrefl _)
  · rw [List.mem_singleton.mp last] at after
    exact absurd after (Int.lt_irrefl _)

def failsLast (own : List CycleRecord) (record : CycleRecord) : Bool :=
  record.failing && own.all fun good => good.failing || decide (good.created < record.created)

theorem failsLast_iff (own : List CycleRecord) (record : CycleRecord) :
    failsLast own record = true ↔ record.failing = true ∧
      ∀ good ∈ own, good.failing = true ∨ good.created < record.created := by
  rw [failsLast, Bool.and_eq_true, List.all_eq_true]
  simp only [Bool.or_eq_true, decide_eq_true_eq]

/-- In records in the order of their times, those that failed after every passing one are
the last ones in a row. -/
theorem filter_eq_rtakeWhile (own : List CycleRecord)
    (chronological : own.Pairwise fun a b => a.created < b.created) :
    own.filter (failsLast own) = own.rtakeWhile (·.failing) := by
  -- From the end: a failing record adds itself to the row, a passing one starts it anew.
  induction own using List.reverseRecOn with
  | nil => rfl
  | append_singleton own last ih =>
      obtain ⟨ordered, _, before⟩ := List.pairwise_append.mp chronological
      have lastLatest : ∀ record ∈ own, record.created < last.created :=
        fun record member => before record member last (by simp)
      rw [List.rtakeWhile_concat]
      by_cases failing : last.failing = true
      · rw [if_pos failing, ← ih ordered, List.filter_append]
        congr 1
        · refine List.filter_congr fun record _ => ?_
          simp [failsLast, failing]
        · refine List.filter_eq_self.mpr fun record same => ?_
          rw [List.mem_singleton.mp same, failsLast_iff]
          refine ⟨failing, fun good member => ?_⟩
          rcases List.mem_append.mp member with former | isLast
          · exact Or.inr (lastLatest good former)
          · rw [List.mem_singleton.mp isLast]
            exact Or.inl failing
      · rw [if_neg failing, List.filter_eq_nil_iff]
        intro record member counts
        obtain ⟨_, after⟩ := (failsLast_iff _ _).mp counts
        rcases after last (by simp) with fails | later
        · exact failing fails
        · rcases List.mem_append.mp member with former | same
          · exact Int.lt_irrefl _ (Int.lt_trans later (lastLatest record former))
          · rw [List.mem_singleton.mp same] at later
            exact Int.lt_irrefl _ later

def ownInOrder (records : List CycleRecord) (check : Check) : List CycleRecord :=
  (records.filter (·.belongs check.clusterId check.id)).mergeSort fun a b =>
    decide (a.created ≤ b.created)

def streak (records : List CycleRecord) (check : Check) : List CycleRecord :=
  (ownInOrder records check).rtakeWhile (·.failing)

theorem ownInOrder_chronological (records : List CycleRecord) (check : Check)
    (distinct : (records.filter (·.belongs check.clusterId check.id)).Pairwise
      fun a b => a.created ≠ b.created) :
    (ownInOrder records check).Pairwise fun a b => a.created < b.created := by
  have sorted : (ownInOrder records check).Pairwise fun a b => a.created ≤ b.created := by
    refine (List.pairwise_mergeSort ?_ ?_ _).imp fun ordered => of_decide_eq_true ordered
    · intro a b c first second
      exact decide_eq_true (Int.le_trans (of_decide_eq_true first) (of_decide_eq_true second))
    · intro a b
      rw [Bool.or_eq_true, decide_eq_true_eq, decide_eq_true_eq]
      exact Int.le_total _ _
  have stillDistinct : (ownInOrder records check).Pairwise fun a b => a.created ≠ b.created :=
    distinct.perm (List.mergeSort_perm _ _).symm fun apart => apart.symm
  refine sorted.imp₂ (fun a b ordered apart => ?_) stillDistinct
  exact Instant.lt_of_le_of_ne ordered apart

theorem counts_eq (records : List CycleRecord) (check : Check) (start reading : Instant)
    (record : CycleRecord) :
    CycleRecord.counts records check start reading record =
      ((decide (start < record.created) && record.retained reading) &&
        failsLast (ownInOrder records check) record &&
        record.belongs check.clusterId check.id) := by
  have passing : (records.all fun good =>
      !MemoryStore.passes check.clusterId check.id good ||
        decide (good.created < record.created)) =
      (ownInOrder records check).all fun good =>
        good.failing || decide (good.created < record.created) := by
    rw [ownInOrder, (List.mergeSort_perm _ _).all_eq, List.all_filter]
    congr 1
    funext good
    rw [MemoryStore.passes, Bool.not_and, Bool.not_not, Bool.or_assoc]
  rw [CycleRecord.counts, passing, failsLast]
  cases record.belongs check.clusterId check.id <;> cases record.failing <;> simp

/-- The violations of a check are all of its streak if the window and the records' lives
cover it. -/
theorem violations_eq_streak (records : List CycleRecord) (check : Check)
    (start reading : Instant)
    (distinct : (records.filter (·.belongs check.clusterId check.id)).Pairwise
      fun a b => a.created ≠ b.created)
    (covered : ∀ record ∈ streak records check,
      start < record.created ∧ record.retained reading = true) :
    violations records check start reading = (streak records check).length := by
  have inStreak : (ownInOrder records check).filter (failsLast (ownInOrder records check)) =
      streak records check :=
    filter_eq_rtakeWhile _ (ownInOrder_chronological records check distinct)
  have sameOwn : (ownInOrder records check).Perm
      (records.filter (·.belongs check.clusterId check.id)) := List.mergeSort_perm _ _
  have byParts : CycleRecord.counts records check start reading = fun record =>
      ((decide (start < record.created) && record.retained reading) &&
        failsLast (ownInOrder records check) record) &&
        record.belongs check.clusterId check.id :=
    funext (counts_eq records check start reading)
  rw [violations, byParts, ← List.filter_filter, ← (sameOwn.filter _).length_eq,
    ← List.filter_filter, inStreak]
  congr 1
  refine List.filter_eq_self.mpr fun record member => ?_
  obtain ⟨opened, retained⟩ := covered record member
  rw [decide_eq_true opened, retained, Bool.and_true]

namespace Pipeline

/-! ## A cycle writes one record at most -/

theorem retention_quiet (pipeline : Pipeline) (check : Check) :
    Quiet (pipeline.retention check) :=
  .of_observes (pipeline.retention_observes check)

theorem cycle_asks (pipeline : Pipeline) (check : Check) :
    ∃ request next, pipeline.cycle check = .ask request next ∧ request.isCreate = false ∧
      ∀ answer, Once (next answer) := by
  obtain ⟨request, evaluated, asks⟩ : ∃ request evaluated,
      Evaluation.evaluate pipeline.freshness check = .ask request evaluated := by
    unfold Evaluation.evaluate Evaluation.resolve
    cases check.hosts <;> exact ⟨_, _, rfl⟩
  have quiet := Evaluation.evaluate_quiet pipeline.freshness check
  rw [asks] at quiet
  cases quiet with
  | ask _ _ harmless rest =>
      unfold cycle
      rw [asks]
      refine ⟨request, _, rfl, harmless, fun answer => Once.bind (rest answer) fun result => ?_⟩
      cases result with
      | error cause => exact .quiet (.done _)
      | ok result =>
          simp only
          split
          · exact .quiet (.done _)
          · refine Once.bind (retention_quiet pipeline check) fun seconds => ?_
            refine Once.create _ _ _ _ _ _ fun written => (Quiet.within written).bind fun result => ?_
            cases result with
            | error cause => exact .done _
            | ok record =>
                refine (Escalation.runTriggers_quiet _ _).bind fun dispatched => ?_
                cases dispatched <;> exact .done _

end Pipeline

/-! ## Rounds -/

def Store.records : Store → List CycleRecord
  | memory store => store.records
  | file _ => []

/-- A cycle of a check, and all that it finds around it but the records. -/
structure Round where
  pipeline : Pipeline
  check : Check
  around : Surroundings
  store : MemoryStore

namespace Round

def start (round : Round) (records : List CycleRecord) : Surroundings :=
  { round.around with store := .memory { round.store with records }, faults := [] }

def run (clock : Nat → Instant) (point : Nat × List CycleRecord) (round : Round) :
    Nat × List CycleRecord :=
  let after := ((round.pipeline.cycle round.check).run (answerAt clock)
    (point.1, round.start point.2)).2
  (after.1, after.2.store.records)

def after (clock : Nat → Instant) (history : List CycleRecord) (rounds : List Round) :
    Nat × List CycleRecord :=
  rounds.foldl (run clock) (0, history)

def Dispatches (round : Round) (clock : Nat → Instant) (point : Nat × List CycleRecord)
    (before : List Trigger) (trigger : Trigger) : Prop :=
  round.pipeline.Dispatches clock round.check before trigger (point.1, round.start point.2)

def recorded (round : Round) (records : List CycleRecord) (created expires : Instant)
    (failing : Bool) (expressions : List Expression) : List CycleRecord :=
  records ++ [⟨round.check.clusterId, round.check.id, created, failing, expressions, expires⟩]

theorem run_recorded (clock : Nat → Instant) (point : Nat × List CycleRecord) (round : Round) :
    point.1 < (round.run clock point).1 ∧
      ((round.run clock point).2 = point.2 ∨
        ∃ reading record, point.1 < reading ∧ reading < (round.run clock point).1 ∧
          record.created = clock reading ∧ (round.run clock point).2 = point.2 ++ [record]) := by
  obtain ⟨request, next, asks, harmless, once⟩ := round.pipeline.cycle_asks round.check
  let asked := answerAt clock request (point.1, round.start point.2)
  have ground : SameGround (round.start point.2) asked.2.2 :=
    answerAt_sameGround clock request (point.1, round.start point.2) harmless
  have ran : round.run clock point =
      (((next asked.1).run (answerAt clock) asked.2).2.1,
        ((next asked.1).run (answerAt clock) asked.2).2.2.store.records) := by
    rw [run, asks]
    rfl
  obtain ⟨onward, later, isMemory, recorded⟩ :=
    (once asked.1).run clock asked.2 { round.store with records := point.2 } ground.store
  rw [ran, isMemory]
  refine ⟨Nat.lt_of_lt_of_le (Nat.lt_succ_self _) onward, ?_⟩
  rcases recorded with same | ⟨reading, record, after, before, created, added⟩
  · exact Or.inl (congrArg MemoryStore.records same)
  · exact Or.inr ⟨reading, record, Nat.lt_of_lt_of_le (Nat.lt_succ_self _) after, before, created,
      congrArg MemoryStore.records added⟩

end Round

/-- At some point the records are those of a history and others that were written since,
each at a reading of its own, in their order. -/
def WrittenSince (clock : Nat → Instant) (history : List CycleRecord)
    (point : Nat × List CycleRecord) : Prop :=
  ∃ (written : List CycleRecord) (readings : List Nat), point.2 = history ++ written ∧
    written.map (·.created) = readings.map clock ∧
    readings.Pairwise (· < ·) ∧ ∀ reading ∈ readings, 0 < reading ∧ reading < point.1

namespace WrittenSince

variable {clock : Nat → Instant} {history : List CycleRecord}

theorem start : WrittenSince clock history (0, history) :=
  ⟨[], [], by simp, rfl, .nil, by simp⟩

theorem pass {reading later : Nat} {records : List CycleRecord}
    (since : WrittenSince clock history (reading, records)) (onward : reading ≤ later) :
    WrittenSince clock history (later, records) := by
  obtain ⟨written, readings, appended, times, ordered, between⟩ := since
  exact ⟨written, readings, appended, times, ordered, fun other member =>
    ⟨(between other member).1, Nat.lt_of_lt_of_le (between other member).2 onward⟩⟩

theorem write {first reading later : Nat} {records : List CycleRecord} {record : CycleRecord}
    (since : WrittenSince clock history (first, records)) (after : first < reading)
    (before : reading < later) (created : record.created = clock reading) :
    WrittenSince clock history (later, records ++ [record]) := by
  obtain ⟨written, readings, appended, times, ordered, between⟩ := since
  refine ⟨written ++ [record], readings ++ [reading], ?_, ?_, ?_, ?_⟩
  · change records ++ [record] = history ++ (written ++ [record])
    rw [show records = history ++ written from appended, List.append_assoc]
  · simp [times, created]
  · refine List.pairwise_append.mpr ⟨ordered, List.pairwise_singleton _ _, ?_⟩
    intro other member last same
    rw [List.mem_singleton.mp same]
    exact Nat.lt_trans (between other member).2 after
  · intro other member
    rcases List.mem_append.mp member with former | same
    · obtain ⟨positive, bounded⟩ := between other former
      exact ⟨positive, Nat.lt_trans bounded (Nat.lt_trans after before)⟩
    · rw [List.mem_singleton.mp same]
      exact ⟨Nat.lt_of_le_of_lt (Nat.zero_le first) after, before⟩

theorem round {point : Nat × List CycleRecord} (since : WrittenSince clock history point)
    (round : Round) : WrittenSince clock history (round.run clock point) := by
  obtain ⟨onward, same | ⟨reading, record, after, before, created, added⟩⟩ :=
    round.run_recorded clock point
  · have passed := since.pass (Nat.le_of_lt onward)
    rw [← same] at passed
    exact passed
  · have wrote := since.write after before created
    rw [← added] at wrote
    exact wrote

theorem rounds (rounds : List Round) {point : Nat × List CycleRecord}
    (since : WrittenSince clock history point) :
    WrittenSince clock history (rounds.foldl (Round.run clock) point) := by
  induction rounds generalizing point with
  | nil => exact since
  | cons round rest ih => exact ih (since.round round)

theorem reading_of_mem {written : List CycleRecord} {readings : List Nat}
    (times : written.map (·.created) = readings.map clock) {record : CycleRecord}
    (member : record ∈ written) : ∃ reading ∈ readings, clock reading = record.created := by
  have isReading : record.created ∈ readings.map clock := by
    rw [← times]
    exact List.mem_map_of_mem member
  exact List.mem_map.mp isReading

theorem latest {point : Nat × List CycleRecord} (since : WrittenSince clock history point)
    (forward : ∀ i j, i ≤ j → clock i ≤ clock j)
    (past : ∀ record ∈ history, record.created ≤ clock 0) (record : CycleRecord)
    (member : record ∈ point.2) : record.created ≤ clock point.1 := by
  obtain ⟨written, readings, appended, times, _, between⟩ := since
  rw [appended] at member
  rcases List.mem_append.mp member with old | new
  · exact Int.le_trans (past record old) (forward 0 point.1 (Nat.zero_le _))
  · obtain ⟨reading, readMember, created⟩ := reading_of_mem times new
    rw [← created]
    exact forward reading point.1 (Nat.le_of_lt (between reading readMember).2)

/-- Under a clock that always goes on, records of a check stay at times of their own. -/
theorem distinct {point : Nat × List CycleRecord} (since : WrittenSince clock history point)
    (onward : ∀ i j, i < j → clock i < clock j)
    (past : ∀ record ∈ history, record.created ≤ clock 0) (own : CycleRecord → Bool)
    (former : (history.filter own).Pairwise fun a b => a.created ≠ b.created) :
    (point.2.filter own).Pairwise fun a b => a.created ≠ b.created := by
  obtain ⟨written, readings, appended, times, ordered, between⟩ := since
  have readOrder : (readings.map clock).Pairwise (· < ·) :=
    List.Pairwise.map clock onward ordered
  have writtenOrder : written.Pairwise fun a b => a.created < b.created := by
    rw [← times] at readOrder
    exact List.pairwise_map.mp readOrder
  have apart : ∀ {a b : Instant}, a < b → a ≠ b := by
    rintro a b before rfl
    exact Int.lt_irrefl _ before
  rw [appended, List.filter_append, List.pairwise_append]
  refine ⟨former, (writtenOrder.imp fun before => apart before).filter own, ?_⟩
  intro old oldMember new newMember
  obtain ⟨reading, readMember, created⟩ := reading_of_mem times (List.mem_filter.mp newMember).1
  rw [← created]
  exact apart (Int.lt_of_le_of_lt (past old (List.mem_filter.mp oldMember).1)
    (onward 0 reading (between reading readMember).1))

end WrittenSince

/-- After any cycles, and in the next one that comes to a verdict, every trigger of a check
has its turn unless a time out of range ends the cycle before.  In its turn it sends a
message exactly if the violations in its window call for it.  After a passing cycle there
are none; and where all times are told apart and the window and the lives of the records
cover the streak, they are the failing cycles since the last passing one. -/
theorem Round.band_decides (clock : Nat → Instant) (forward : ∀ i j, i ≤ j → clock i ≤ clock j)
    (history : List CycleRecord) (past : ∀ record ∈ history, record.created ≤ clock 0)
    (rounds : List Round) (round : Round) (loud : round.check.silenced = false)
    (someExpression : round.check.expressions ≠ []) (before rest : List Trigger)
    (trigger : Trigger) (listed : round.check.triggers = before ++ trigger :: rest)
    (accepts : round.pipeline.dispatcher.Accepts round.around trigger.action)
    (point : Nat × List CycleRecord) (reached : point = after clock history rounds)
    (expressions : List Expression) (failing : Bool) (evaluated : Nat × Surroundings)
    (found : (Evaluation.evaluate round.pipeline.freshness round.check).run (answerAt clock)
      (point.1, round.start point.2) = (some (.ok (expressions, failing)), evaluated)) :
    round.pipeline.cycle round.check =
        round.pipeline.upTo round.check before >>=
          round.pipeline.fromTurn round.check trigger rest ∧
      (round.Dispatches clock point before trigger ↔
        ∃ expires start,
          round.pipeline.expiry? round.store round.check (clock (evaluated.1 + 1)) =
              some expires ∧
            (∀ earlier ∈ before, earlier.windowStart? (clock (evaluated.1 + 3)) ≠ none) ∧
            trigger.windowStart? (clock (evaluated.1 + 3)) = some start ∧
            trigger.Calls (violations
              (round.recorded point.2 (clock (evaluated.1 + 1)) expires failing expressions)
              round.check start
              (clock (round.pipeline.turnReading clock round.check before
                (point.1, round.start point.2))))) ∧
      (failing = false → ¬ round.Dispatches clock point before trigger) ∧
      ∀ expires,
        let records :=
          round.recorded point.2 (clock (evaluated.1 + 1)) expires failing expressions
        let own : CycleRecord → Bool := (·.belongs round.check.clusterId round.check.id)
        ((∀ i j, i < j → clock i < clock j) →
          (history.filter own).Pairwise (fun a b => a.created ≠ b.created) →
          (records.filter own).Pairwise fun a b => a.created ≠ b.created) ∧
        ((records.filter own).Pairwise (fun a b => a.created ≠ b.created) →
          ∀ start reading,
            (∀ record ∈ streak records round.check,
              start < record.created ∧ record.retained reading = true) →
            violations records round.check start reading =
              (streak records round.check).length) := by
  subst reached
  have since : WrittenSince clock history (after clock history rounds) := .rounds rounds .start
  generalize after clock history rounds = point at since found ⊢
  obtain ⟨onward, ground⟩ := (Evaluation.evaluate_quiet round.pipeline.freshness round.check).run
    clock (point.1, round.start point.2)
  rw [found] at onward ground
  have someResult : expressions ≠ [] := by
    have sameLength := (Evaluation.evaluate_length round.pipeline.freshness round.check).run _ _ _
      _ found expressions failing rfl
    rw [← List.length_pos_iff, sameLength, List.length_pos_iff]
    exact someExpression
  have decides := Pipeline.dispatches_iff round.pipeline round.check before trigger clock
    (point.1, round.start point.2) evaluated expressions failing found someResult
    { round.store with records := point.2 } ground.store ground.faults
    (Dispatcher.Accepts.of_replies _ _ _ ground.mailReply ground.pageReply _ accepts)
  refine ⟨Pipeline.cycle_eq_upTo _ _ loud before rest trigger listed, decides, ?_, ?_⟩
  · -- The record of a passing cycle is at least as late as all before it.
    rintro passing dispatched
    obtain ⟨expires, start, _, _, _, calls⟩ := decides.mp dispatched
    have noViolations := violations_of_pass point.2 round.check
      ⟨round.check.clusterId, round.check.id, clock (evaluated.1 + 1), failing, expressions,
        expires⟩ start
      (clock (round.pipeline.turnReading clock round.check before
        (point.1, round.start point.2)))
      (by simp [MemoryStore.passes, CycleRecord.belongs, passing])
      fun record member => Int.le_trans (since.latest forward past record member)
        (forward point.1 (evaluated.1 + 1) (Nat.le_succ_of_le onward))
    exact absurd noViolations (Nat.ne_of_gt calls.1)
  · intro expires records own
    refine ⟨fun strict former => ?_, fun distinct start reading covered =>
      violations_eq_streak records round.check start reading distinct covered⟩
    have written : WrittenSince clock history (evaluated.1 + 2, records) :=
      since.write (Nat.lt_succ_of_le onward) (Nat.lt_succ_self _) rfl
    exact written.distinct strict past own former

def steadyClock (reading : Nat) : Instant :=
  ⟨reading⟩

def downRound (triggers : List Trigger) : Round where
  pipeline := ⟨⟨300 * Span.second⟩, 1, ⟨[], true, "daemon"⟩⟩
  check :=
    { id := 1, clusterId := 1, name := "up", interval := "1m", hosts := .list ["web"]
      expressions := [.ofKind (.ping ⟨1⟩)], triggers, silenced := false }
  around :=
    { now := ⟨0⟩, store := .memory .empty, foreignRows := [], faults := []
      silence := ⟨["web"], [], []⟩, probeDelay := ⟨0⟩, mailReply := fun _ => .ok ()
      pageReply := fun _ _ => .ok "", outbox := ⟨[], []⟩, keys := .empty }
  store := .empty

def mailAt (count : Int) : Trigger :=
  ⟨1, count, some count, 60, .email "ops@example.org"⟩

theorem downRound_accepts (triggers : List Trigger) (count : Int) :
    (downRound triggers).pipeline.dispatcher.Accepts (downRound triggers).around
      (mailAt count).action :=
  ⟨by decide, rfl, fun _ _ => rfl⟩

/-- The second failing cycle in a row sends the mail that waits for two. -/
theorem second_failure_mails :
    (downRound [mailAt 2]).Dispatches steadyClock
      (Round.after steadyClock [] [downRound []]) [] (mailAt 2) := by
  have decides := Round.band_decides steadyClock
    (fun i j ordered => Int.ofNat_le.mpr ordered) [] (by simp) [downRound []]
    (downRound [mailAt 2]) rfl (by simp [downRound]) [] [] (mailAt 2) rfl
    (downRound_accepts [mailAt 2] 2) _ rfl _ true _ rfl
  exact decides.2.1.mpr ⟨⟨86400000007⟩, ⟨-3599999991⟩, by decide +kernel, by simp, by decide +kernel,
    by decide +kernel, by decide +kernel, by decide +kernel⟩

def endlessTrigger : Trigger :=
  ⟨2, 1, none, 9223372036854775807, .nothing⟩

/-- A violation is recorded and a trigger waits for just one; it is never asked, since the
window of the trigger before it is out of range. -/
theorem endless_window_hides_violation :
    (downRound [endlessTrigger, mailAt 1]).check.silenced = false ∧
      (downRound [endlessTrigger, mailAt 1]).check.expressions ≠ [] ∧
      (downRound [endlessTrigger, mailAt 1]).pipeline.dispatcher.Accepts
        (downRound [endlessTrigger, mailAt 1]).around (mailAt 1).action ∧
      (mailAt 1).windowStart? (steadyClock 5) = some ⟨-3599999995⟩ ∧
      (mailAt 1).Calls (violations
        ((downRound [endlessTrigger, mailAt 1]).run steadyClock (0, [])).2
        (downRound [endlessTrigger, mailAt 1]).check ⟨-3599999995⟩ (steadyClock 6)) ∧
      ¬ (downRound [endlessTrigger, mailAt 1]).Dispatches steadyClock (0, []) [endlessTrigger]
        (mailAt 1) := by
  refine ⟨rfl, by simp [downRound], downRound_accepts _ 1, by decide +kernel,
    ⟨by decide +kernel, by decide +kernel, by decide +kernel⟩, ?_⟩
  rintro ⟨turn, arrived, later, ran, _⟩
  have broken : (((downRound [endlessTrigger, mailAt 1]).pipeline.upTo
      (downRound [endlessTrigger, mailAt 1]).check [endlessTrigger]).run (answerAt steadyClock)
      (0, (downRound [endlessTrigger, mailAt 1]).start [])).1.isNone = true := by decide +kernel
  rw [ran] at broken
  simp at broken

end FleetMonitor
