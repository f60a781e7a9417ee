import FleetMonitor.Proofs.Observation

/-!
# The stages of a cycle

A cycle evaluates its check, asks how long records live, writes one record and runs the
triggers.  Each stage may be its last one; what it went through until then are the courses
of its stages, one after another.
-/

set_option autoImplicit false

namespace FleetMonitor

open Routine

def Exchange.tellsHosts : Exchange → Bool
  | ⟨.queryHosts _ _ _, .ok _⟩ => true
  | ⟨.hostsByNames _ _, .ok _⟩ => true
  | _ => false

def Exchange.creates : Exchange → Bool
  | ⟨.create _ _ _ _ _, some (.ok _)⟩ => true
  | _ => false

namespace Evaluation

variable {σ : Type} {responds : σ → Exchange → σ → Prop} {s later : σ} {log : List Exchange}

theorem resolve_course (freshness : Span) (check : Check)
    {value : Option (Except EvaluationError (List Host))}
    (course : Course responds (resolve freshness check) s log value later) :
    ∃ exchange, log = [exchange] ∧
      ((∃ cause, value = some (.error cause)) ∧ exchange.tellsHosts = false ∨
        (∃ hosts, value = some (.ok hosts)) ∧ exchange.tellsHosts = true) := by
  unfold resolve at course
  split at course <;>
    obtain ⟨answer, middle, tail, rfl, _, ended⟩ := course.of_request_bind <;>
    obtain ⟨rfl, rfl, rfl⟩ := ended.of_done <;>
    refine ⟨_, rfl, ?_⟩ <;>
    cases answer with
    | error cause => exact Or.inl ⟨⟨_, rfl⟩, rfl⟩
    | ok hosts => exact Or.inr ⟨⟨_, rfl⟩, rfl⟩

/-- An evaluation has an error exactly if it was not told the hosts. -/
theorem evaluate_told (freshness : Span) (check : Check)
    {value : Option (Except EvaluationError (List Expression × Bool))}
    (course : Course responds (evaluate freshness check) s log value later) :
    (∃ cause, value = some (.error cause)) ↔ ¬ ∃ exchange ∈ log, exchange.tellsHosts = true := by
  unfold evaluate at course
  rcases course.of_bind with ⟨head, tail, resolved, middle, rfl, began, rest⟩ | ⟨rfl, broke⟩
  · obtain ⟨exchange, rfl, ⟨⟨cause, isError⟩, untold⟩ | ⟨⟨hosts, isHosts⟩, told⟩⟩ :=
      resolve_course freshness check began
    · obtain rfl := Option.some.inj isError
      obtain ⟨rfl, rfl, _⟩ := rest.of_done
      exact iff_of_true ⟨cause, rfl⟩ (by simp [untold])
    · obtain rfl := Option.some.inj isHosts
      refine iff_of_false ?_ fun untold => untold ⟨exchange, by simp, told⟩
      rintro ⟨cause, rfl⟩
      rcases rest.of_bind with ⟨_, _, _, _, _, _, ended⟩ | ⟨broke, _⟩
      · obtain ⟨_, isOk, _⟩ := ended.of_done
        cases isOk
      · cases broke
  · obtain ⟨_, _, ⟨⟨_, isValue⟩, _⟩ | ⟨⟨_, isValue⟩, _⟩⟩ := resolve_course freshness check broke <;>
      cases isValue

theorem expressions_length (check : Check) (hosts : List Host) (list : List Expression)
    {value : Option (List Expression)}
    (course : Course responds (expressions check hosts list) s log value later) :
    ∀ evaluated, value = some evaluated → evaluated.length = list.length := by
  induction list generalizing s later log value with
  | nil =>
      obtain ⟨_, rfl, _⟩ := course.of_done
      rintro evaluated isValue
      rw [← Option.some.inj isValue]
  | cons e rest ih =>
      rintro evaluated rfl
      rcases course.of_bind with ⟨_, _, result, _, _, _, course⟩ | ⟨broke, _⟩
      · rcases course.of_bind with ⟨_, _, others, _, _, began, ended⟩ | ⟨broke, _⟩
        · obtain ⟨_, isValue, _⟩ := ended.of_done
          rw [Option.some.inj isValue, List.length_cons, List.length_cons, ih began others rfl]
        · cases broke
      · cases broke

/-- The verdict that an evaluation returns is that of the expressions that it returns, and
they are as many as those of the check. -/
theorem evaluate_reduces (freshness : Span) (check : Check) {evaluated : List Expression}
    {failing : Bool}
    (course : Course responds (evaluate freshness check) s log (some (.ok (evaluated, failing)))
      later) :
    failing = Verdict.reduce evaluated ∧ evaluated.length = check.expressions.length := by
  unfold evaluate at course
  rcases course.of_bind with ⟨_, _, resolved, _, _, _, course⟩ | ⟨broke, _⟩
  · cases resolved with
    | error cause =>
        obtain ⟨_, isValue, _⟩ := course.of_done
        cases isValue
    | ok hosts =>
        rcases course.of_bind with ⟨_, _, list, _, _, began, ended⟩ | ⟨broke, _⟩
        · obtain ⟨_, isValue, _⟩ := ended.of_done
          obtain ⟨rfl, rfl⟩ := Prod.mk.inj (Except.ok.inj (Option.some.inj isValue))
          exact ⟨rfl, expressions_length check hosts check.expressions began evaluated rfl⟩
        · cases broke
  · cases broke

end Evaluation

namespace Pipeline

def daysKept (pipeline : Pipeline) : Except StoreError (Option Nat) → Nat
  | .ok (some days) => days
  | _ => pipeline.retentionDays

def escalated (failing : Bool) : Except StoreError Nat → Except CycleError CycleReport
  | .error e => .error (.triggers e)
  | .ok dispatched => .ok ⟨failing, true, dispatched⟩

section

variable {σ : Type} {responds : σ → Exchange → σ → Prop} {s later : σ} {log : List Exchange}

theorem retention_course (pipeline : Pipeline) (check : Check) {value : Option Int}
    (course : Course responds (pipeline.retention check) s log value later) :
    ∃ told, log = [⟨.retentionDays check.clusterId recordTable, told⟩] ∧
      responds s ⟨.retentionDays check.clusterId recordTable, told⟩ later ∧
        value = Instant.days? (pipeline.daysKept told) := by
  obtain ⟨told, middle, tail, rfl, responded, rest⟩ := course.of_request_bind
  have rest : Course responds (Routine.within (Instant.days? (pipeline.daysKept told))) middle tail
      value later := by
    rcases told with cause | _ | days <;> exact rest
  refine ⟨told, ?_⟩
  cases ending : Instant.days? (pipeline.daysKept told) with
  | none =>
      rw [ending] at rest
      cases rest with
      | broken => exact ⟨rfl, responded, rfl⟩
  | some seconds =>
      rw [ending] at rest
      obtain ⟨rfl, rfl, rfl⟩ := rest.of_done
      exact ⟨rfl, responded, rfl⟩

/-- The ways in which a cycle goes from a state, by the stage that was its last. -/
inductive Goes (responds : σ → Exchange → σ → Prop) (pipeline : Pipeline) (check : Check) (s : σ) :
    List Exchange → Option (Except CycleError CycleReport) → σ → Prop
  | astray {log : List Exchange} {later : σ}
      (evaluates : Course responds (Evaluation.evaluate pipeline.freshness check) s log none later) :
      Goes responds pipeline check s log none later
  | blind {log : List Exchange} {later : σ} (cause : EvaluationError)
      (evaluates : Course responds (Evaluation.evaluate pipeline.freshness check) s log
        (some (.error cause)) later) :
      Goes responds pipeline check s log (some (.error (.evaluation cause))) later
  | idle {log : List Exchange} {later : σ} (failing : Bool)
      (evaluates : Course responds (Evaluation.evaluate pipeline.freshness check) s log
        (some (.ok ([], failing))) later) :
      Goes responds pipeline check s log (some (.ok ⟨failing, false, 0⟩)) later
  | endless {head : List Exchange} {middle later : σ} {evaluated : List Expression} {failing : Bool}
      (evaluates : Course responds (Evaluation.evaluate pipeline.freshness check) s head
        (some (.ok (evaluated, failing))) middle)
      (nonempty : evaluated ≠ []) (told : Except StoreError (Option Nat))
      (asks : responds middle ⟨.retentionDays check.clusterId recordTable, told⟩ later)
      (outOfRange : Instant.days? (pipeline.daysKept told) = none) :
      Goes responds pipeline check s
        (head ++ [⟨.retentionDays check.clusterId recordTable, told⟩]) none later
  | unwritten {head : List Exchange} {middle between later : σ} {evaluated : List Expression}
      {failing : Bool}
      (evaluates : Course responds (Evaluation.evaluate pipeline.freshness check) s head
        (some (.ok (evaluated, failing))) middle)
      (nonempty : evaluated ≠ []) (told : Except StoreError (Option Nat))
      (asks : responds middle ⟨.retentionDays check.clusterId recordTable, told⟩ between)
      (seconds : Int) (inRange : Instant.days? (pipeline.daysKept told) = some seconds)
      (refusal : Option StoreError)
      (writes : responds between ⟨.create check.clusterId check.id failing evaluated seconds,
        refusal.map .error⟩ later) :
      Goes responds pipeline check s
        (head ++ [⟨.retentionDays check.clusterId recordTable, told⟩,
          ⟨.create check.clusterId check.id failing evaluated seconds, refusal.map .error⟩])
        (refusal.map fun e => .error (.record e)) later
  | recorded {head tail : List Exchange} {middle between created later : σ}
      {evaluated : List Expression} {failing : Bool}
      (evaluates : Course responds (Evaluation.evaluate pipeline.freshness check) s head
        (some (.ok (evaluated, failing))) middle)
      (nonempty : evaluated ≠ []) (told : Except StoreError (Option Nat))
      (asks : responds middle ⟨.retentionDays check.clusterId recordTable, told⟩ between)
      (seconds : Int) (inRange : Instant.days? (pipeline.daysKept told) = some seconds)
      (record : CycleRecord)
      (writes : responds between ⟨.create check.clusterId check.id failing evaluated seconds,
        some (.ok record)⟩ created)
      (sent : Option (Except StoreError Nat))
      (escalates : Course responds (Escalation.runTriggers pipeline.dispatcher check) created tail
        sent later) :
      Goes responds pipeline check s
        (head ++ ⟨.retentionDays check.clusterId recordTable, told⟩ ::
          ⟨.create check.clusterId check.id failing evaluated seconds, some (.ok record)⟩ :: tail)
        (sent.map (escalated failing)) later

def closing (pipeline : Pipeline) (check : Check) (failing : Bool) :
    Except StoreError CycleRecord → Routine (Except CycleError CycleReport)
  | .error e => pure (.error (.record e))
  | .ok _ => Escalation.runTriggers pipeline.dispatcher check >>= fun sent =>
      pure (escalated failing sent)

theorem cycle_eq (pipeline : Pipeline) (check : Check) :
    pipeline.cycle check = (do
      match ← Evaluation.evaluate pipeline.freshness check with
      | .error e => pure (.error (.evaluation e))
      | .ok (evaluated, failing) =>
          if evaluated.isEmpty then pure (.ok ⟨failing, false, 0⟩)
          else do
            let seconds ← pipeline.retention check
            let written ← .request (.create check.clusterId check.id failing evaluated seconds)
            closing pipeline check failing (← .within written)) := by
  unfold cycle
  congr 1
  funext result
  rcases result with e | ⟨evaluated, failing⟩
  · rfl
  · dsimp only
    congr 1
    congr 1
    funext seconds
    congr 1
    funext written
    congr 1
    funext written
    cases written with
    | error e => rfl
    | ok record =>
        unfold closing
        dsimp only
        congr 1
        funext sent
        cases sent <;> rfl

theorem cycle_goes (pipeline : Pipeline) (check : Check)
    {value : Option (Except CycleError CycleReport)}
    (course : Course responds (pipeline.cycle check) s log value later) :
    Goes responds pipeline check s log value later := by
  rw [cycle_eq] at course
  rcases course.of_bind with ⟨head, tail, result, middle, rfl, evaluates, course⟩ | ⟨rfl, broke⟩
  · rcases result with cause | ⟨evaluated, failing⟩
    · obtain ⟨rfl, rfl, rfl⟩ := course.of_done
      rw [List.append_nil]
      exact .blind cause evaluates
    · dsimp only at course
      by_cases nonempty : evaluated = []
      · subst nonempty
        obtain ⟨rfl, rfl, rfl⟩ := course.of_done
        rw [List.append_nil]
        exact .idle failing evaluates
      · rw [if_neg (by simpa using nonempty)] at course
        rcases course.of_bind with ⟨days, rest, seconds, between, rfl, kept, goesOn⟩ | ⟨rfl, broke⟩
        · obtain ⟨told, rfl, asks, inRange⟩ := pipeline.retention_course check kept
          obtain ⟨written, created, tail, rfl, writes, closes⟩ := goesOn.of_request_bind
          rcases written with _ | ⟨e | record⟩
          · cases closes with
            | broken => exact .unwritten evaluates nonempty told asks seconds inRange.symm none writes
          · obtain ⟨rfl, rfl, rfl⟩ := closes.of_done
            exact .unwritten evaluates nonempty told asks seconds inRange.symm (some e) writes
          · have closes : Course responds (Escalation.runTriggers pipeline.dispatcher check >>=
                fun sent => Routine.done (escalated failing sent)) created tail value later := closes
            rcases closes.of_bind with ⟨first, last, sent, ran, rfl, escalates, ended⟩ |
              ⟨rfl, escalates⟩
            · obtain ⟨rfl, rfl, rfl⟩ := ended.of_done
              rw [List.append_nil]
              exact .recorded evaluates nonempty told asks seconds inRange.symm record writes _ escalates
            · exact .recorded evaluates nonempty told asks seconds inRange.symm record writes _ escalates
        · obtain ⟨told, rfl, asks, outOfRange⟩ := pipeline.retention_course check broke
          exact .endless evaluates nonempty told asks outOfRange.symm
  · exact .astray broke

end

end Pipeline

end FleetMonitor
