import FleetMonitor.Proofs.Hysteresis
import FleetMonitor.Proofs.Records
import FleetMonitor.Proofs.Stages

/-!
# What a cycle leaves behind

Between two requests of a cycle time goes on, stores fail and work again, and hosts and
recipients change their minds.  A cycle adds one record to the store or none, and without a
record it has sent nothing and held no key.
-/

set_option autoImplicit false

namespace FleetMonitor

open Routine Surroundings

namespace Store

def rowOf : Store → CycleRecord → CycleRecord
  | memory _, record => record
  | file _, record => FileStore.recordRow record

def appended (rows : List CycleRecord) : Store → Store
  | memory store => memory { store with records := store.records ++ rows }
  | file store => file { store with records := store.records ++ rows }

theorem appended_nil (store : Store) : store.appended [] = store := by
  cases store <;> simp [appended]

theorem create_appended (store later : Store) (now : Instant) (clusterId checkId : Int)
    (failing : Bool) (expressions : List Expression) (seconds : Int) (record : CycleRecord)
    (wrote : store.create now clusterId checkId failing expressions seconds =
      some (.ok (record, later))) :
    ∃ expires, now.plus? seconds = some expires ∧
      record = ⟨clusterId, checkId, now, failing, expressions, expires⟩ ∧
        later = store.appended [store.rowOf record] := by
  obtain ⟨expires, inRange, wrote⟩ := Option.map_eq_some_iff.mp wrote
  refine ⟨expires, inRange, ?_⟩
  cases store with
  | memory store =>
      obtain ⟨rfl, rfl⟩ := Prod.mk.inj (Except.ok.inj wrote)
      exact ⟨rfl, rfl⟩
  | file store =>
      simp only [addRecord, FileStore.addRecord, FileStore.whenOpen] at wrote
      split at wrote
      · obtain ⟨rfl, rfl⟩ := Prod.mk.inj (Except.ok.inj wrote)
        exact ⟨rfl, rfl⟩
      · cases wrote

end Store

def Request.prepares (request : Request) : Bool :=
  request.observes || request.isCreate

namespace Surroundings

/-- The store, the keys and what was sent are the same; time, failures and the ways of the
world are any. -/
structure Undisturbed (s later : Surroundings) : Prop where
  store : later.store = s.store
  outbox : later.outbox = s.outbox
  keys : later.keys = s.keys

theorem Undisturbed.refl (s : Surroundings) : s.Undisturbed s :=
  ⟨rfl, rfl, rfl⟩

theorem Undisturbed.trans {first second third : Surroundings} (early : first.Undisturbed second)
    (late : second.Undisturbed third) : first.Undisturbed third :=
  ⟨late.store.trans early.store, late.outbox.trans early.outbox, late.keys.trans early.keys⟩

def Serves (s : Surroundings) (exchange : Exchange) (later : Surroundings) : Prop :=
  ∃ asked, s.Undisturbed asked ∧ answer exchange.request asked = (exchange.answer, later)

theorem serves_run {α : Type} (routine : Routine α) (s : Surroundings) :
    Course Serves routine s (routine.logOf answer s) (routine.runIn s).1 (routine.runIn s).2 :=
  (course_of_run answer routine s).map id fun s _ _ answered => ⟨s, .refl s, answered⟩

variable {s later : Surroundings} {exchange : Exchange} {log : List Exchange}

theorem Serves.undisturbed (serves : s.Serves exchange later)
    (prepares : exchange.request.prepares = true) (uncreated : exchange.creates = false) :
    s.Undisturbed later := by
  obtain ⟨asked, between, answered⟩ := serves
  refine between.trans ?_
  obtain ⟨request, given⟩ := exchange
  cases request with
  | create clusterId checkId failing expressions seconds =>
      change asked.create clusterId checkId failing expressions seconds = (given, later) at answered
      rcases asked.create_cases clusterId checkId failing expressions seconds with
        ⟨same, _⟩ | ⟨record, store, wrote, _⟩
      · rw [answered] at same
        obtain rfl : later = asked := same
        exact .refl later
      · rw [answered] at wrote
        obtain ⟨rfl, _⟩ := Prod.mk.inj wrote
        cases uncreated
  | incidentKey | holdKey | dropKey | mail | page | lastGood | violationsSince => cases prepares
  | _ =>
      obtain ⟨_, rfl⟩ := Prod.mk.inj answered
      exact .refl asked

theorem undisturbed_leads (leads : Leads Serves s log later)
    (unmoving : ∀ exchange ∈ log, exchange.request.prepares = true ∧ exchange.creates = false) :
    s.Undisturbed later := by
  refine (Leads.invariant _ (fun _ => True) s.Undisturbed ?_ leads unmoving (.refl s)).2
  intro middle exchange later fits before serves
  exact ⟨trivial, before.trans (serves.undisturbed fits.1 fits.2)⟩

theorem prepares_of_observes {request : Request} {answer : request.Answer}
    (observes : request.observes = true) :
    request.prepares = true ∧ (⟨request, answer⟩ : Exchange).creates = false := by
  cases request <;> first | exact ⟨rfl, rfl⟩ | cases observes

theorem escalates_store {dispatcher : Dispatcher} {check : Check}
    {sent : Option (Except StoreError Nat)}
    (course : Course Serves (Escalation.runTriggers dispatcher check) s log sent later) :
    later.store = s.store := by
  refine (Leads.invariant (fun exchange => exchange.request.isCreate = false) (fun _ => True)
    (fun middle => middle.store = s.store) ?_ course.leads
    ((Escalation.runTriggers_quiet _ _).asks.course course) rfl).2
  rintro middle exchange later harmless before ⟨asked, between, answered⟩
  have same := (answer_sameGround exchange.request asked harmless).store
  rw [answered] at same
  exact ⟨trivial, same.trans (between.store.trans before)⟩

/-- A request that created a record has added one row to the store, of the time when it was
answered. -/
theorem Serves.created {clusterId checkId : Int} {failing : Bool} {expressions : List Expression}
    {seconds : Int} {record : CycleRecord}
    (serves : s.Serves ⟨.create clusterId checkId failing expressions seconds,
      some (.ok record)⟩ later) :
    later.store = s.store.appended [s.store.rowOf record] ∧
      ∃ created expires, created.plus? seconds = some expires ∧
        record = ⟨clusterId, checkId, created, failing, expressions, expires⟩ := by
  obtain ⟨asked, between, answered⟩ := serves
  change asked.create clusterId checkId failing expressions seconds =
    (some (.ok record), later) at answered
  rcases asked.create_cases clusterId checkId failing expressions seconds with
    ⟨_, unwritten⟩ | ⟨found, store, wrote, made⟩
  · rw [answered] at unwritten
    exact absurd rfl (unwritten record)
  · rw [answered] at wrote
    obtain ⟨isFound, rfl⟩ := Prod.mk.inj wrote
    obtain rfl := Except.ok.inj (Option.some.inj isFound)
    obtain ⟨expires, inRange, isRecord, added⟩ := asked.store.create_appended _ _ _ _ _ _ _ _ made
    rw [between.store] at added
    exact ⟨added, asked.now, expires, inRange, isRecord⟩

end Surroundings

namespace Pipeline

/-- A record as a cycle of a check makes it, going from a state through some exchanges. -/
structure Makes (pipeline : Pipeline) (check : Check) (s : Surroundings) (log : List Exchange)
    (made : CycleRecord) : Prop where
  clusterId : made.clusterId = check.clusterId
  checkId : made.checkId = check.id
  reduced : made.failing = Verdict.reduce made.expressions
  evaluated : ∃ head tail middle, log = head ++ tail ∧
    Course Serves (Evaluation.evaluate pipeline.freshness check) s head
      (some (.ok (made.expressions, made.failing))) middle
  /-- The record lives for the days that the cluster has for the table of records, or for the
  default if it has none or cannot be asked. -/
  expires : ∃ told, ⟨.retentionDays check.clusterId recordTable, told⟩ ∈ log ∧
    (told = s.store.retentionDays check.clusterId recordTable ∨ told = .error injected) ∧
      made.created.plus? (pipeline.daysKept told * 86400) = some made.expires

theorem seconds_of_days {n seconds : Int} (inRange : Instant.days? n = some seconds) :
    seconds = n * 86400 := by
  unfold Instant.days? Instant.distance? at inRange
  split at inRange
  · exact (Option.some.inj inRange).symm
  · cases inRange

/-- What a cycle leaves behind: the rows that it added to the store, and what came with them. -/
structure Leaves (pipeline : Pipeline) (check : Check) (s : Surroundings) (log : List Exchange)
    (value : Option (Except CycleError CycleReport)) (later : Surroundings)
    (rows : List CycleRecord) : Prop where
  store : later.store = s.store.appended rows
  /-- There is no row, or one: of the record that the cycle made.  Then the triggers had their
  turn, and the outcome is theirs. -/
  atMostOne : rows = [] ∨ ∃ made, rows = [s.store.rowOf made] ∧ pipeline.Makes check s log made ∧
    ∃ head tail created sent, log = head ++ tail ∧
      Course Serves (Escalation.runTriggers pipeline.dispatcher check) created tail sent later ∧
        value = sent.map (escalated made.failing)
  /-- There is one exactly if the hosts were told, the check has expressions and a record was
  created. -/
  recorded : rows ≠ [] ↔ (∃ exchange ∈ log, exchange.tellsHosts = true) ∧
    check.expressions ≠ [] ∧ ∃ exchange ∈ log, exchange.creates = true
  /-- A cycle that was told the hosts of a check with expressions tries to create a record, if
  it does not break off. -/
  tried : (∃ exchange ∈ log, exchange.tellsHosts = true) → check.expressions ≠ [] →
    value ≠ none → ∃ exchange ∈ log, exchange.request.isCreate = true
  /-- Without a row no message goes out, no key changes, and no trigger had its turn. -/
  silent : rows = [] → later.outbox = s.outbox ∧ later.keys = s.keys ∧
    (∀ exchange ∈ log, exchange.request.prepares = true) ∧
      ∀ e, value ≠ some (.error (.triggers e))

theorem leaves_nothing (pipeline : Pipeline) (check : Check) {s later : Surroundings}
    {log : List Exchange} {value : Option (Except CycleError CycleReport)}
    (leads : Leads Serves s log later)
    (unmoving : ∀ exchange ∈ log, exchange.request.prepares = true ∧ exchange.creates = false)
    (tried : (∃ exchange ∈ log, exchange.tellsHosts = true) → check.expressions ≠ [] →
      value ≠ none → ∃ exchange ∈ log, exchange.request.isCreate = true)
    (early : ∀ e, value ≠ some (.error (.triggers e))) :
    pipeline.Leaves check s log value later [] := by
  have undisturbed := undisturbed_leads leads unmoving
  refine ⟨?_, Or.inl rfl, ?_, tried, fun _ => ⟨undisturbed.outbox, undisturbed.keys, ?_, early⟩⟩
  · rw [Store.appended_nil, undisturbed.store]
  · refine iff_of_false (fun nonempty => nonempty rfl) ?_
    rintro ⟨_, _, exchange, member, creates⟩
    rw [(unmoving exchange member).2] at creates
    cases creates
  · exact fun exchange member => (unmoving exchange member).1

theorem evaluate_unmoving {freshness : Span} {check : Check} {s later : Surroundings}
    {log : List Exchange} {value : Option (Except EvaluationError (List Expression × Bool))}
    (evaluates : Course Serves (Evaluation.evaluate freshness check) s log value later) :
    ∀ exchange ∈ log, exchange.request.prepares = true ∧ exchange.creates = false :=
  fun exchange member => prepares_of_observes
    ((Evaluation.evaluate_observes freshness check).course evaluates exchange member)

theorem leaves_record (pipeline : Pipeline) (check : Check)
    {s middle between written later : Surroundings} {head tail : List Exchange}
    {evaluated : List Expression} {failing : Bool}
    (evaluates : Course Serves (Evaluation.evaluate pipeline.freshness check) s head
      (some (.ok (evaluated, failing))) middle)
    (nonempty : evaluated ≠ []) (told : Except StoreError (Option Nat))
    (asks : middle.Serves ⟨.retentionDays check.clusterId recordTable, told⟩ between)
    (seconds : Int) (inRange : Instant.days? (pipeline.daysKept told) = some seconds)
    (record : CycleRecord)
    (writes : between.Serves ⟨.create check.clusterId check.id failing evaluated seconds,
      some (.ok record)⟩ written)
    (sent : Option (Except StoreError Nat))
    (escalates : Course Serves (Escalation.runTriggers pipeline.dispatcher check) written tail
      sent later) :
    pipeline.Leaves check s
      (head ++ ⟨.retentionDays check.clusterId recordTable, told⟩ ::
        ⟨.create check.clusterId check.id failing evaluated seconds, some (.ok record)⟩ :: tail)
      (sent.map (escalated failing)) later [s.store.rowOf record] := by
  have before := undisturbed_leads evaluates.leads (evaluate_unmoving evaluates)
  have between := before.trans (asks.undisturbed rfl rfl)
  obtain ⟨added, created, expires, lives, rfl⟩ := writes.created
  rw [between.store] at added
  obtain ⟨reduced, lengths⟩ := Evaluation.evaluate_reduces pipeline.freshness check evaluates
  have tells : ∃ exchange ∈ head, exchange.tellsHosts = true := by
    refine Classical.byContradiction fun untold => ?_
    obtain ⟨cause, isError⟩ :=
      (Evaluation.evaluate_told pipeline.freshness check evaluates).mpr untold
    cases isError
  have kept : told = s.store.retentionDays check.clusterId recordTable ∨
      told = .error injected := by
    obtain ⟨asked, unchanged, answered⟩ := asks
    obtain ⟨rfl, _⟩ := Prod.mk.inj answered
    unfold guarded
    rw [unchanged.store, before.store]
    split
    · exact Or.inr rfl
    · exact Or.inl rfl
  refine ⟨(escalates_store escalates).trans added, Or.inr ⟨_, rfl, ⟨rfl, rfl, reduced, ?_, ?_⟩, ?_⟩,
    ?_, fun _ _ _ => ?_, fun impossible => by cases impossible⟩
  · exact ⟨head, _, middle, rfl, evaluates⟩
  · refine ⟨told, by simp, kept, ?_⟩
    rw [← seconds_of_days inRange]
    exact lives
  · exact ⟨_, tail, written, sent, (List.append_assoc head [_, _] tail).symm, escalates, rfl⟩
  · refine iff_of_true (List.cons_ne_nil _ _) ⟨?_, ?_, ?_⟩
    · obtain ⟨exchange, member, told⟩ := tells
      exact ⟨exchange, List.mem_append_left _ member, told⟩
    · rintro noExpressions
      rw [noExpressions] at lengths
      exact nonempty (List.length_eq_zero_iff.mp lengths)
    · exact ⟨_, List.mem_append_right _ (List.mem_cons_of_mem _ List.mem_cons_self), rfl⟩
  · exact ⟨_, List.mem_append_right _ (List.mem_cons_of_mem _ List.mem_cons_self), rfl⟩

/-- A cycle adds one record to the store or none: one exactly if it was told the hosts, the
check has expressions and a record was created.  Without a record nothing is sent and no key
changes; with one the outcome is that of the triggers, and their failure leaves the record. -/
theorem cycle_leaves (pipeline : Pipeline) (check : Check) {s later : Surroundings}
    {log : List Exchange} {value : Option (Except CycleError CycleReport)}
    (course : Course Serves (pipeline.cycle check) s log value later) :
    ∃ rows, pipeline.Leaves check s log value later rows := by
  rcases pipeline.cycle_goes check course with evaluates | ⟨cause, evaluates⟩ |
    ⟨failing, evaluates⟩ | ⟨evaluates, nonempty, told, asks, outOfRange⟩ |
    ⟨evaluates, nonempty, told, asks, seconds, inRange, refusal, writes⟩ |
    ⟨evaluates, nonempty, told, asks, seconds, inRange, record, writes, sent, escalates⟩
  · exact ⟨[], pipeline.leaves_nothing check evaluates.leads (evaluate_unmoving evaluates)
      (fun _ _ broke => absurd rfl broke) nofun⟩
  · have untold := (Evaluation.evaluate_told pipeline.freshness check evaluates).mp ⟨cause, rfl⟩
    exact ⟨[], pipeline.leaves_nothing check evaluates.leads (evaluate_unmoving evaluates)
      (fun told => absurd told untold) nofun⟩
  · have lengths := (Evaluation.evaluate_reduces pipeline.freshness check evaluates).2
    exact ⟨[], pipeline.leaves_nothing check evaluates.leads (evaluate_unmoving evaluates)
      (fun _ nonempty => absurd (List.length_eq_zero_iff.mp lengths.symm) nonempty) nofun⟩
  · refine ⟨[], pipeline.leaves_nothing check (evaluates.leads.append (.cons asks (.nil _))) ?_
      (fun _ _ broke => absurd rfl broke) nofun⟩
    refine List.forall_mem_append.mpr ⟨evaluate_unmoving evaluates, fun exchange member => ?_⟩
    rw [List.mem_singleton.mp member]
    exact ⟨rfl, rfl⟩
  · refine ⟨[], pipeline.leaves_nothing check
      (evaluates.leads.append (.cons asks (.cons writes (.nil _)))) ?_ ?_ ?_⟩
    · refine List.forall_mem_append.mpr ⟨evaluate_unmoving evaluates, ?_⟩
      cases refusal <;> simp [Request.prepares, Request.observes, Request.isCreate, Exchange.creates]
    · exact fun _ _ _ => ⟨_, List.mem_append_right _ (List.mem_cons_of_mem _ List.mem_cons_self), rfl⟩
    · cases refusal <;> simp
  · exact ⟨_, pipeline.leaves_record check evaluates nonempty told asks seconds inRange record writes
      sent escalates⟩

end Pipeline

def historyUnread : Surroundings :=
  { (downRound []).around with faults := [.lastGood] }

/-- Where the newest passing record cannot be read, the cycle has an error and its record
stays. -/
theorem unread_history_keeps_record :
    (((downRound [mailAt 1]).pipeline.cycle (downRound [mailAt 1]).check).runIn historyUnread).1 =
        some (.error (.triggers injected)) ∧
      ∃ made, (((downRound [mailAt 1]).pipeline.cycle
          (downRound [mailAt 1]).check).runIn historyUnread).2.store =
        historyUnread.store.appended [made] := by
  have ends : (((downRound [mailAt 1]).pipeline.cycle
      (downRound [mailAt 1]).check).runIn historyUnread).1 =
        some (.error (.triggers injected)) := rfl
  obtain ⟨rows, leaves⟩ := (downRound [mailAt 1]).pipeline.cycle_leaves
    (downRound [mailAt 1]).check (serves_run _ historyUnread)
  refine ⟨ends, ?_⟩
  rcases leaves.atMostOne with noRow | ⟨made, rfl, _⟩
  · exact absurd ends ((leaves.silent noRow).2.2.2 injected)
  · exact ⟨made, leaves.store⟩

end FleetMonitor
