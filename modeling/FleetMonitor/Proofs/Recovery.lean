import FleetMonitor.Proofs.Recall
import FleetMonitor.Proofs.Records
import FleetMonitor.Proofs.Stages

/-!
# Cycles that recover

A cycle observes, writes its record and runs the triggers.  Where the record is a passing
one no trigger finds violations after it: nobody is called, and every trigger that gets its
turn is cleared.
-/

set_option autoImplicit false

namespace FleetMonitor

open Routine Surroundings

namespace Pipeline

/-- A cycle observes, then writes one record, then runs the triggers; it may end early. -/
theorem cycle_course {σ : Type} {responds : σ → Exchange → σ → Prop} (pipeline : Pipeline)
    (check : Check) {s later : σ} {log : List Exchange}
    {value : Option (Except CycleError CycleReport)}
    (course : Course responds (pipeline.cycle check) s log value later) :
    (∀ exchange ∈ log, exchange.request.observes = true) ∨
      ∃ prelude failing expressions seconds written middle created tail,
        log = prelude ++
            ⟨.create check.clusterId check.id failing expressions seconds, written⟩ :: tail ∧
          (∀ exchange ∈ prelude, exchange.request.observes = true) ∧
            Leads responds s prelude middle ∧
              responds middle
                ⟨.create check.clusterId check.id failing expressions seconds, written⟩ created ∧
                ((tail = [] ∧ later = created ∧ ∀ record, written ≠ some (.ok record)) ∨
                  ∃ record sent, written = some (.ok record) ∧
                    Course responds (Escalation.runTriggers pipeline.dispatcher check) created tail
                      sent later ∧ value = sent.map (escalated failing)) := by
  have evaluated := Evaluation.evaluate_observes pipeline.freshness check
  rcases pipeline.cycle_goes check course with evaluates | ⟨_, evaluates⟩ | ⟨_, evaluates⟩ |
    ⟨evaluates, _, told, asks, _⟩ | ⟨evaluates, _, told, asks, seconds, _, refusal, writes⟩ |
    ⟨evaluates, _, told, asks, seconds, _, record, writes, sent, escalates⟩
  · exact Or.inl (evaluated.course evaluates)
  · exact Or.inl (evaluated.course evaluates)
  · exact Or.inl (evaluated.course evaluates)
  · exact Or.inl (List.forall_mem_append.mpr ⟨evaluated.course evaluates, by simp [Request.observes]⟩)
  · refine Or.inr ⟨_, _, _, seconds, _, _, _, [], List.append_cons .., ?_,
      evaluates.leads.append (.cons asks (.nil _)), writes, Or.inl ⟨rfl, rfl, ?_⟩⟩
    · exact List.forall_mem_append.mpr ⟨evaluated.course evaluates, by simp [Request.observes]⟩
    · cases refusal <;> nofun
  · refine Or.inr ⟨_, _, _, seconds, _, _, _, _, List.append_cons .., ?_,
      evaluates.leads.append (.cons asks (.nil _)), writes, Or.inr ⟨record, sent, rfl, escalates, rfl⟩⟩
    exact List.forall_mem_append.mpr ⟨evaluated.course evaluates, by simp [Request.observes]⟩

end Pipeline

/-! ## The history of a cycle -/

theorem Request.observes.beginsTurn {request : Request} (observes : request.observes = true) :
    request.beginsTurn = false := by
  cases request <;> first | rfl | cases observes

theorem Request.observes.concernsKeys {request : Request} (observes : request.observes = true) :
    request.concernsKeys = false := by
  cases request <;> first | rfl | cases observes

theorem mem_inTurns {check : Check} {turn : Option Trigger} {triggers : List Trigger}
    {log : List Exchange} {happening : Happening}
    (member : happening ∈ inTurns check turn triggers log) :
    ∃ turn exchange, exchange ∈ log ∧ happening = .exchange check turn exchange := by
  induction log generalizing turn triggers with
  | nil => simp [inTurns] at member
  | cons exchange rest ih =>
      unfold inTurns at member
      split at member <;> rcases List.mem_cons.mp member with rfl | inRest
      · exact ⟨_, exchange, by simp, rfl⟩
      · obtain ⟨turn, other, found, same⟩ := ih inRest
        exact ⟨turn, other, by simp [found], same⟩
      · exact ⟨_, exchange, by simp, rfl⟩
      · obtain ⟨turn, other, found, same⟩ := ih inRest
        exact ⟨turn, other, by simp [found], same⟩

theorem IncidentKeys.leads_kept {keys later : IncidentKeys} {log : List Exchange}
    (leads : Leads IncidentKeys.Responds keys log later)
    (apart : ∀ exchange ∈ log, exchange.request.concernsKeys = false) : later = keys := by
  have step : ∀ (s : IncidentKeys) (exchange : Exchange) (later : IncidentKeys),
      exchange.request.concernsKeys = false → s = keys → s.Responds exchange later →
        True ∧ later = keys := by
    rintro s ⟨request, answer⟩ later apart same responds
    refine ⟨trivial, ?_⟩
    rw [responds.2, same]
    cases request <;> first | rfl | cases apart
  exact (Leads.invariant _ _ _ step leads apart rfl).2

theorem inTurns_lead (check : Check) (turn : Option Trigger) (triggers : List Trigger)
    {prelude : List Exchange} (observed : ∀ exchange ∈ prelude, exchange.request.observes = true)
    (clusterId checkId : Int) (failing : Bool) (expressions : List Expression) (seconds : Int)
    (written : Timely CycleRecord) (tail : List Exchange) :
    inTurns check turn triggers
        (prelude ++ ⟨.create clusterId checkId failing expressions seconds, written⟩ :: tail) =
      List.map (.exchange check turn) (prelude ++
          [⟨.create clusterId checkId failing expressions seconds, written⟩]) ++
        inTurns check turn triggers tail := by
  rw [List.append_cons, inTurns_append]
  intro exchange member
  rcases List.mem_append.mp member with early | last
  · exact Request.observes.beginsTurn (observed exchange early)
  · rw [List.mem_singleton.mp last]
    rfl

theorem Faithful.cycled {history : List Happening} {keys later : IncidentKeys}
    (faithful : Faithful history keys) (pipeline : Pipeline) (check : Check)
    {log : List Exchange} {value : Option (Except CycleError CycleReport)}
    (course : Course IncidentKeys.Responds (pipeline.cycle check) keys log value later) :
    Faithful (history ++ inTurns check none check.triggers log) later := by
  rcases pipeline.cycle_course check course with observed |
    ⟨prelude, failing, expressions, seconds, written, middle, created, tail, rfl, observed, leads,
      ⟨_, recorded⟩, rest⟩
  · have apart : ∀ exchange ∈ log, exchange.request.concernsKeys = false :=
      fun exchange member => Request.observes.concernsKeys (observed exchange member)
    have within := inTurns_append check none check.triggers log []
      fun exchange member => Request.observes.beginsTurn (observed exchange member)
    rw [List.append_nil] at within
    rw [within, IncidentKeys.leads_kept course.leads apart]
    simpa [inTurns] using faithful.aside check none log apart
  · have apart : ∀ exchange ∈ prelude ++
        [⟨.create check.clusterId check.id failing expressions seconds, written⟩],
          exchange.request.concernsKeys = false := by
      intro exchange member
      rcases List.mem_append.mp member with early | last
      · exact Request.observes.concernsKeys (observed exchange early)
      · rw [List.mem_singleton.mp last]
        rfl
    have kept : created = keys := recorded.trans (IncidentKeys.leads_kept leads fun exchange member =>
      Request.observes.concernsKeys (observed exchange member))
    have led := faithful.aside check none _ apart
    rw [inTurns_lead check none check.triggers observed, ← List.append_assoc]
    rcases rest with ⟨rfl, rfl, _⟩ | ⟨_, _, _, ran, _⟩
    · rw [kept]
      simpa [inTurns] using led
    · rw [kept] at ran
      exact led.escalated pipeline.dispatcher check none ran

/-! ## After a passing record -/

theorem Escalation.le_bound {good now bound : Instant} {trigger : Trigger}
    (bounded : bound? (some good) now trigger = some bound) : good ≤ bound := by
  rw [bound?_eq] at bounded
  obtain ⟨start, _, rfl⟩ := Option.map_eq_some_iff.mp bounded
  change good ≤ good.later start
  unfold Instant.later
  split
  · assumption
  · exact Int.le_refl _

namespace Escalation.Turned

variable {check : Check} {lastGood : Option Instant} {now : Instant} {trigger : Trigger}
  {keys later : IncidentKeys} {log : List Exchange} {value : Option (Except StoreError Bool)}

theorem unasked (turned : Turned check lastGood now trigger keys log none later) : log = [] := by
  cases turned with
  | outOfRange => rfl

theorem harmless (turned : Turned check lastGood now trigger keys log value later) :
    ∀ exchange ∈ log, exchange.request.isCreate = false := by
  cases turned with
  | outOfRange | unread | outside | unkeyed | keyed => simp [Request.isCreate]
  | mailed bound found _ _ mails sent =>
      intro exchange member
      rcases List.mem_cons.mp member with rfl | member
      · rfl
      rcases List.mem_cons.mp member with rfl | mailed
      · rfl
      · obtain ⟨mail, _, rfl⟩ := List.mem_map.mp mailed
        rfl

theorem unmoved (turned : Turned check lastGood now trigger keys log value later)
    (nothingFound : ∀ bound found, bound? lastGood now trigger = some bound →
      (⟨.violationsSince check.clusterId check.id bound, .ok found⟩ : Exchange) ∈ log →
        found = []) :
    (∀ exchange ∈ log, (Happening.exchange check (some trigger) exchange).isPage = false) ∧
      ∀ sent, value = some (.ok sent) → ∃ exchange ∈ log,
        (Happening.exchange check (some trigger) exchange).Clears check.id trigger.id := by
  have idle : ∀ bound found, bound? lastGood now trigger = some bound →
      (⟨.violationsSince check.clusterId check.id bound, .ok found⟩ : Exchange) ∈ log →
        ¬ trigger.Calls found.length := by
    rintro bound found bounded member ⟨calls, _⟩
    rw [nothingFound bound found bounded member] at calls
    simp at calls
  cases turned with
  | outOfRange => exact ⟨by simp, nofun⟩
  | unread bound e => exact ⟨by simp [Happening.isPage], nofun⟩
  | outside bound found bounded quiet =>
      refine ⟨by simp [Happening.isPage], fun _ _ => ⟨_, List.mem_cons_self, ?_⟩⟩
      exact ⟨rfl, rfl, quiet⟩
  | mailed bound found bounded calls => exact absurd calls (idle bound found bounded (by simp))
  | unkeyed bound found bounded calls => exact absurd calls (idle bound found bounded (by simp))
  | keyed bound found bounded calls => exact absurd calls (idle bound found bounded (by simp))

end Escalation.Turned

namespace Surroundings.NoneAfter

variable {check : Check} {s later : Surroundings} {good : Instant}

theorem leads {log : List Exchange} (leads : Leads (Replies check) s log later)
    (harmless : ∀ exchange ∈ log, exchange.request.isCreate = false)
    (past : s.NoneAfter check good) :
    (∀ exchange ∈ log, ∀ bound found, exchange =
        ⟨.violationsSince check.clusterId check.id bound, .ok found⟩ → good ≤ bound →
          found = []) ∧ later.NoneAfter check good := by
  refine Leads.invariant (fun exchange => exchange.request.isCreate = false) _
    (NoneAfter check good) ?_ leads harmless past
  intro s exchange later harmless past replies
  refine ⟨?_, replies.noneAfter harmless past⟩
  rintro bound found rfl ordered
  exact replies.violations past ordered

theorem leads_now {log : List Exchange} (settled : s.NoneAfter check s.now)
    (leads : Leads (Replies check) s log later) : later.NoneAfter check later.now := by
  have step : ∀ (s : Surroundings) (exchange : Exchange) (later : Surroundings), True →
      s.NoneAfter check s.now → s.Replies check exchange later →
        True ∧ later.NoneAfter check later.now :=
    fun _ _ _ _ settled replies => ⟨trivial, replies.settled settled⟩
  exact (Leads.invariant _ _ _ step leads (by simp) settled).2

/-- Triggers with no violations call nobody, and each of them is cleared unless the cycle
breaks off or the store fails. -/
theorem turns (dispatcher : Dispatcher) (now : Instant) (triggers : List Trigger)
    (past : s.NoneAfter check good) (turn : Option Trigger) {delivered : Nat}
    {log : List Exchange} {value : Option (Except StoreError Nat)}
    (course : Course (Replies check)
      (Escalation.runAll dispatcher check (some good) now triggers delivered) s log value later) :
    (∀ happening ∈ inTurns check turn triggers log, happening.isPage = false) ∧
      ∀ total, value = some (.ok total) → ∀ trigger ∈ triggers,
        ∃ happening ∈ inTurns check turn triggers log, happening.Clears check.id trigger.id := by
  induction triggers generalizing s log turn delivered with
  | nil =>
      obtain ⟨rfl, _, _⟩ := course.of_done
      exact ⟨by simp [inTurns], by simp⟩
  | cons trigger rest ih =>
      have keyed : ∀ {s later : Surroundings} {log : List Exchange}
          {value : Option (Except StoreError Bool)},
          Course (Replies check) (Escalation.runTrigger dispatcher check (some good) now trigger) s
            log value later →
          Escalation.Turned check (some good) now trigger s.keys log value later.keys :=
        fun began => Escalation.runTrigger_course dispatcher check (some good) now trigger
          (began.map (·.keys) fun _ _ _ replies => replies.responds)
      unfold Escalation.runAll at course
      rcases course.of_bind with ⟨head, tail, result, middle, rfl, began, ended⟩ | ⟨rfl, broke⟩
      · have turned := keyed began
        obtain ⟨found, kept⟩ := NoneAfter.leads began.leads turned.harmless past
        obtain ⟨quiet, clears⟩ := turned.unmoved fun bound records bounded member =>
          found _ member bound records rfl (Escalation.le_bound bounded)
        rw [inTurns_turned turned]
        have quietHead : ∀ happening ∈ head.map (Happening.exchange check (some trigger)),
            happening.isPage = false := by
          intro happening member
          obtain ⟨exchange, inHead, rfl⟩ := List.mem_map.mp member
          exact quiet exchange inHead
        cases result with
        | error e =>
            obtain ⟨rfl, rfl, _⟩ := ended.of_done
            refine ⟨?_, by simp⟩
            simpa [inTurns] using quietHead
        | ok sent =>
            obtain ⟨quietTail, clearsTail⟩ := ih kept (some trigger) ended
            refine ⟨List.forall_mem_append.mpr ⟨quietHead, quietTail⟩, ?_⟩
            intro total ended other member
            rcases List.mem_cons.mp member with rfl | inRest
            · obtain ⟨exchange, member, cleared⟩ := clears sent rfl
              exact ⟨_, List.mem_append_left _ (List.mem_map_of_mem member), cleared⟩
            · obtain ⟨happening, member, cleared⟩ := clearsTail total ended other inRest
              exact ⟨happening, List.mem_append_right _ member, cleared⟩
      · rw [(keyed broke).unasked]
        exact ⟨by simp [inTurns], by simp⟩

theorem escalated (dispatcher : Dispatcher) (pass : CycleRecord)
    (member : pass ∈ s.store.written check.clusterId check.id) (passing : pass.failing = false)
    (latest : s.NoneAfter check pass.created) (turn : Option Trigger) {log : List Exchange}
    {value : Option (Except StoreError Nat)}
    (course : Course (Replies check) (Escalation.runTriggers dispatcher check) s log value
      later) :
    (∀ happening ∈ inTurns check turn check.triggers log, happening.isPage = false) ∧
      (check.silenced = false → ∀ total, value = some (.ok total) → ∀ trigger ∈ check.triggers,
        ∃ happening ∈ inTurns check turn check.triggers log,
          happening.Clears check.id trigger.id) := by
  unfold Escalation.runTriggers at course
  split at course
  · rename_i idle
    obtain ⟨rfl, _, _⟩ := course.of_done
    refine ⟨by simp [inTurns], fun heard total _ trigger own => ?_⟩
    rw [heard, Bool.false_or, List.isEmpty_iff] at idle
    rw [idle] at own
    simp at own
  · obtain ⟨answer, between, tail, rfl, replies, rest⟩ := course.of_request_bind
    cases answer with
    | error e =>
        obtain ⟨rfl, rfl, _⟩ := rest.of_done
        exact ⟨by simp [inTurns, Request.beginsTurn, Happening.isPage], by simp⟩
    | ok found =>
        obtain ⟨good, rfl, past⟩ := replies.lastGood pass member passing latest
        obtain ⟨now, after, tail, rfl, told, rest⟩ := rest.of_request_bind
        obtain ⟨quiet, clears⟩ := turns dispatcher now check.triggers (told.noneAfter rfl past) turn
          rest
        simp only [inTurns, Request.beginsTurn, Bool.false_eq_true, if_false, List.forall_mem_cons]
        refine ⟨⟨rfl, rfl, quiet⟩, fun _ total ended trigger own => ?_⟩
        obtain ⟨happening, member, cleared⟩ := clears total ended trigger own
        exact ⟨happening, List.mem_cons_of_mem _ (List.mem_cons_of_mem _ member), cleared⟩

end Surroundings.NoneAfter

/-- In a cycle that creates a passing record nobody is called, and every trigger is cleared
unless the check is silenced, the cycle breaks off, or the store fails while triggers are
run. -/
theorem Pipeline.cycle_recovers (pipeline : Pipeline) (check : Check) {s later : Surroundings}
    {log : List Exchange} {value : Option (Except CycleError CycleReport)}
    (settled : s.NoneAfter check s.now)
    (course : Course (Replies check) (pipeline.cycle check) s log value later)
    {passed : List Expression} {howLong : Int} {made : CycleRecord}
    (passes : (⟨.create check.clusterId check.id false passed howLong, some (.ok made)⟩ :
      Exchange) ∈ log) :
    (∀ happening ∈ inTurns check none check.triggers log, happening.isPage = false) ∧
      (check.silenced = false → value ≠ none → (∀ e, value ≠ some (.error (.triggers e))) →
        ∀ trigger ∈ check.triggers, ∃ happening ∈ inTurns check none check.triggers log,
          happening.Clears check.id trigger.id) := by
  rcases pipeline.cycle_course check course with observed |
    ⟨prelude, failing, expressions, seconds, written, middle, created, tail, rfl, observed, leads,
      recorded, rest⟩
  · cases observed _ passes
  -- The passing record is the one that the cycle writes: triggers write none.
  · have quietTail : ∀ exchange ∈ tail, exchange.request.isCreate = false := by
      rcases rest with ⟨rfl, _⟩ | ⟨_, _, _, ran, _⟩
      · simp
      · exact (Escalation.runTriggers_quiet _ _).asks.course ran
    have isRecord : failing = false ∧ written = some (.ok made) := by
      rcases List.mem_append.mp passes with early | late
      · cases observed _ early
      rcases List.mem_cons.mp late with same | late
      · obtain ⟨same, answers⟩ := Exchange.mk.inj same
        obtain ⟨_, _, rfl, rfl, rfl⟩ := Request.create.inj same
        exact ⟨rfl, (eq_of_heq answers).symm⟩
      · cases quietTail _ late
    obtain ⟨rfl, rfl⟩ := isRecord
    obtain ⟨row, inStore, passing, latest⟩ := recorded.recorded (settled.leads_now leads)
    rcases rest with ⟨_, _, unwritten⟩ | ⟨_, sent, _, ran, rfl⟩
    · exact absurd rfl (unwritten made)
    · obtain ⟨quiet, clears⟩ := NoneAfter.escalated pipeline.dispatcher row inStore passing latest
        none ran
      rw [inTurns_lead check none check.triggers observed]
      refine ⟨List.forall_mem_append.mpr ⟨?_, quiet⟩, fun loud ends served trigger own => ?_⟩
      · intro happening member
        obtain ⟨exchange, led, rfl⟩ := List.mem_map.mp member
        rcases List.mem_append.mp led with early | last
        · obtain ⟨request, answer⟩ := exchange
          have observing := observed _ early
          cases request <;> first | rfl | cases observing
        · rw [List.mem_singleton.mp last]
          rfl
      · rcases sent with _ | ⟨e | total⟩
        · exact absurd rfl ends
        · exact absurd rfl (served e)
        · obtain ⟨happening, member, cleared⟩ := clears loud total rfl trigger own
          exact ⟨happening, List.mem_append_right _ member, cleared⟩

end FleetMonitor
