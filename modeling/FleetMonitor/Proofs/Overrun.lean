import FleetMonitor.Proofs.Breaking

/-!
# Times out of range

Whatever the clock does, a cycle comes to its end as long as the times that it needs all
exist; and while the clock stands, it breaks off exactly where one of them does not.
-/

set_option autoImplicit false

namespace FleetMonitor

open Routine Surroundings

/-! ## Coming to the end under any clock -/

namespace Routine

variable {α β : Type} {allowed : Exchange → Prop}

/-- As long as its answers are allowed the routine comes to its end, with a value of some
kind. -/
inductive Ensures (allowed : Exchange → Prop) (holds : α → Prop) : Routine α → Prop
  | done (value : α) (isSo : holds value) : Ensures allowed holds (done value)
  | ask (request : Request) (next : request.Answer → Routine α)
      (rest : ∀ answer, allowed ⟨request, answer⟩ → Ensures allowed holds (next answer)) :
      Ensures allowed holds (ask request next)

namespace Ensures

theorem bind {holds : α → Prop} {holds' : β → Prop} {first : Routine α} {next : α → Routine β}
    (ensures : Ensures allowed holds first)
    (rest : ∀ value, holds value → Ensures allowed holds' (next value)) :
    Ensures allowed holds' (first >>= next) := by
  induction ensures with
  | done value isSo => exact rest value isSo
  | ask request next _ ih => exact .ask request _ ih

theorem request (request : Request) :
    Ensures allowed (fun answer => allowed ⟨request, answer⟩) (Routine.request request) :=
  .ask request _ fun answer isAllowed => .done answer isAllowed

theorem within {value : Option α} {holds : α → Prop} (inRange : value ≠ none)
    (isSo : ∀ found, value = some found → holds found) :
    Ensures allowed holds (Routine.within value) := by
  cases value with
  | none => exact absurd rfl inRange
  | some found => exact .done found (isSo found rfl)

theorem of_calm {routine : Routine α} (calm : Calm routine) :
    Ensures allowed (fun _ => True) routine := by
  induction calm with
  | done value => exact .done value trivial
  | ask request next _ _ ih => exact .ask request next fun answer _ => ih answer

theorem course {σ : Type} {responds : σ → Exchange → σ → Prop} {holds : α → Prop}
    {routine : Routine α} (ensures : Ensures allowed holds routine) {s later : σ}
    {log : List Exchange} {value : Option α}
    (course : Course responds routine s log value later)
    (allAllowed : ∀ exchange ∈ log, allowed exchange) : value ≠ none := by
  induction ensures generalizing s log with
  | done value isSo =>
      obtain ⟨_, rfl, _⟩ := course.of_done
      exact Option.some_ne_none value
  | ask request next _ ih =>
      cases course with
      | ask _ _ answer _ middle _ tail _ responded rest =>
          obtain ⟨first, others⟩ := List.forall_mem_cons.mp allAllowed
          exact ih answer first rest others

end Ensures

end Routine

namespace Surroundings

def ServesAt (good : Instant → Prop) (s : Surroundings) (exchange : Exchange)
    (later : Surroundings) : Prop :=
  ∃ asked, s.Undisturbed asked ∧ good asked.now ∧
    answer exchange.request asked = (exchange.answer, later)

end Surroundings

theorem Surroundings.answer_retentionDays (request : Request) (s : Surroundings)
    (clusterId : Int) (table : String) :
    (answer request s).2.store.retentionDays clusterId table =
      s.store.retentionDays clusterId table := by
  by_cases harmless : request.isCreate = false
  · rw [(answer_sameGround request s harmless).store]
  · cases request with
    | create ownCluster checkId failing expressions seconds =>
        change (s.create ownCluster checkId failing expressions seconds).2.store.retentionDays
          clusterId table = _
        rcases s.create_cases ownCluster checkId failing expressions seconds with
          ⟨same, _⟩ | ⟨record, store, wrote, made⟩
        · rw [same]
        · obtain ⟨_, _, _, rfl⟩ := s.store.create_appended _ _ _ _ _ _ _ _ made
          rw [wrote]
          cases s.store <;> rfl
    | _ => exact absurd rfl harmless

/-- All times that a cycle of a check may need at an instant exist, for records that live for
some number of days. -/
structure Check.TimesExist (check : Check) (lives : Nat → Prop) (now : Instant) : Prop where
  histories : ∀ e ∈ check.expressions, ∀ minutes, e.kind.range? = some minutes →
    now.minutesBefore? minutes ≠ none
  expiry : ∀ days, lives days → (Instant.days? days).bind now.plus? ≠ none
  windows : ∀ trigger ∈ check.triggers, trigger.windowStart? now ≠ none

namespace Pipeline

def MayLive (pipeline : Pipeline) (check : Check) (store : Store) (days : Nat) : Prop :=
  days = pipeline.retentionDays ∨
    store.retentionDays check.clusterId recordTable = .ok (some days)

def Allows (pipeline : Pipeline) (check : Check) (lives : Nat → Prop) : Exchange → Prop
  | ⟨.now, now⟩ => check.TimesExist lives now
  | ⟨.aggregate _ _ _ minutes, told⟩ =>
      (∃ e ∈ check.expressions, e.kind.range? = some minutes) → told ≠ none
  | ⟨.retentionDays clusterId table, told⟩ =>
      clusterId = check.clusterId → table = recordTable →
        lives (pipeline.daysKept told) ∧ Instant.days? (pipeline.daysKept told) ≠ none
  | ⟨.create _ _ _ _ seconds, told⟩ =>
      (∃ days, lives days ∧ Instant.days? days = some seconds) → told ≠ none
  | _ => True

section

variable {check : Check} {lives : Nat → Prop} (pipeline : Pipeline)

theorem relativeHosts_ensures (e : RelativeThreshold) (metricId : Option Int) (hosts : List Host)
    (listed : ∃ own ∈ check.expressions, own.kind.range? = some e.range) :
    Ensures (pipeline.Allows check lives) (fun _ => True)
      (Evaluation.relativeHosts check.clusterId e metricId hosts) := by
  induction hosts with
  | nil => exact .done [] trivial
  | cons host rest ih =>
      have first : Ensures (pipeline.Allows check lives) (fun _ => True)
          (Evaluation.relativeHost check.clusterId e metricId host) := by
        unfold Evaluation.relativeHost
        split
        · refine (Ensures.request _).bind fun told isAllowed => Ensures.within ?_ fun _ _ => trivial
          rw [ne_eq, Evaluation.exceedsHistory_eq_none]
          exact isAllowed listed
        · exact .done true trivial
      exact first.bind fun bad _ => ih.bind fun verdicts _ => .done _ trivial

theorem relative_ensures (e : RelativeThreshold) (hosts : List Host)
    (listed : ∃ own ∈ check.expressions, own.kind.range? = some e.range) :
    Ensures (pipeline.Allows check lives) (fun _ => True)
      (Evaluation.relative check.clusterId e hosts) := by
  unfold Evaluation.relative
  split
  · exact .done _ trivial
  · refine (Ensures.request _).bind fun found _ => ?_
    exact (pipeline.relativeHosts_ensures e _ hosts listed).bind fun verdicts _ => .done _ trivial

theorem log_ensures (e : LogThreshold) (targets : List String)
    (listed : ∃ own ∈ check.expressions, own.kind.range? = some e.range) :
    Ensures (pipeline.Allows check lives) (fun _ => True)
      (Evaluation.log check.clusterId e targets) := by
  unfold Evaluation.log
  split
  · exact .done _ trivial
  · refine (Ensures.request .now).bind fun now exist => ?_
    obtain ⟨own, member, isRange⟩ := listed
    have since := exist.histories own member e.range isRange
    refine (Ensures.within since fun _ _ => trivial).bind fun since _ => ?_
    exact (Ensures.of_calm (Evaluation.logHosts_calm _ _ _ _)).bind fun verdicts _ =>
      .done _ trivial

theorem expression_ensures (hosts : List Host) (e : Expression) (listed : e ∈ check.expressions) :
    Ensures (pipeline.Allows check lives) (fun _ => True)
      (Evaluation.expression check hosts e.kind) := by
  have looksBack : ∀ minutes, e.kind.range? = some minutes →
      ∃ own ∈ check.expressions, own.kind.range? = some minutes :=
    fun minutes isRange => ⟨e, listed, isRange⟩
  generalize e.kind = kind at looksBack
  cases kind with
  | raw threshold => exact .done _ trivial
  | relative threshold => exact pipeline.relative_ensures threshold hosts (looksBack _ rfl)
  | log threshold => exact pipeline.log_ensures threshold _ (looksBack _ rfl)
  | ping probe => exact .of_calm (Evaluation.probe_calm _ _)
  | ssh probe => exact .of_calm (Evaluation.probe_calm _ _)
  | http probe => exact .of_calm (Evaluation.probe_calm _ _)
  | operator junction => exact .done _ trivial

theorem evaluate_ensures (freshness : Span) :
    Ensures (pipeline.Allows check lives) (fun _ => True)
      (Evaluation.evaluate freshness check) := by
  have all : ∀ hosts, ∀ list ⊆ check.expressions,
      Ensures (pipeline.Allows check lives) (fun _ => True)
        (Evaluation.expressions check hosts list) := by
    intro hosts list own
    induction list with
    | nil => exact .done [] trivial
    | cons e rest ih =>
        obtain ⟨listed, others⟩ := List.cons_subset.mp own
        exact (pipeline.expression_ensures hosts e listed).bind fun result _ =>
          (ih others).bind fun evaluated _ => .done _ trivial
  refine (Ensures.of_calm (Evaluation.resolve_calm freshness check)).bind fun resolved _ => ?_
  cases resolved with
  | error cause => exact .done _ trivial
  | ok hosts => exact (all hosts _ (List.Subset.refl _)).bind fun evaluated _ => .done _ trivial

theorem retention_ensures :
    Ensures (pipeline.Allows check lives)
      (fun seconds => ∃ days, lives days ∧ Instant.days? days = some seconds)
      (pipeline.retention check) := by
  refine (Ensures.request _).bind fun told isAllowed => ?_
  obtain ⟨lived, inRange⟩ := isAllowed rfl rfl
  have kept : Ensures (pipeline.Allows check lives)
      (fun seconds => ∃ days, lives days ∧ Instant.days? days = some seconds)
      (Routine.within (Instant.days? (pipeline.daysKept told))) :=
    Ensures.within inRange fun seconds isSeconds => ⟨_, lived, isSeconds⟩
  rcases told with cause | _ | days <;> exact kept

theorem runAll_ensures (lastGood : Option Instant) (now : Instant)
    (exist : check.TimesExist lives now) (triggers : List Trigger) (own : triggers ⊆ check.triggers)
    (delivered : Nat) :
    Ensures (pipeline.Allows check lives) (fun _ => True)
      (Escalation.runAll pipeline.dispatcher check lastGood now triggers delivered) := by
  induction triggers generalizing delivered with
  | nil => exact .done _ trivial
  | cons trigger rest ih =>
      obtain ⟨listed, others⟩ := List.cons_subset.mp own
      have first : Ensures (pipeline.Allows check lives) (fun _ => True)
          (Escalation.runTrigger pipeline.dispatcher check lastGood now trigger) := by
        have bounded : Escalation.bound? lastGood now trigger ≠ none := by
          rw [Escalation.bound?_eq, ne_eq, Option.map_eq_none_iff]
          exact exist.windows trigger listed
        refine (Ensures.within bounded fun _ _ => trivial).bind fun bound _ => ?_
        refine (Ensures.request _).bind fun told _ => ?_
        cases told with
        | error e => exact .done _ trivial
        | ok found =>
            dsimp only
            split
            · exact (Ensures.request _).bind fun _ _ => .done _ trivial
            · exact (Ensures.of_calm (Escalation.act_calm _ _ _ _)).bind fun _ _ => .done _ trivial
      refine first.bind fun result _ => ?_
      cases result with
      | error e => exact .done _ trivial
      | ok sent => exact ih others _

theorem runTriggers_ensures :
    Ensures (pipeline.Allows check lives) (fun _ => True)
      (Escalation.runTriggers pipeline.dispatcher check) := by
  unfold Escalation.runTriggers
  split
  · exact .done _ trivial
  · refine (Ensures.request _).bind fun told _ => ?_
    cases told with
    | error e => exact .done _ trivial
    | ok found =>
        exact (Ensures.request .now).bind fun now exist =>
          pipeline.runAll_ensures _ now exist check.triggers (List.Subset.refl _) 0

theorem cycle_ensures :
    Ensures (pipeline.Allows check lives) (fun _ => True) (pipeline.cycle check) := by
  rw [cycle_eq]
  refine (pipeline.evaluate_ensures pipeline.freshness).bind fun result _ => ?_
  rcases result with cause | ⟨evaluated, failing⟩
  · exact .done _ trivial
  · dsimp only
    split
    · exact .done _ trivial
    · refine pipeline.retention_ensures.bind fun seconds kept => ?_
      refine (Ensures.request _).bind fun told isAllowed => ?_
      refine (Ensures.within (isAllowed kept) fun _ _ => trivial).bind fun written _ => ?_
      cases written with
      | error e => exact .done _ trivial
      | ok record => exact pipeline.runTriggers_ensures.bind fun sent _ => .done _ trivial

theorem allows_answer (s : Surroundings)
    (exist : check.TimesExist lives s.now)
    (lived : ∀ told, told = .error injected ∨
      told = s.store.retentionDays check.clusterId recordTable → lives (pipeline.daysKept told))
    (request : Request) : pipeline.Allows check lives ⟨request, (answer request s).1⟩ := by
  cases request with
  | now => exact exist
  | aggregate clusterId metricId hostname minutes =>
      rintro ⟨e, listed, isRange⟩ unanswered
      obtain ⟨_, outOfRange⟩ := (s.guardedTimely_eq_none _ _).mp unanswered
      exact exist.histories e listed minutes isRange (Option.map_eq_none_iff.mp outOfRange)
  | retentionDays clusterId table =>
      rintro rfl rfl
      have days : lives (pipeline.daysKept (s.guarded .retentionDays
          (s.store.retentionDays check.clusterId recordTable))) := by
        refine lived _ ?_
        unfold guarded
        split
        · exact Or.inl rfl
        · exact Or.inr rfl
      exact ⟨days, fun outOfRange => exist.expiry _ days (congrArg (·.bind s.now.plus?) outOfRange)⟩
  | create clusterId checkId failing expressions seconds =>
      rintro ⟨days, lives, isSeconds⟩ unanswered
      have unmade : s.guardedTimely .create
          (s.store.create s.now clusterId checkId failing expressions seconds) = none := by
        change (s.create clusterId checkId failing expressions seconds).1 = none at unanswered
        unfold Surroundings.create at unanswered
        split at unanswered
        · assumption
        · cases unanswered
        · cases unanswered
      have outOfRange := (s.store.create_eq_none ..).mp ((s.guardedTimely_eq_none _ _).mp unmade).2
      exact exist.expiry days lives (by rw [isSeconds, Option.bind_some, outOfRange])
  | _ => trivial

end

/-- Whatever the clock tells and however the store fails, a cycle comes to its end if all times
that it may need exist whenever it asks. -/
theorem cycle_ends (pipeline : Pipeline) (check : Check) {s later : Surroundings}
    {log : List Exchange} {value : Option (Except CycleError CycleReport)}
    (course : Course (ServesAt (check.TimesExist (pipeline.MayLive check s.store)))
      (pipeline.cycle check) s log value later) : value ≠ none := by
  have lived : ∀ told, told = .error injected ∨
      told = s.store.retentionDays check.clusterId recordTable →
        pipeline.MayLive check s.store (pipeline.daysKept told) := by
    rintro told (rfl | isTold)
    · exact Or.inl rfl
    · rcases told with cause | _ | days
      · exact Or.inl rfl
      · exact Or.inl rfl
      · exact Or.inr isTold.symm
  have step : ∀ (middle : Surroundings) (exchange : Exchange) (later : Surroundings), True →
      middle.store.retentionDays check.clusterId recordTable =
        s.store.retentionDays check.clusterId recordTable →
      ServesAt (check.TimesExist (pipeline.MayLive check s.store)) middle exchange later →
        pipeline.Allows check (pipeline.MayLive check s.store) exchange ∧
          later.store.retentionDays check.clusterId recordTable =
            s.store.retentionDays check.clusterId recordTable := by
    rintro middle ⟨request, given⟩ later - same ⟨asked, between, exist, answered⟩
    have answered : answer request asked = (given, later) := answered
    rw [← between.store] at same
    have allows := pipeline.allows_answer asked exist (by rwa [same]) request
    have kept := asked.answer_retentionDays request check.clusterId recordTable
    rw [answered] at allows kept
    exact ⟨allows, kept.trans same⟩
  obtain ⟨allowed, _⟩ := Leads.invariant (fun _ => True) _ _ step course.leads (by simp) rfl
  exact pipeline.cycle_ensures.course course allowed

/-- At a standing clock a cycle breaks off exactly if it comes to a time that does not exist;
while time goes on and the store fails and works again it returns an outcome as long as all
times that it may need exist whenever it asks. -/
theorem breaks_off_iff_overruns (pipeline : Pipeline) (check : Check) :
    (∀ s, ((pipeline.cycle check).runIn s).1 = none ↔ pipeline.Overruns check s) ∧
      ∀ {s later : Surroundings} {log : List Exchange}
        {value : Option (Except CycleError CycleReport)},
        Course (ServesAt (check.TimesExist (pipeline.MayLive check s.store)))
          (pipeline.cycle check) s log value later → ∃ outcome, value = some outcome :=
  ⟨fun _ => pipeline.cycle_breaks check,
    fun course => Option.ne_none_iff_exists'.mp (pipeline.cycle_ends check course)⟩

end Pipeline

theorem Surroundings.servesAt_run {α : Type} {good : Instant → Prop} (clock : Nat → Instant)
    (isGood : ∀ reading, good (clock reading)) (routine : Routine α) (state : Nat × Surroundings) :
    Course (ServesAt good) routine state.2 (routine.logOf (answerAt clock) state)
      (routine.run (answerAt clock) state).1 (routine.run (answerAt clock) state).2.2 := by
  refine (course_of_run (answerAt clock) routine state).map Prod.snd ?_
  intro state exchange later answered
  refine ⟨{ state.2 with now := clock state.1 }, ⟨rfl, rfl, rfl⟩, isGood state.1, ?_⟩
  exact Prod.ext (congrArg (·.1) answered) (congrArg (·.2.2) answered)

/-- A check with a trigger for the last hour comes to its end at the start of 1970. -/
theorem hourly_mail_ends :
    ∃ outcome, (((downRound [mailAt 1]).pipeline.cycle (downRound [mailAt 1]).check).run
      (answerAt fun _ => ⟨0⟩) (0, (downRound [mailAt 1]).around)).1 = some outcome := by
  refine (Pipeline.breaks_off_iff_overruns (downRound [mailAt 1]).pipeline
    (downRound [mailAt 1]).check).2 (servesAt_run _ (fun _ => ?_) _ _)
  refine ⟨?_, ?_, ?_⟩
  · intro e listed minutes isRange
    rw [List.mem_singleton.mp listed] at isRange
    cases isRange
  · rintro days (rfl | told)
    · decide +kernel
    · cases told
  · intro trigger listed
    rw [List.mem_singleton.mp listed]
    decide +kernel

def endlessRow : StoredCheck :=
  ⟨1, 1, "errors", "1m", false, "", "[\"web\"]",
    "[\x7b\"Type\":\"LogData\",\"Search\":\"error\",\"Operator\":\">\",\"Value\":0," ++
      "\"PrevRange\":9223372036854775807\x7d]", ""⟩

/-- A row that is read and has an interval, and whose cycle breaks off. -/
theorem endless_lookback_breaks_off :
    ∃ check, endlessRow.definition? = .ok check ∧ check.period? = some (.ok ⟨60 * Span.second⟩) ∧
      (((downRound []).pipeline.cycle check).runIn (downRound []).around).1 = none := by
  have readable : endlessRow.definition?.toOption.isSome = true := by decide +kernel
  cases read : endlessRow.definition? with
  | error cause =>
      rw [read] at readable
      cases readable
  | ok check =>
      have same : check = endlessRow.definition?.toOption.getD default := by
        rw [read]
        rfl
      refine ⟨check, rfl, ?_, Option.isNone_iff_eq_none.mp ?_⟩
      · rw [same]
        decide +kernel
      · rw [same]
        decide +kernel

end FleetMonitor
