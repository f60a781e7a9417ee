import FleetMonitor.Proofs.Aftermath

/-!
# Breaking off at a standing clock

A cycle needs the starts of the histories that its expressions look at, the end of its
record's life and the starts of its triggers' windows.  While the clock stands, it breaks off
exactly where it comes to the first of these times that does not exist.
-/

set_option autoImplicit false

namespace FleetMonitor

open Routine Surroundings

namespace Routine

variable {α β : Type} {s : Surroundings}

def Breaks (s : Surroundings) (routine : Routine α) : Prop :=
  (routine.runIn s).1 = none

theorem not_breaks_done (value : α) : ¬ Breaks s (done value) :=
  nofun

theorem breaks_within (value : Option α) : Breaks s (within value) ↔ value = none := by
  cases value with
  | none => exact iff_of_true rfl rfl
  | some value => exact iff_of_false nofun nofun

theorem Observes.stays {routine : Routine α} (observes : routine.Observes) :
    (routine.runIn s).2 = s := by
  induction observes with
  | done value => rfl
  | broken => rfl
  | ask request next observing _ ih =>
      have same : (answer request s).2 = s := by
        cases request <;> first | rfl | cases observing
      change ((next (answer request s).1).runIn (answer request s).2).2 = s
      rw [same]
      exact ih _

/-- After observations a routine breaks off where it would have done so at once. -/
theorem breaks_bind {first : Routine α} (observes : first.Observes) (next : α → Routine β) :
    Breaks s (first >>= next) ↔
      Breaks s first ∨ ∃ value, (first.runIn s).1 = some value ∧ Breaks s (next value) := by
  have same := observes.stays (s := s)
  unfold Breaks
  cases ran : (first.runIn s).1 with
  | none =>
      refine iff_of_true ?_ (Or.inl rfl)
      exact congrArg Prod.fst (run_bind_none answer first next s s (Prod.ext ran same))
  | some value =>
      have goesOn : (first >>= next).runIn s = (next value).runIn s :=
        run_bind_some answer first next s s value (Prod.ext ran same)
      rw [goesOn]
      simp

theorem Calm.unbroken {routine : Routine α} (calm : Calm routine) : ¬ Breaks s routine := by
  induction calm generalizing s with
  | done value => exact not_breaks_done value
  | ask request next _ _ ih => exact ih _

theorem breaks_bind_calm (first : Routine α) {next : α → Routine β}
    (calm : ∀ value, Calm (next value)) : Breaks s (first >>= next) ↔ Breaks s first := by
  cases ran : first.runIn s with
  | mk value later =>
      cases value with
      | none =>
          have broken : (first >>= next).runIn s = (none, later) :=
            run_bind_none answer first next s later ran
          exact iff_of_true (congrArg Prod.fst broken) (congrArg Prod.fst ran)
      | some value =>
          have goesOn : (first >>= next).runIn s = (next value).runIn later :=
            run_bind_some answer first next s later value ran
          unfold Breaks
          rw [goesOn, ran]
          exact iff_of_false (calm value).unbroken nofun

/-- Of two routines one after the other, the first observing, either may break off. -/
theorem breaks_both {γ : Type} {first : Routine α} (observes : first.Observes) (second : Routine β)
    (join : α → β → γ) :
    Breaks s (first >>= fun a => second >>= fun b => done (join a b)) ↔
      Breaks s first ∨ Breaks s second := by
  have ends : ∀ a, Breaks s (second >>= fun b => done (join a b)) ↔ Breaks s second :=
    fun a => breaks_bind_calm second fun b => .done _
  rw [breaks_bind observes]
  simp only [ends]
  constructor
  · rintro (broke | ⟨_, _, broke⟩)
    · exact Or.inl broke
    · exact Or.inr broke
  · rintro (broke | broke)
    · exact Or.inl broke
    · cases ran : (first.runIn s).1 with
      | none => exact Or.inl ran
      | some value => exact Or.inr ⟨value, rfl, broke⟩

theorem breaks_bind_of_ran {first : Routine α} (next : α → Routine β) {value : α}
    {later : Surroundings} (ran : first.runIn s = (some value, later)) :
    Breaks s (first >>= next) ↔ Breaks later (next value) := by
  have goesOn : (first >>= next).runIn s = (next value).runIn later :=
    run_bind_some answer first next s later value ran
  unfold Breaks
  rw [goesOn]

theorem runIn_request {request : Request} {told : request.Answer} {later : Surroundings}
    (answered : answer request s = (told, later)) :
    (Routine.request request).runIn s = (some told, later) :=
  congrArg (fun given => (some given.1, given.2)) answered

theorem Quiet.ground {routine : Routine α} (quiet : Quiet routine) (s : Surroundings) :
    SameGround s (routine.runIn s).2 := by
  induction quiet generalizing s with
  | done value => exact .refl s
  | broken => exact .refl s
  | ask request next harmless _ ih =>
      exact (answer_sameGround request s harmless).trans (ih _ _)

end Routine

def Store.isOpen : Store → Bool
  | memory _ => true
  | file store => store.isOpen

theorem Store.lastGood_told (store : Store) (clusterId checkId : Int) :
    (∃ found, store.lastGood clusterId checkId = .ok found) ↔ store.isOpen = true := by
  cases store with
  | memory store => exact iff_of_true ⟨_, rfl⟩ rfl
  | file store =>
      simp only [lastGood, FileStore.lastGood, FileStore.whenOpen, isOpen]
      split <;> simp_all

theorem Store.violationsSince_told (store : Store) (now : Instant) (clusterId checkId : Int)
    (bound : Instant) :
    (∃ found, store.violationsSince now clusterId checkId bound = .ok found) ↔
      store.isOpen = true := by
  cases store with
  | memory store => exact iff_of_true ⟨_, rfl⟩ rfl
  | file store =>
      simp only [violationsSince, FileStore.violationsSince, FileStore.whenOpen, isOpen]
      split <;> simp_all

namespace Surroundings

theorem guarded_told {α : Type} (s : Surroundings) (method : StoreMethod)
    (told : Except StoreError α) :
    (∃ found, s.guarded method told = .ok found) ↔
      s.faults.contains method = false ∧ ∃ found, told = .ok found := by
  unfold guarded
  cases s.faults.contains method <;> simp

theorem guardedTimely_eq_none {α : Type} (s : Surroundings) (method : StoreMethod)
    (told : Timely α) :
    s.guardedTimely method told = none ↔ s.faults.contains method = false ∧ told = none := by
  unfold guardedTimely
  cases s.faults.contains method <;> simp

def works (s : Surroundings) (method : StoreMethod) : Bool :=
  !s.faults.contains method && s.store.isOpen

theorem works_iff (s : Surroundings) (method : StoreMethod) :
    s.works method = true ↔ s.faults.contains method = false ∧ s.store.isOpen = true := by
  rw [works, Bool.and_eq_true, Bool.not_eq_true']

theorem SameGround.works {s later : Surroundings} (same : SameGround s later)
    (method : StoreMethod) : later.works method = s.works method := by
  unfold Surroundings.works
  rw [same.faults, same.store]

def hostsOf (s : Surroundings) (freshness : Span) (check : Check) :
    Except StoreError (List Host) :=
  match check.hosts with
  | .query text =>
      s.guarded .queryHosts (s.store.queryHosts s.now check.clusterId text freshness)
  | .list names => s.guarded .hostsByNames (s.store.hostsByNames check.clusterId names)

end Surroundings

namespace Evaluation

variable {s : Surroundings}

/-- The history that a threshold on it looks at begins out of range, and it is asked for: the
metric is known and a host has it. -/
def HistoryOverruns (s : Surroundings) (check : Check) (hosts : List Host)
    (e : RelativeThreshold) : Prop :=
  s.now.minutesBefore? e.range = none ∧ s.faults.contains .aggregate = false ∧
    (∃ id, s.guarded .metricId (s.store.metricId? check.clusterId e.metric) = .ok (some id)) ∧
      ∃ host ∈ hosts, host.metric? e.metric ≠ none

/-- The time from which an expression looks at what is stored is needed and out of range. -/
def Overruns (s : Surroundings) (check : Check) (hosts : List Host) : ExpressionKind → Prop
  | .log e => s.now.minutesBefore? e.range = none ∧ targets check hosts ≠ []
  | .relative e => HistoryOverruns s check hosts e
  | _ => False

theorem logHosts_calm (clusterId : Int) (e : LogThreshold) (since : Instant)
    (targets : List String) : Calm (logHosts clusterId e since targets) := by
  induction targets with
  | nil => exact .done []
  | cons hostname rest ih =>
      exact (Calm.request _ rfl).bind fun count => ih.bind fun verdicts => .done _

theorem probe_calm (request : Probe) (targets : List String) : Calm (probe request targets) := by
  unfold probe
  split
  · exact .done _
  · exact (Calm.request _ rfl).bind fun reach => .done _

theorem resolve_calm (freshness : Span) (check : Check) : Calm (resolve freshness check) := by
  unfold resolve
  split <;> exact (Calm.request _ rfl).bind fun hosts => .done _

theorem log_breaks (clusterId : Int) (e : LogThreshold) (targets : List String) :
    Breaks s (log clusterId e targets) ↔ s.now.minutesBefore? e.range = none ∧ targets ≠ [] := by
  unfold log
  cases targets with
  | nil => exact iff_of_false (not_breaks_done _) (by simp)
  | cons hostname rest =>
      have calm : ∀ since, Calm (do
          let verdicts ← logHosts clusterId e since (hostname :: rest)
          pure (Outcome.tally e.minHost verdicts)) :=
        fun since => (logHosts_calm clusterId e since _).bind fun verdicts => .done _
      have asked : Breaks s (do
          let since ← within (s.now.minutesBefore? e.range)
          let verdicts ← logHosts clusterId e since (hostname :: rest)
          pure (Outcome.tally e.minHost verdicts)) ↔ s.now.minutesBefore? e.range = none := by
        rw [breaks_bind_calm _ calm, breaks_within]
      simp only [List.isEmpty_cons, Bool.false_eq_true, if_false, ne_eq, reduceCtorEq,
        not_false_eq_true, and_true]
      exact asked

theorem exceedsHistory_eq_none (e : RelativeThreshold) (current : Float)
    (history : Timely (Option Summary)) : exceedsHistory e current history = none ↔ history = none := by
  rcases history with _ | ⟨cause | _ | summary⟩ <;> simp [exceedsHistory]

theorem relativeHost_breaks (check : Check) (e : RelativeThreshold) (metricId : Option Int)
    (host : Host) :
    Breaks s (relativeHost check.clusterId e metricId host) ↔
      (s.now.minutesBefore? e.range = none ∧ s.faults.contains .aggregate = false) ∧
        metricId ≠ none ∧ host.metric? e.metric ≠ none := by
  unfold relativeHost
  split
  · rename_i id current known
    have asked :
        (Routine.request (.aggregate check.clusterId id host.name e.range)).runIn s =
          (some (s.guardedTimely .aggregate
            (s.store.aggregate s.now check.clusterId id host.name e.range)), s) :=
      runIn_request rfl
    rw [breaks_bind_of_ran _ asked, breaks_within, exceedsHistory_eq_none, guardedTimely_eq_none,
      Store.aggregate, Option.map_eq_none_iff]
    simp [known, and_comm]
  · rename_i unknown
    refine iff_of_false (not_breaks_done _) ?_
    rintro ⟨_, someId, someValue⟩
    obtain ⟨id, rfl⟩ := Option.ne_none_iff_exists'.mp someId
    obtain ⟨value, isValue⟩ := Option.ne_none_iff_exists'.mp someValue
    exact unknown id value rfl isValue

theorem relativeHosts_breaks (check : Check) (e : RelativeThreshold) (metricId : Option Int)
    (hosts : List Host) :
    Breaks s (relativeHosts check.clusterId e metricId hosts) ↔
      (s.now.minutesBefore? e.range = none ∧ s.faults.contains .aggregate = false) ∧
        metricId ≠ none ∧ ∃ host ∈ hosts, host.metric? e.metric ≠ none := by
  induction hosts with
  | nil => exact iff_of_false (not_breaks_done _) (by simp)
  | cons host rest ih =>
      have both := breaks_both (s := s) (relativeHost_observes check.clusterId e metricId host)
        (relativeHosts check.clusterId e metricId rest)
        fun bad verdicts => (host.name, bad) :: verdicts
      refine both.trans ?_
      rw [relativeHost_breaks, ih]
      simp only [List.exists_mem_cons_iff]
      tauto

theorem relative_breaks (check : Check) (e : RelativeThreshold) (hosts : List Host) :
    Breaks s (relative check.clusterId e hosts) ↔ HistoryOverruns s check hosts e := by
  unfold HistoryOverruns
  cases hosts with
  | nil => exact iff_of_false (not_breaks_done _) (by simp)
  | cons host rest =>
      have asked : Breaks s (relative check.clusterId e (host :: rest)) ↔
          Breaks s (relativeHosts check.clusterId e
            ((s.guarded .metricId (s.store.metricId? check.clusterId e.metric)).toOption.bind id)
            (host :: rest)) :=
        breaks_bind_calm _ fun verdicts => .done _
      have known : ∀ told : Except StoreError (Option Int),
          told.toOption.bind id ≠ none ↔ ∃ id, told = .ok (some id) := by
        rintro (cause | _ | id) <;> simp [Except.toOption]
      refine asked.trans ?_
      rw [relativeHosts_breaks, known, and_assoc]

theorem expression_breaks (check : Check) (hosts : List Host) (kind : ExpressionKind) :
    Breaks s (expression check hosts kind) ↔ Overruns s check hosts kind := by
  cases kind with
  | raw e => exact iff_of_false (not_breaks_done _) nofun
  | relative e => exact relative_breaks check e hosts
  | log e => exact log_breaks check.clusterId e _
  | ping e => exact iff_of_false (probe_calm _ _).unbroken nofun
  | ssh e => exact iff_of_false (probe_calm _ _).unbroken nofun
  | http e => exact iff_of_false (probe_calm _ _).unbroken nofun
  | operator junction => exact iff_of_false (not_breaks_done _) nofun

theorem expressions_breaks (check : Check) (hosts : List Host) (list : List Expression) :
    Breaks s (expressions check hosts list) ↔ ∃ e ∈ list, Overruns s check hosts e.kind := by
  induction list with
  | nil => exact iff_of_false (not_breaks_done _) (by simp)
  | cons e rest ih =>
      have both := breaks_both (s := s) (expression_observes check hosts e.kind)
        (expressions check hosts rest) fun result evaluated => { e with result } :: evaluated
      refine both.trans ?_
      rw [expression_breaks, ih, List.exists_mem_cons_iff]

theorem resolve_runIn (freshness : Span) (check : Check) :
    (∃ hosts, s.hostsOf freshness check = .ok hosts ∧
        (resolve freshness check).runIn s = (some (.ok hosts), s)) ∨
      (∃ cause e, s.hostsOf freshness check = .error cause ∧
        (resolve freshness check).runIn s = (some (.error e), s)) := by
  have wrapped : ∀ (wrap : StoreError → EvaluationError) (told : Except StoreError (List Host)),
      (∃ hosts, told = .ok hosts ∧ (some (told.mapError wrap), s) = (some (.ok hosts), s)) ∨
        ∃ cause e, told = .error cause ∧ (some (told.mapError wrap), s) = (some (.error e), s) := by
    rintro wrap (cause | hosts)
    · exact Or.inr ⟨cause, wrap cause, rfl, rfl⟩
    · exact Or.inl ⟨hosts, rfl, rfl⟩
  unfold resolve hostsOf
  cases check.hosts with
  | query text => exact wrapped _ _
  | list names => exact wrapped _ _

/-- An evaluation breaks off where it was told the hosts and an expression breaks off. -/
theorem evaluate_breaks (freshness : Span) (check : Check) :
    Breaks s (evaluate freshness check) ↔ ∃ hosts, s.hostsOf freshness check = .ok hosts ∧
      ∃ e ∈ check.expressions, Overruns s check hosts e.kind := by
  rcases resolve_runIn (s := s) freshness check with ⟨hosts, told, ran⟩ | ⟨cause, e, untold, ran⟩
  · have goesOn : (evaluate freshness check).runIn s =
        (expressions check hosts check.expressions >>= fun evaluated =>
          pure (Except.ok (evaluated, Verdict.reduce evaluated))).runIn s :=
      run_bind_some answer _ _ s s _ ran
    have breaks := breaks_bind_calm (s := s) (expressions check hosts check.expressions)
      fun evaluated => Calm.done (Except.ok (ε := EvaluationError) (evaluated, Verdict.reduce evaluated))
    rw [expressions_breaks] at breaks
    unfold Breaks
    rw [goesOn, told]
    refine Iff.trans breaks ?_
    simp
  · have ends : (evaluate freshness check).runIn s = (some (.error e), s) :=
      run_bind_some answer _ _ s s _ ran
    refine iff_of_false ?_ ?_
    · unfold Breaks
      rw [ends]
      nofun
    · rintro ⟨hosts, told, _⟩
      rw [untold] at told
      cases told

theorem evaluate_runIn (freshness : Span) (check : Check) :
    Breaks s (evaluate freshness check) ∨
      (∃ cause e, s.hostsOf freshness check = .error cause ∧
        (evaluate freshness check).runIn s = (some (.error e), s)) ∨
      (∃ hosts evaluated failing, s.hostsOf freshness check = .ok hosts ∧
        (evaluate freshness check).runIn s = (some (.ok (evaluated, failing)), s) ∧
          evaluated.length = check.expressions.length) := by
  rcases resolve_runIn (s := s) freshness check with ⟨hosts, told, resolved⟩ |
    ⟨cause, e, untold, resolved⟩
  · have goesOn : (evaluate freshness check).runIn s =
        (expressions check hosts check.expressions >>= fun evaluated =>
          pure (Except.ok (evaluated, Verdict.reduce evaluated))).runIn s :=
      run_bind_some answer _ _ s s _ resolved
    have stays := Observes.stays (s := s) (expressions_observes check hosts check.expressions)
    cases ran : ((expressions check hosts check.expressions).runIn s).1 with
    | none =>
        have broken : (evaluate freshness check).runIn s = (none, s) :=
          goesOn.trans (run_bind_none answer _ _ s s (Prod.ext ran stays))
        exact Or.inl (congrArg Prod.fst broken)
    | some evaluated =>
        have course := course_of_run answer (expressions check hosts check.expressions) s
        refine Or.inr (Or.inr ⟨hosts, evaluated, Verdict.reduce evaluated, told, goesOn.trans ?_,
          expressions_length check hosts check.expressions course evaluated ran⟩)
        exact run_bind_some answer _ _ s s _ (Prod.ext ran stays)
  · exact Or.inr (Or.inl ⟨cause, e, untold, run_bind_some answer _ _ s s _ resolved⟩)

end Evaluation

namespace Escalation

variable {s : Surroundings}

def heed (dispatcher : Dispatcher) (check : Check) (trigger : Trigger) :
    Except StoreError (List CycleRecord) → Routine (Except StoreError Bool)
  | .error e => pure (.error e)
  | .ok violations =>
      if violations.isEmpty || !trigger.inBand violations.length then do
        .request (.dropKey check.id trigger.id)
        pure (.ok false)
      else do
        let delivered ← act dispatcher check trigger violations
        pure (.ok delivered)

theorem heed_runIn (dispatcher : Dispatcher) (check : Check) (trigger : Trigger)
    (found : List CycleRecord) :
    ∃ sent later, (heed dispatcher check trigger (.ok found)).runIn s =
      (some (.ok sent), later) := by
  rw [heed]
  split
  · exact ⟨false, _, rfl⟩
  · cases ran : (act dispatcher check trigger found).runIn s with
    | mk value later =>
        cases value with
        | none =>
            exact absurd (congrArg Prod.fst ran) (act_calm dispatcher check trigger found).unbroken
        | some sent => exact ⟨sent, later, run_bind_some answer _ _ s later sent ran⟩

theorem runTrigger_runIn (dispatcher : Dispatcher) (check : Check) (lastGood : Option Instant)
    (now : Instant) (trigger : Trigger) (inRange : trigger.windowStart? now ≠ none) :
    (s.works .violationsSince = false ∧
      ∃ e, (runTrigger dispatcher check lastGood now trigger).runIn s = (some (.error e), s)) ∨
    (s.works .violationsSince = true ∧
      ∃ sent later, (runTrigger dispatcher check lastGood now trigger).runIn s =
        (some (.ok sent), later) ∧ SameGround s later) := by
  have ground := (runTrigger_quiet dispatcher check lastGood now trigger).ground s
  obtain ⟨start, window⟩ := Option.ne_none_iff_exists'.mp inRange
  obtain ⟨bound, bounded⟩ : ∃ bound, bound? lastGood now trigger = some bound :=
    ⟨_, by rw [bound?_eq, window]; rfl⟩
  have goesOn : ∀ told, s.guarded .violationsSince
      (s.store.violationsSince s.now check.clusterId check.id bound) = told →
        (runTrigger dispatcher check lastGood now trigger).runIn s =
          (heed dispatcher check trigger told).runIn s := by
    intro told isTold
    unfold runTrigger
    rw [bounded]
    have asked : (Routine.request (.violationsSince check.clusterId check.id bound)).runIn s =
        (some told, s) := runIn_request (Prod.ext isTold rfl)
    refine (run_bind_some answer _ _ s s told asked).trans ?_
    cases told <;> rfl
  have readable : (∃ found, s.guarded .violationsSince
      (s.store.violationsSince s.now check.clusterId check.id bound) = .ok found) ↔
        s.works .violationsSince = true := by
    rw [guarded_told, Store.violationsSince_told, works_iff]
  cases told : s.guarded .violationsSince
      (s.store.violationsSince s.now check.clusterId check.id bound) with
  | error e =>
      refine Or.inl ⟨?_, e, goesOn _ told⟩
      rw [told] at readable
      simpa using readable
  | ok found =>
      obtain ⟨sent, later, ran⟩ := heed_runIn (s := s) dispatcher check trigger found
      rw [goesOn _ told, ran] at ground
      exact Or.inr ⟨readable.mp ⟨found, told⟩, sent, later, (goesOn _ told).trans ran, ground⟩

theorem runAll_breaks (dispatcher : Dispatcher) (check : Check) (lastGood : Option Instant)
    (now : Instant) (triggers : List Trigger) (delivered : Nat) :
    Breaks s (runAll dispatcher check lastGood now triggers delivered) ↔
      ∃ before trigger rest, triggers = before ++ trigger :: rest ∧
        (before = [] ∨ s.works .violationsSince = true) ∧ trigger.windowStart? now = none := by
  induction triggers generalizing s delivered with
  | nil => exact iff_of_false (not_breaks_done _) (by simp)
  | cons first rest ih =>
      by_cases outOfRange : first.windowStart? now = none
      · have broken : (runTrigger dispatcher check lastGood now first).runIn s = (none, s) := by
          unfold runTrigger
          rw [bound?_eq, outOfRange]
          rfl
        refine iff_of_true ?_ ⟨[], first, rest, rfl, Or.inl rfl, outOfRange⟩
        exact congrArg Prod.fst (run_bind_none answer _ _ s s broken)
      · rcases runTrigger_runIn (s := s) dispatcher check lastGood now first outOfRange with
          ⟨unread, e, ran⟩ | ⟨works, sent, later, ran, ground⟩
        · have ends : (runAll dispatcher check lastGood now (first :: rest) delivered).runIn s =
              (some (.error e), s) := run_bind_some answer _ _ s s _ ran
          refine iff_of_false ?_ ?_
          · unfold Breaks
            rw [ends]
            nofun
          · rintro ⟨before, trigger, others, listed, reached, outside⟩
            rcases List.cons_eq_append_iff.mp listed with ⟨rfl, same⟩ | ⟨early, rfl, _⟩
            · obtain ⟨rfl, _⟩ := List.cons.inj same
              exact outOfRange outside
            · simp [unread] at reached
        · have goesOn : (runAll dispatcher check lastGood now (first :: rest) delivered).runIn s =
              (runAll dispatcher check lastGood now rest (delivered + sent.toNat)).runIn later :=
            run_bind_some answer _ _ s later _ ran
          unfold Breaks at ih ⊢
          rw [goesOn, ih, ground.works]
          constructor
          · rintro ⟨before, trigger, others, rfl, _, outside⟩
            exact ⟨first :: before, trigger, others, rfl, Or.inr works, outside⟩
          · rintro ⟨before, trigger, others, listed, _, outside⟩
            rcases List.cons_eq_append_iff.mp listed with ⟨rfl, same⟩ | ⟨early, rfl, rest⟩
            · obtain ⟨rfl, _⟩ := List.cons.inj same
              exact absurd outside outOfRange
            · exact ⟨early, trigger, others, rest, Or.inr works, outside⟩

theorem runTriggers_breaks (dispatcher : Dispatcher) (check : Check) :
    Breaks s (runTriggers dispatcher check) ↔ check.silenced = false ∧
      s.works .lastGood = true ∧ ∃ before trigger rest,
        check.triggers = before ++ trigger :: rest ∧
          (before = [] ∨ s.works .violationsSince = true) ∧ trigger.windowStart? s.now = none := by
  unfold runTriggers
  by_cases idle : check.silenced || check.triggers.isEmpty
  · rw [if_pos idle]
    refine iff_of_false (not_breaks_done _) ?_
    rintro ⟨loud, _, before, trigger, rest, listed, _⟩
    simp [loud, listed] at idle
  · rw [if_neg idle]
    have loud : check.silenced = false := by simp_all
    have readable : (∃ found, s.guarded .lastGood
        (s.store.lastGood check.clusterId check.id) = .ok found) ↔ s.works .lastGood = true := by
      rw [guarded_told, Store.lastGood_told, works_iff]
    have asked : ∀ told, s.guarded .lastGood (s.store.lastGood check.clusterId check.id) = told →
        (Routine.request (.lastGood check.clusterId check.id)).runIn s = (some told, s) :=
      fun told isTold => runIn_request (Prod.ext isTold rfl)
    cases told : s.guarded .lastGood (s.store.lastGood check.clusterId check.id) with
    | error e =>
        rw [breaks_bind_of_ran _ (asked _ told)]
        refine iff_of_false (not_breaks_done _) ?_
        rintro ⟨_, works, _⟩
        obtain ⟨found, isFound⟩ := readable.mpr works
        rw [told] at isFound
        cases isFound
    | ok found =>
        have works := readable.mp ⟨found, told⟩
        have clock : (Routine.request .now).runIn s = (some s.now, s) := rfl
        rw [breaks_bind_of_ran _ (asked _ told)]
        refine (breaks_bind_of_ran _ clock).trans ?_
        rw [runAll_breaks]
        simp only [loud, works, true_and]

end Escalation

namespace Store

theorem create_eq_none (store : Store) (now : Instant) (clusterId checkId : Int) (failing : Bool)
    (expressions : List Expression) (seconds : Int) :
    store.create now clusterId checkId failing expressions seconds = none ↔
      now.plus? seconds = none :=
  Option.map_eq_none_iff

theorem create_told (store : Store) (now : Instant) (clusterId checkId : Int) (failing : Bool)
    (expressions : List Expression) (seconds : Int) :
    (∃ wrote, store.create now clusterId checkId failing expressions seconds = some (.ok wrote)) ↔
      now.plus? seconds ≠ none ∧ store.isOpen = true := by
  unfold create
  cases now.plus? seconds with
  | none => simp
  | some expires =>
      cases store with
      | memory store => exact iff_of_true ⟨_, rfl⟩ ⟨Option.some_ne_none _, rfl⟩
      | file store =>
          simp only [addRecord, FileStore.addRecord, FileStore.whenOpen, isOpen]
          cases store.isOpen with
          | false =>
              refine iff_of_false ?_ (by simp)
              rintro ⟨wrote, made⟩
              cases made
          | true => exact iff_of_true ⟨_, rfl⟩ (by simp)

theorem isOpen_appended (store : Store) (rows : List CycleRecord) :
    (store.appended rows).isOpen = store.isOpen := by
  cases store <;> rfl

end Store

namespace Pipeline

variable {s : Surroundings}

def daysIn (pipeline : Pipeline) (check : Check) (s : Surroundings) : Nat :=
  pipeline.daysKept (s.guarded .retentionDays (s.store.retentionDays check.clusterId recordTable))

/-- A cycle comes to a time that does not exist. -/
inductive Overruns (pipeline : Pipeline) (check : Check) (s : Surroundings) : Prop
  | lookingBack (hosts : List Host) (told : s.hostsOf pipeline.freshness check = .ok hosts)
      (e : Expression) (member : e ∈ check.expressions)
      (outOfRange : Evaluation.Overruns s check hosts e.kind)
  | retention (hosts : List Host) (told : s.hostsOf pipeline.freshness check = .ok hosts)
      (nonempty : check.expressions ≠ [])
      (outOfRange : Instant.days? (pipeline.daysIn check s) = none)
  | expiry (hosts : List Host) (told : s.hostsOf pipeline.freshness check = .ok hosts)
      (nonempty : check.expressions ≠ []) (working : s.faults.contains .create = false)
      (outOfRange : s.now.plus? (pipeline.daysIn check s * 86400) = none)
  /-- A trigger's window begins out of range.  It is the first trigger, or violations can be
  read and so those before it are passed. -/
  | window (hosts : List Host) (told : s.hostsOf pipeline.freshness check = .ok hosts)
      (nonempty : check.expressions ≠ []) (writes : s.works .create = true)
      (loud : check.silenced = false) (recalls : s.works .lastGood = true)
      (before : List Trigger) (trigger : Trigger) (rest : List Trigger)
      (listed : check.triggers = before ++ trigger :: rest)
      (reached : before = [] ∨ s.works .violationsSince = true)
      (outOfRange : trigger.windowStart? s.now = none)

theorem retention_runIn (pipeline : Pipeline) (check : Check) :
    (pipeline.retention check).runIn s = (Instant.days? (pipeline.daysIn check s), s) := by
  obtain ⟨told, _, answered, ran⟩ := pipeline.retention_course check
    (course_of_run answer (pipeline.retention check) s)
  obtain ⟨rfl, _⟩ := Prod.mk.inj answered
  exact Prod.ext ran (Observes.stays (pipeline.retention_observes check))

/-- What follows an evaluation breaks off at the end of the record's life or at the windows of
the triggers. -/
theorem recording_breaks (pipeline : Pipeline) (check : Check) (failing : Bool)
    (evaluated : List Expression) (seconds : Int) :
    Breaks s (do
        let written ← .request (.create check.clusterId check.id failing evaluated seconds)
        closing pipeline check failing (← .within written)) ↔
      s.faults.contains .create = false ∧ s.now.plus? seconds = none ∨
        s.now.plus? seconds ≠ none ∧ s.works .create = true ∧
          Breaks s (Escalation.runTriggers pipeline.dispatcher check) := by
  have made := s.store.create_eq_none s.now check.clusterId check.id failing evaluated seconds
  have wrote := s.store.create_told s.now check.clusterId check.id failing evaluated seconds
  have unguarded : s.faults.contains .create = false → s.guardedTimely .create
      (s.store.create s.now check.clusterId check.id failing evaluated seconds) =
        s.store.create s.now check.clusterId check.id failing evaluated seconds := by
    intro working
    rw [guardedTimely, working]
    rfl
  have asked : ∀ told later, s.create check.clusterId check.id failing evaluated seconds =
      (told, later) → (Routine.request (.create check.clusterId check.id failing evaluated
        seconds)).runIn s = (some told, later) :=
    fun told later answered => runIn_request answered
  rcases told : s.guardedTimely .create
      (s.store.create s.now check.clusterId check.id failing evaluated seconds) with
    _ | e | ⟨record, store⟩
  · obtain ⟨working, unmade⟩ := (s.guardedTimely_eq_none _ _).mp told
    refine iff_of_true ?_ (Or.inl ⟨working, made.mp unmade⟩)
    refine (breaks_bind_of_ran _ (asked none s ?_)).mpr rfl
    rw [Surroundings.create, told]
  · have refused : s.create check.clusterId check.id failing evaluated seconds =
        (some (.error e), s) := by rw [Surroundings.create, told]
    rw [breaks_bind_of_ran _ (asked _ s refused)]
    refine iff_of_false (not_breaks_done _) ?_
    rintro (⟨working, outOfRange⟩ | ⟨inRange, works, _⟩)
    · rw [unguarded working, made.mpr outOfRange] at told
      cases told
    · obtain ⟨working, opened⟩ := (s.works_iff _).mp works
      obtain ⟨row, isRow⟩ := wrote.mpr ⟨inRange, opened⟩
      rw [unguarded working, isRow] at told
      cases told
  · have working : s.faults.contains .create = false := by
      refine Bool.not_eq_true _ ▸ fun faulty => ?_
      rw [guardedTimely, if_pos faulty] at told
      cases told
    have taken : s.create check.clusterId check.id failing evaluated seconds =
        (some (.ok record), { s with store }) := by rw [Surroundings.create, told]
    rw [unguarded working] at told
    obtain ⟨inRange, opened⟩ := wrote.mp ⟨_, told⟩
    obtain ⟨_, _, _, rfl⟩ := s.store.create_appended _ _ _ _ _ _ _ _ told
    rw [breaks_bind_of_ran _ (asked _ _ taken)]
    have escalates : Breaks { s with store := s.store.appended [s.store.rowOf record] }
        (Escalation.runTriggers pipeline.dispatcher check >>= fun sent =>
          pure (escalated failing sent)) ↔
        Breaks s (Escalation.runTriggers pipeline.dispatcher check) := by
      refine (breaks_bind_calm _ fun sent => .done _).trans ?_
      rw [Escalation.runTriggers_breaks, Escalation.runTriggers_breaks]
      simp only [works, Store.isOpen_appended]
    refine Iff.trans escalates ?_
    have works := (s.works_iff .create).mpr ⟨working, opened⟩
    simp [inRange, works]

/-- At a standing clock a cycle breaks off exactly if it comes to a time that does not exist. -/
theorem cycle_breaks (pipeline : Pipeline) (check : Check) :
    Breaks s (pipeline.cycle check) ↔ pipeline.Overruns check s := by
  have evaluation := Evaluation.evaluate_breaks (s := s) pipeline.freshness check
  rw [cycle_eq]
  rcases Evaluation.evaluate_runIn (s := s) pipeline.freshness check with broke |
    ⟨cause, e, untold, ran⟩ | ⟨hosts, evaluated, failing, told, ran, lengths⟩
  · obtain ⟨hosts, told, e, member, outOfRange⟩ := evaluation.mp broke
    refine iff_of_true ?_ (.lookingBack hosts told e member outOfRange)
    exact (breaks_bind (Evaluation.evaluate_observes pipeline.freshness check) _).mpr (Or.inl broke)
  · rw [breaks_bind_of_ran _ ran]
    refine iff_of_false (not_breaks_done _) ?_
    rintro (⟨hosts, told⟩ | ⟨hosts, told⟩ | ⟨hosts, told⟩ | ⟨hosts, told⟩) <;>
      · rw [untold] at told
        cases told
  · rw [breaks_bind_of_ran _ ran]
    dsimp only
    have counted : evaluated = [] ↔ check.expressions = [] := by
      rw [← List.length_eq_zero_iff, lengths, List.length_eq_zero_iff]
    have unbroken : ¬ Breaks s (Evaluation.evaluate pipeline.freshness check) := by
      unfold Breaks
      rw [ran]
      nofun
    have known : ∀ hosts', s.hostsOf pipeline.freshness check = .ok hosts' → hosts' = hosts :=
      fun hosts' told' => Except.ok.inj (told'.symm.trans told)
    by_cases blank : evaluated = []
    · rw [if_pos (by simpa using blank)]
      refine iff_of_false (not_breaks_done _) ?_
      rintro (⟨hosts, told, e, member, outOfRange⟩ | ⟨_, _, nonempty⟩ | ⟨_, _, nonempty⟩ |
        ⟨_, _, nonempty⟩)
      · exact unbroken (evaluation.mpr ⟨hosts, told, e, member, outOfRange⟩)
      · exact nonempty (counted.mp blank)
      · exact nonempty (counted.mp blank)
      · exact nonempty (counted.mp blank)
    · rw [if_neg (by simpa using blank)]
      have nonempty : check.expressions ≠ [] := fun empty => blank (counted.mpr empty)
      cases days : Instant.days? (pipeline.daysIn check s) with
      | none =>
          refine iff_of_true ?_ (.retention hosts told nonempty days)
          refine (breaks_bind (pipeline.retention_observes check) _).mpr (Or.inl ?_)
          rw [Breaks, retention_runIn, days]
      | some seconds =>
          have asked : (pipeline.retention check).runIn s = (some seconds, s) := by
            rw [retention_runIn, days]
          rw [breaks_bind_of_ran _ asked, recording_breaks, Escalation.runTriggers_breaks,
            seconds_of_days days]
          constructor
          · rintro (⟨working, outOfRange⟩ | ⟨_, writes, loud, recalls, before, trigger, rest, listed,
              reached, outOfRange⟩)
            · exact .expiry hosts told nonempty working outOfRange
            · exact .window hosts told nonempty writes loud recalls before trigger rest listed
                reached outOfRange
          · rintro (⟨hosts, told, e, member, outOfRange⟩ | ⟨_, _, _, outOfRange⟩ |
              ⟨_, _, _, working, outOfRange⟩ | ⟨_, _, _, writes, loud, recalls, before, trigger, rest,
                listed, reached, outOfRange⟩)
            · exact absurd (evaluation.mpr ⟨hosts, told, e, member, outOfRange⟩) unbroken
            · rw [days] at outOfRange
              cases outOfRange
            · exact Or.inl ⟨working, outOfRange⟩
            · by_cases expires : s.now.plus? (pipeline.daysIn check s * 86400) = none
              · exact Or.inl ⟨((s.works_iff _).mp writes).1, expires⟩
              · exact Or.inr ⟨expires, writes, loud, recalls, before, trigger, rest, listed, reached,
                  outOfRange⟩

end Pipeline

end FleetMonitor
