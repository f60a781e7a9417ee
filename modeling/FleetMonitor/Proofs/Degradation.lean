import FleetMonitor.Proofs.Places
import Mathlib.Data.List.Forall2

/-!
# Lost data hides no alarm

Two runs of an evaluation are set side by side, each read at a place of its own.
In the second run some reads tell less: a metric is missing, a lookup or a count
fails, a host is out of reach.  The second run reads at the same places except
for some at which it need not read any more, and every verdict that was bad in
the first run is bad in it.
-/

set_option autoImplicit false

namespace FleetMonitor

/-! ## Environments that tell less -/

structure Host.Poorer (full degraded : Host) : Prop where
  name : degraded.name = full.name
  metric : ∀ key, degraded.metric? key = full.metric? key ∨ degraded.metric? key = none

def Host.ResolvedPoorer {ε : Type} : Except ε (List Host) → Except ε (List Host) → Prop
  | .ok hosts, .ok others => List.Forall₂ Host.Poorer hosts others
  | .error _, .error _ => True
  | _, _ => False

def Request.Degrades : (request : Request) → request.Answer → request.Answer → Prop
  | .queryHosts _ _ _, full, degraded => Host.ResolvedPoorer full degraded
  | .hostsByNames _ _, full, degraded => Host.ResolvedPoorer full degraded
  | .metricId _ _, full, degraded =>
      degraded = full ∨ degraded = .ok none ∨ ∃ cause, degraded = .error cause
  | .aggregate _ _ _ _, full, degraded =>
      degraded = full ∨ degraded = some (.ok none) ∨ ∃ cause, degraded = some (.error cause)
  | .countMatching _ _ _ _, full, degraded => degraded = full ∨ ∃ cause, degraded = .error cause
  | .probe _ _, full, degraded => ∀ i, degraded i = full i ∨ (degraded i).isBad = true
  | _, full, degraded => degraded = full

def Environment.Degrades (full degraded : Environment) : Prop :=
  ∀ place (request : Request), request.Degrades (full place request) (degraded place request)

namespace Routine

/-! ## Two routines side by side -/

variable {α β γ δ : Type}

/-- If the first routine ends with a value along its places, so does the second one along its
own in the other environment, and the two values are related. -/
def Follows (full degraded : Environment) (related : α → β → Prop) (first : Routine α)
    (places : List Place) (second : Routine β) (places' : List Place) : Prop :=
  ∀ value ahead ahead' after, first.run full.answer (places ++ ahead) = (some value, after) →
    after = ahead ∧ ∃ value',
      second.run degraded.answer (places' ++ ahead') = (some value', ahead') ∧ related value value'

namespace Follows

variable {full degraded : Environment}

theorem done {related : α → β → Prop} {first : α} {second : β} (holds : related first second) :
    Follows full degraded related (.done first) [] (.done second) [] := by
  rintro value ahead ahead' after ⟨⟩
  exact ⟨rfl, second, rfl, holds⟩

theorem broken {related : α → β → Prop} {places places' : List Place} {second : Routine β} :
    Follows full degraded related .broken places second places' := by
  rintro value ahead ahead' after ⟨⟩

theorem bind {related : α → β → Prop} {related' : γ → δ → Prop}
    {first : Routine α} {second : Routine β} {places places' more more' : List Place}
    {next : α → Routine γ} {next' : β → Routine δ}
    (follows : Follows full degraded related first places second places')
    (nextFollows : ∀ value value', related value value' →
      Follows full degraded related' (next value) more (next' value') more') :
    Follows full degraded related' (first >>= next) (places ++ more)
      (second >>= next') (places' ++ more') := by
  intro value ahead ahead' after ran
  rw [List.append_assoc] at ran ⊢
  change (first.bind next).run _ _ = _ at ran
  rw [run_bind] at ran
  cases firstRan : first.run full.answer (places ++ (more ++ ahead)) with
  | mk found between =>
      rw [firstRan] at ran
      cases found with
      | none => cases ran
      | some found =>
          obtain ⟨rfl, found', secondRan, isRelated⟩ :=
            follows found (more ++ ahead) (more' ++ ahead') between firstRan
          obtain ⟨atEnd, value', nextRan, holds⟩ :=
            nextFollows found found' isRelated value ahead ahead' after ran
          refine ⟨atEnd, value', ?_, holds⟩
          change (second.bind next').run _ _ = _
          rw [run_bind, secondRan]
          exact nextRan

theorem map {related : α → β → Prop} {related' : γ → δ → Prop}
    {first : Routine α} {second : Routine β} {places places' : List Place}
    {value : α → γ} {value' : β → δ}
    (follows : Follows full degraded related first places second places')
    (holds : ∀ found found', related found found' → related' (value found) (value' found')) :
    Follows full degraded related' (first >>= fun found => .done (value found)) places
      (second >>= fun found => .done (value' found)) places' := by
  have mapped := follows.bind fun found found' isRelated => .done (holds found found' isRelated)
  rwa [List.append_nil, List.append_nil] at mapped

theorem skipped {related : α → β → Prop} {request : Request} {place : Place}
    {places places' : List Place} {next : request.Answer → Routine α} {second : Routine β}
    (follows : Follows full degraded related (next (full place request)) places second places') :
    Follows full degraded related (Routine.request request >>= next) (place :: places)
      second places' :=
  follows

theorem request (place : Place) (request : Request) :
    Follows full degraded
      (fun first second => first = full place request ∧ second = degraded place request)
      (Routine.request request) [place] (Routine.request request) [place] := by
  rintro value ahead ahead' after ⟨⟩
  exact ⟨rfl, _, rfl, rfl, rfl⟩

theorem within {related : α → β → Prop} (first : Option α) (second : Option β)
    (holds : ∀ value, first = some value → ∃ value', second = some value' ∧ related value value') :
    Follows full degraded related (Routine.within first) [] (Routine.within second) [] := by
  cases first with
  | none => exact .broken
  | some value =>
      obtain ⟨value', rfl, valuesRelated⟩ := holds value rfl
      exact .done valuesRelated

theorem withinSame (value : Option α) :
    Follows full degraded (fun first second => second = first) (Routine.within value) []
      (Routine.within value) [] :=
  .within value value fun found isFound => ⟨found, isFound, rfl⟩

end Follows

end Routine

namespace Evaluation

/-! ## Verdicts on hosts -/

def WorseVerdict (first second : String × Bool) : Prop :=
  second.1 = first.1 ∧ (first.2 = true → second.2 = true)

structure WorseOutcome (first second : Outcome) : Prop where
  bad : first.bad.Sublist second.bad
  failing : first.failing = true → second.failing = true

theorem WorseOutcome.refl (outcome : Outcome) : WorseOutcome outcome outcome :=
  ⟨List.Sublist.refl _, id⟩

theorem bad_sublist (first second : List (String × Bool))
    (worse : List.Forall₂ WorseVerdict first second) :
    ((first.filter (·.2)).map (·.1)).Sublist ((second.filter (·.2)).map (·.1)) := by
  induction worse with
  | nil => exact List.Sublist.refl _
  | @cons verdict verdict' rest rest' worse _ ih =>
      obtain ⟨name, bad⟩ := verdict
      obtain ⟨name', bad'⟩ := verdict'
      obtain ⟨sameName, stillBad⟩ := worse
      simp only at sameName stillBad
      subst sameName
      cases bad with
      | true =>
          rw [stillBad rfl]
          exact ih.cons_cons name'
      | false =>
          cases bad' with
          | true => exact ih.cons name'
          | false => exact ih

theorem tally_worse (minHost : Nat) (first second : List (String × Bool))
    (worse : List.Forall₂ WorseVerdict first second) :
    WorseOutcome (.tally minHost first) (.tally minHost second) where
  bad := bad_sublist first second worse
  failing holds := by
    have fewer := (bad_sublist first second worse).length_le
    simp only [Outcome.tally, decide_eq_true_eq] at holds ⊢
    exact Nat.le_trans holds fewer

theorem poorer_isEmpty (hosts others : List Host) (poorer : List.Forall₂ Host.Poorer hosts others) :
    others.isEmpty = hosts.isEmpty := by
  cases poorer <;> rfl

theorem poorer_names (hosts others : List Host) (poorer : List.Forall₂ Host.Poorer hosts others) :
    others.map (·.name) = hosts.map (·.name) := by
  induction poorer with
  | nil => rfl
  | cons head _ ih => rw [List.map_cons, List.map_cons, head.name, ih]

/-! ## The kinds of expression -/

theorem exceeds_worse (e : MetricThreshold) (host other : Host) (poorer : host.Poorer other)
    (bad : exceeds e host = true) : exceeds e other = true := by
  unfold exceeds at bad ⊢
  rcases poorer.metric e.metric with same | missing
  · rw [same]
    exact bad
  · rw [missing]

theorem raw_worse (e : MetricThreshold) (hosts others : List Host)
    (poorer : List.Forall₂ Host.Poorer hosts others) :
    WorseOutcome (raw e hosts) (raw e others) := by
  unfold raw
  rw [poorer_isEmpty hosts others poorer]
  split
  · exact .refl _
  · apply tally_worse
    rw [List.forall₂_map_left_iff, List.forall₂_map_right_iff]
    exact poorer.imp fun host other worse => ⟨worse.name, exceeds_worse e host other worse⟩

/-- History that is missing or cannot be read counts as bad; history that is read
as before gives the same verdict. -/
theorem exceedsHistory_worse (e : RelativeThreshold) (current : Float)
    (full degraded : Timely (Option Summary))
    (degrades : degraded = full ∨ degraded = some (.ok none) ∨
      ∃ cause, degraded = some (.error cause))
    (verdict : Bool) (first : exceedsHistory e current full = some verdict) :
    ∃ verdict', exceedsHistory e current degraded = some verdict' ∧
      (verdict = true → verdict' = true) := by
  rcases degrades with rfl | rfl | ⟨cause, rfl⟩
  · exact ⟨verdict, first, id⟩
  · exact ⟨true, rfl, fun _ => rfl⟩
  · exact ⟨true, rfl, fun _ => rfl⟩

/-! ## The kinds of expression that read -/

section Reads

variable {full degraded : Environment}

theorem relativeHost_follows_bad (clusterId : Int) (e : RelativeThreshold)
    (metricId : Option Int) (host : Host) (place : Place) :
    Routine.Follows full degraded (fun bad bad' => bad = true → bad' = true)
      (relativeHost clusterId e metricId host)
      (if metricId.isSome && (host.metric? e.metric).isSome then [place] else [])
      (pure true) [] := by
  unfold relativeHost
  cases metricId with
  | none => exact .done id
  | some id =>
      cases host.metric? e.metric with
      | none => exact .done fun bad => bad
      | some current =>
          refine .skipped ?_
          exact .within (exceedsHistory e current _) (some true)
            fun _ _ => ⟨true, rfl, fun _ => rfl⟩

theorem relativeHost_follows (degrades : full.Degrades degraded) (clusterId : Int)
    (e : RelativeThreshold) (metricId metricId' : Option Int)
    (known : metricId' = metricId ∨ metricId' = none)
    (host other : Host) (poorer : host.Poorer other) (place : Place) :
    Routine.Follows full degraded (fun bad bad' => bad = true → bad' = true)
      (relativeHost clusterId e metricId host)
      (if metricId.isSome && (host.metric? e.metric).isSome then [place] else [])
      (relativeHost clusterId e metricId' other)
      (if metricId'.isSome && (other.metric? e.metric).isSome then [place] else []) := by
  rcases known with rfl | rfl
  · rcases poorer.metric e.metric with same | missing
    · unfold relativeHost
      rw [same, poorer.name]
      cases metricId' with
      | none => exact .done id
      | some id =>
          cases host.metric? e.metric with
          | none => exact .done fun bad => bad
          | some current =>
              refine (Routine.Follows.request place _).bind fun history history' told => ?_
              obtain ⟨rfl, rfl⟩ := told
              have degraded := degrades place (.aggregate clusterId id host.name e.range)
              exact .within _ _ (exceedsHistory_worse e current _ _ degraded)
    · have bad : relativeHost clusterId e metricId' other = pure true := by
        unfold relativeHost
        rw [missing]
        cases metricId' <;> rfl
      rw [bad, missing, Option.isSome_none, Bool.and_false, if_neg Bool.false_ne_true]
      exact relativeHost_follows_bad clusterId e metricId' host place
  · exact relativeHost_follows_bad clusterId e metricId host place

theorem relativeHosts_follows (degrades : full.Degrades degraded) (clusterId : Int)
    (e : RelativeThreshold) (metricId metricId' : Option Int)
    (known : metricId' = metricId ∨ metricId' = none)
    (hosts others : List Host) (poorer : List.Forall₂ Host.Poorer hosts others) (i j : Nat) :
    Routine.Follows full degraded (List.Forall₂ WorseVerdict)
      (relativeHosts clusterId e metricId hosts) (hostPlaces i e metricId j hosts)
      (relativeHosts clusterId e metricId' others) (hostPlaces i e metricId' j others) := by
  induction poorer generalizing j with
  | nil => exact .done .nil
  | @cons host other rest rest' head _ ih =>
      refine (relativeHost_follows degrades clusterId e metricId metricId' known host other head
        (.host i j)).bind fun bad bad' stillBad => ?_
      exact (ih (j + 1)).map fun verdicts verdicts' worse => .cons ⟨head.name, stillBad⟩ worse

theorem relative_follows (degrades : full.Degrades degraded) (check : Check)
    (e : RelativeThreshold) (hosts others : List Host)
    (poorer : List.Forall₂ Host.Poorer hosts others) (i : Nat) :
    Routine.Follows full degraded WorseOutcome
      (relative check.clusterId e hosts) (expressionPlaces full check hosts i (.relative e))
      (relative check.clusterId e others)
      (expressionPlaces degraded check others i (.relative e)) := by
  unfold relative expressionPlaces
  rw [poorer_isEmpty hosts others poorer]
  split
  · exact .done (.refl _)
  · refine (Routine.Follows.request (.expression i) _).bind fun found found' told => ?_
    obtain ⟨rfl, rfl⟩ := told
    have known := degrades (.expression i) (.metricId check.clusterId e.metric)
    generalize full (.expression i) (.metricId check.clusterId e.metric) = found at known ⊢
    generalize degraded (.expression i) (.metricId check.clusterId e.metric) = found' at known ⊢
    have known : found'.toOption.bind id = found.toOption.bind id ∨
        found'.toOption.bind id = none := by
      rcases known with rfl | rfl | ⟨cause, rfl⟩
      · exact Or.inl rfl
      · exact Or.inr rfl
      · exact Or.inr rfl
    refine Routine.Follows.map
      (relativeHosts_follows degrades check.clusterId e _ _ known hosts others poorer i 0) ?_
    exact fun verdicts verdicts' worse => tally_worse e.minHost verdicts verdicts' worse

theorem exceedsCount_worse (e : LogThreshold) (full degraded : Except StoreError Nat)
    (degrades : degraded = full ∨ ∃ cause, degraded = .error cause)
    (bad : exceedsCount e full = true) : exceedsCount e degraded = true := by
  rcases degrades with rfl | ⟨cause, rfl⟩
  · exact bad
  · rfl

theorem logHosts_follows (degrades : full.Degrades degraded) (clusterId : Int)
    (e : LogThreshold) (since : Instant) (targets : List String) (i j : Nat) :
    Routine.Follows full degraded (List.Forall₂ WorseVerdict)
      (logHosts clusterId e since targets) (targetPlaces i j targets)
      (logHosts clusterId e since targets) (targetPlaces i j targets) := by
  induction targets generalizing j with
  | nil => exact .done .nil
  | cons hostname rest ih =>
      refine (Routine.Follows.request (.host i j) _).bind fun count count' told => ?_
      obtain ⟨rfl, rfl⟩ := told
      refine (ih (j + 1)).map fun verdicts verdicts' worse => .cons ⟨rfl, ?_⟩ worse
      exact exceedsCount_worse e _ _
        (degrades (.host i j) (.countMatching clusterId hostname e.search since))

theorem log_follows (degrades : full.Degrades degraded) (clusterId : Int) (e : LogThreshold)
    (targets : List String) (i : Nat) :
    Routine.Follows full degraded WorseOutcome (log clusterId e targets)
      (if targets.isEmpty then [] else .expression i :: targetPlaces i 0 targets)
      (log clusterId e targets)
      (if targets.isEmpty then [] else .expression i :: targetPlaces i 0 targets) := by
  unfold log
  split
  · exact .done (.refl _)
  · refine (Routine.Follows.request (.expression i) .now).bind fun now now' told => ?_
    obtain rfl : now' = now := told.2.trans ((degrades (.expression i) .now).trans told.1.symm)
    refine Routine.Follows.bind (.withinSame _) fun since since' sameBound => ?_
    cases sameBound
    refine (logHosts_follows degrades clusterId e since targets i 0).map ?_
    exact fun verdicts verdicts' worse => tally_worse e.minHost verdicts verdicts' worse

/-- Hosts stay where they are in the list of targets; one that was out of reach stays so. -/
theorem reach_worse (targets : List String) (full degraded : Fin targets.length → Reach)
    (degrades : ∀ i, degraded i = full i ∨ (degraded i).isBad = true) :
    List.Forall₂ WorseVerdict (targets.zip ((List.ofFn full).map Reach.isBad))
      (targets.zip ((List.ofFn degraded).map Reach.isBad)) := by
  rw [List.forall₂_iff_get]
  refine ⟨by simp, ?_⟩
  intro i bound bound'
  simp only [List.get_eq_getElem, List.getElem_zip, List.getElem_map, List.getElem_ofFn]
  refine ⟨rfl, fun bad => ?_⟩
  rcases degrades ⟨i, by simpa using bound⟩ with same | worse
  · rw [same]
    exact bad
  · exact worse

theorem probe_follows (degrades : full.Degrades degraded) (request : Probe)
    (targets : List String) (i : Nat) :
    Routine.Follows full degraded WorseOutcome
      (probe request targets) (if targets.isEmpty then [] else [.expression i])
      (probe request targets) (if targets.isEmpty then [] else [.expression i]) := by
  unfold probe
  split
  · exact .done (.refl _)
  · refine (Routine.Follows.request (.expression i) _).map fun reach reach' told => ?_
    obtain ⟨rfl, rfl⟩ := told
    exact tally_worse _ _ _
      (reach_worse targets _ _ (degrades (.expression i) (.probe request targets)))

theorem expression_follows (degrades : full.Degrades degraded) (check : Check)
    (hosts others : List Host) (poorer : List.Forall₂ Host.Poorer hosts others) (i : Nat)
    (kind : ExpressionKind) :
    Routine.Follows full degraded WorseOutcome
      (expression check hosts kind) (expressionPlaces full check hosts i kind)
      (expression check others kind) (expressionPlaces degraded check others i kind) := by
  have sameTargets : targets check others = targets check hosts := by
    unfold targets
    rw [poorer_names hosts others poorer]
  cases kind with
  | raw e => exact .done (raw_worse e hosts others poorer)
  | relative e => exact relative_follows degrades check e hosts others poorer i
  | log e =>
      simp only [expression, expressionPlaces, sameTargets]
      exact log_follows degrades check.clusterId e (targets check hosts) i
  | ping e =>
      simp only [expression, expressionPlaces, sameTargets]
      exact probe_follows degrades (.ping e) (targets check hosts) i
  | ssh e =>
      simp only [expression, expressionPlaces, sameTargets]
      exact probe_follows degrades (.ssh e) (targets check hosts) i
  | http e =>
      simp only [expression, expressionPlaces, sameTargets]
      exact probe_follows degrades (.http e) (targets check hosts) i
  | operator junction => exact .done (.refl _)

/-! ## The whole check -/

structure WorseExpression (first second : Expression) : Prop where
  same : second = { first with result := second.result }
  worse : WorseOutcome first.result second.result

theorem expressions_follows (degrades : full.Degrades degraded) (check : Check)
    (hosts others : List Host) (poorer : List.Forall₂ Host.Poorer hosts others) (i : Nat)
    (list : List Expression) :
    Routine.Follows full degraded (List.Forall₂ WorseExpression)
      (expressions check hosts list) (expressionsPlaces full check hosts i list)
      (expressions check others list) (expressionsPlaces degraded check others i list) := by
  induction list generalizing i with
  | nil => exact .done .nil
  | cons e rest ih =>
      refine (expression_follows degrades check hosts others poorer i e.kind).bind ?_
      intro outcome outcome' worse
      exact (ih (i + 1)).map fun evaluated evaluated' restWorse => .cons ⟨rfl, worse⟩ restWorse

theorem resolvedPoorer_mapError {ε ε' : Type} (wrap : ε → ε')
    (full degraded : Except ε (List Host)) (poorer : Host.ResolvedPoorer full degraded) :
    Host.ResolvedPoorer (full.mapError wrap) (degraded.mapError wrap) := by
  cases full <;> cases degraded <;> exact poorer

theorem resolve_follows (degrades : full.Degrades degraded) (freshness : Span) (check : Check) :
    Routine.Follows full degraded
      (fun first second =>
        some first = ((resolve freshness check).run full.answer [.hosts]).1 ∧
          some second = ((resolve freshness check).run degraded.answer [.hosts]).1 ∧
            Host.ResolvedPoorer first second)
      (resolve freshness check) [.hosts] (resolve freshness check) [.hosts] := by
  unfold resolve
  cases check.hosts with
  | query text =>
      refine (Routine.Follows.request .hosts _).map fun first second told => ?_
      obtain ⟨rfl, rfl⟩ := told
      exact ⟨rfl, rfl, resolvedPoorer_mapError EvaluationError.query _ _
        (degrades .hosts (.queryHosts check.clusterId text freshness))⟩
  | list names =>
      refine (Routine.Follows.request .hosts _).map fun first second told => ?_
      obtain ⟨rfl, rfl⟩ := told
      exact ⟨rfl, rfl, resolvedPoorer_mapError EvaluationError.list _ _
        (degrades .hosts (.hostsByNames check.clusterId names))⟩

end Reads

end Evaluation

namespace Verdict

structure Worse (first second : Verdict) : Prop where
  operator : second.operator = first.operator
  failing : first.failing = true → second.failing = true

theorem apply_worse (junction : Junction) (left left' right right' : Bool)
    (worseLeft : left = true → left' = true) (worseRight : right = true → right' = true)
    (failing : junction.apply left right = true) : junction.apply left' right' = true := by
  cases junction <;> simp only [Junction.apply, Bool.and_eq_true, Bool.or_eq_true] at *
  · exact ⟨worseLeft failing.1, worseRight failing.2⟩
  · exact failing.imp worseLeft worseRight

theorem operator?_worse (e e' : Expression) (worse : Evaluation.WorseExpression e e') :
    operator? e' = operator? e := by
  rw [worse.same]
  rfl

theorem step_worse (verdict verdict' : Verdict) (worse : Worse verdict verdict')
    (e e' : Expression) (worseExpression : Evaluation.WorseExpression e e') :
    Worse (verdict.step e) (verdict'.step e') := by
  unfold step
  rw [operator?_worse e e' worseExpression, worse.operator]
  cases operator? e with
  | some junction => exact ⟨rfl, worse.failing⟩
  | none =>
      cases inForce : verdict.operator with
      | none => exact worse
      | some junction =>
          exact ⟨rfl, apply_worse junction _ _ _ _ worse.failing worseExpression.worse.failing⟩

theorem fold_worse (rest rest' : List Expression)
    (worseRest : List.Forall₂ Evaluation.WorseExpression rest rest')
    (verdict verdict' : Verdict) (worse : Worse verdict verdict') :
    Worse (rest.foldl step verdict) (rest'.foldl step verdict') := by
  induction worseRest generalizing verdict verdict' with
  | nil => exact worse
  | cons head _ ih => exact ih _ _ (step_worse verdict verdict' worse _ _ head)

/-- The verdict of a check fails if it failed before any outcome got worse. -/
theorem reduce_worse (list list' : List Expression)
    (worse : List.Forall₂ Evaluation.WorseExpression list list')
    (failing : reduce list = true) : reduce list' = true := by
  cases worse with
  | nil => exact failing
  | @cons e e' rest rest' head tail =>
      have started : Worse (start e) (start e') :=
        ⟨operator?_worse e e' head, head.worse.failing⟩
      exact (fold_worse rest rest' tail _ _ started).failing failing

end Verdict

namespace Evaluation

def WorseEvaluation (first second : Except EvaluationError (List Expression × Bool)) : Prop :=
  ∀ list failing, first = .ok (list, failing) →
    ∃ list' failing', second = .ok (list', failing') ∧
      List.Forall₂ WorseExpression list list' ∧ (failing = true → failing' = true)

theorem evaluate_follows {full degraded : Environment} (degrades : full.Degrades degraded)
    (freshness : Span) (check : Check) :
    Routine.Follows full degraded WorseEvaluation
      (evaluate freshness check) (places full freshness check)
      (evaluate freshness check) (places degraded freshness check) := by
  refine (resolve_follows degrades freshness check).bind fun first second resolved => ?_
  obtain ⟨isFirst, isSecond, poorer⟩ := resolved
  rw [← isFirst, ← isSecond]
  cases first with
  | error cause =>
      cases second with
      | error cause' => exact .done fun list failing found => nomatch found
      | ok others => exact poorer.elim
  | ok hosts =>
      cases second with
      | error cause' => exact poorer.elim
      | ok others =>
          refine (expressions_follows degrades check hosts others poorer 0 check.expressions).map ?_
          intro list list' worse found failing isFound
          obtain ⟨rfl, rfl⟩ := Prod.mk.inj (Except.ok.inj isFound)
          exact ⟨list', _, rfl, worse, Verdict.reduce_worse list list' worse⟩

/-- An evaluation that comes to its end still does when some reads tell less, each of them
degraded or not whatever becomes of the others.  No bad host becomes good, no failing
expression passes, and a failing check still fails.  Each of the two evaluations makes exactly
the reads of its places, whatever places lie ahead of them. -/
theorem lost_data_hides_no_alarm (freshness : Span) (check : Check)
    (full degraded : Environment) (degrades : full.Degrades degraded)
    (list : List Expression) (failing : Bool) (ahead ahead' after : List Place)
    (ran : (evaluate freshness check).run full.answer (places full freshness check ++ ahead) =
      (some (.ok (list, failing)), after)) :
    after = ahead ∧ ∃ list' failing',
      (evaluate freshness check).run degraded.answer (places degraded freshness check ++ ahead') =
          (some (.ok (list', failing')), ahead') ∧
        List.Forall₂ (fun e e' : Expression => e' = { e with result := e'.result } ∧
            (∀ host ∈ e.result.bad, host ∈ e'.result.bad) ∧
            (e.result.failing = true → e'.result.failing = true)) list list' ∧
        (failing = true → failing' = true) := by
  obtain ⟨atEnd, second, secondRan, worse⟩ :=
    evaluate_follows degrades freshness check (.ok (list, failing)) ahead ahead' after ran
  obtain ⟨list', failing', rfl, worseList, worseVerdict⟩ := worse list failing rfl
  refine ⟨atEnd, list', failing', secondRan, ?_, worseVerdict⟩
  refine worseList.imp fun e e' worseExpression => ?_
  exact ⟨worseExpression.same, fun host member => worseExpression.worse.bad.subset member,
    worseExpression.worse.failing⟩

/-- Two hosts that report their load, of which one answers no echo requests; the load has no
history. -/
def clearSight : Environment
  | _, .now => ⟨0⟩
  | _, .queryHosts _ _ _ => .error .notFound
  | _, .hostsByNames _ names => .ok (names.map fun name => ⟨name, ⟨0⟩, [("load", .int 3)], []⟩)
  | _, .metricId _ _ => .ok (some 7)
  | _, .aggregate _ _ _ _ => some (.ok none)
  | _, .countMatching _ _ _ _ => .ok 0
  | _, .probe _ targets => fun i =>
      if targets.get i = "a" then .unreachable "down" else .reachable
  | _, .retentionDays _ _ => .ok none
  | _, .create _ _ _ _ _ => none
  | _, .lastGood _ _ => .ok none
  | _, .violationsSince _ _ _ => .ok []
  | _, .incidentKey _ _ => none
  | _, .holdKey _ _ _ => ()
  | _, .dropKey _ _ => ()
  | _, .mail _ => .ok ()
  | _, .page _ => .ok ""

/-- The same hosts, of which the second one has lost its report and answers no echo requests
either, but only the second time that it is asked. -/
def dimSight : Environment
  | .hosts, .hostsByNames _ names =>
      .ok (names.map fun name =>
        ⟨name, ⟨0⟩, if name = "b" then [] else [("load", .int 3)], []⟩)
  | .expression 2, .probe _ _ => fun _ => .unreachable "down"
  | place, request => clearSight place request

theorem clearSight_degrades : clearSight.Degrades dimSight := by
  have same (place : Place) (request : Request) :
      request.Degrades (clearSight place request) (clearSight place request) := by
    cases request with
    | queryHosts clusterId query freshness => trivial
    | hostsByNames clusterId names =>
        exact List.forall₂_same.mpr fun host _ => ⟨rfl, fun key => Or.inl rfl⟩
    | metricId clusterId key => exact Or.inl rfl
    | aggregate clusterId metricId hostname minutes => exact Or.inl rfl
    | countMatching clusterId hostname search since => exact Or.inl rfl
    | probe probe targets => exact fun i => Or.inl rfl
    | _ => rfl
  intro place request
  unfold dimSight
  split
  · change List.Forall₂ Host.Poorer (List.map _ _) (List.map _ _)
    rw [List.forall₂_map_left_iff, List.forall₂_map_right_iff]
    refine List.forall₂_same.mpr fun name _ => ⟨rfl, fun key => ?_⟩
    split
    · exact Or.inr rfl
    · exact Or.inl rfl
  · exact fun i => Or.inr rfl
  · exact same place request

/-- Two equal expressions on echo requests, which need two bad hosts, and one on the load. -/
def loadCheck : Check where
  id := 1
  clusterId := 1
  name := "load"
  interval := "1m"
  hosts := .list ["a", "b"]
  expressions :=
    [.ofKind (.ping ⟨2⟩), .ofKind (.operator .or), .ofKind (.ping ⟨2⟩),
      .ofKind (.relative ⟨"load", .greater, 1, 1, 5, .avg⟩)]
  triggers := []
  silenced := false

def loadFound : List Expression :=
  [⟨.ping ⟨2⟩, ⟨false, "", ["a"], ["b"]⟩⟩, ⟨.operator .or, .empty⟩,
    ⟨.ping ⟨2⟩, ⟨false, "", ["a"], ["b"]⟩⟩,
    ⟨.relative ⟨"load", .greater, 1, 1, 5, .avg⟩, ⟨true, "", ["a", "b"], []⟩⟩]

/-- The check fails in clear sight, and so it does in dim sight, where only the second of two
equal echo requests is lost. -/
theorem load_alarm_stays :
    (evaluate ⟨0⟩ loadCheck).run clearSight.answer (places clearSight ⟨0⟩ loadCheck ++ []) =
        (some (.ok (loadFound, true)), []) ∧
      clearSight.Degrades dimSight ∧
      ∃ list',
        (evaluate ⟨0⟩ loadCheck).run dimSight.answer (places dimSight ⟨0⟩ loadCheck ++ []) =
          (some (.ok (list', true)), []) ∧
        list'.map (·.result.bad) = [["a"], [], ["a", "b"], ["a", "b"]] := by
  have ran : (evaluate ⟨0⟩ loadCheck).run clearSight.answer
      (places clearSight ⟨0⟩ loadCheck ++ []) = (some (.ok (loadFound, true)), []) := by rfl
  obtain ⟨-, list', failing', dimRan, -, stillFailing⟩ :=
    lost_data_hides_no_alarm ⟨0⟩ loadCheck clearSight dimSight clearSight_degrades
      loadFound true [] [] [] ran
  cases stillFailing rfl
  refine ⟨ran, clearSight_degrades, list', dimRan, ?_⟩
  have told : ((evaluate ⟨0⟩ loadCheck).run dimSight.answer
      (places dimSight ⟨0⟩ loadCheck ++ [])).1.map
        (fun found => found.toOption.map fun found => found.1.map (·.result.bad)) =
          some (some [["a"], [], ["a", "b"], ["a", "b"]]) := by rfl
  rw [dimRan] at told
  exact Option.some.inj (Option.some.inj told)

end Evaluation

end FleetMonitor
