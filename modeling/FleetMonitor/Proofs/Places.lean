import FleetMonitor.Cycle
import FleetMonitor.Proofs.Course
import Mathlib.Data.List.Nodup

/-!
# Places of an evaluation

An evaluation reads at places: once for its hosts, and then for expressions and for
their hosts or targets.  No two reads have one place, so an environment may answer
each of them as it likes.  Main statement: whatever was read in an evaluation that
came to its end, there is an environment that answers so.
-/

set_option autoImplicit false

namespace FleetMonitor

/-- Where an evaluation reads: once for its hosts, once for an expression as a whole, and once
for each host or target of an expression, both counted from zero. -/
inductive Place where
  | hosts
  | expression (i : Nat)
  | host (i j : Nat)
deriving DecidableEq, Repr

/-- The expression that a place belongs to. -/
def Place.expression? : Place → Option Nat
  | hosts => none
  | expression i => some i
  | host i _ => some i

abbrev Environment := Place → (request : Request) → request.Answer

namespace Environment

/-- Answers requests one after another at the places that lie ahead. -/
def answer (environment : Environment) (request : Request) :
    List Place → request.Answer × List Place
  | [] => (environment .hosts request, [])
  | place :: ahead => (environment place request, ahead)

/-- The environment answers as it was told at some places. -/
def Tells (environment : Environment) (told : List (Place × Exchange)) : Prop :=
  ∀ entry ∈ told, environment entry.1 entry.2.request = entry.2.answer

end Environment

namespace Evaluation

/-! ## The places of a check -/

/-- The history of a metric is read of a host whose current value is known. -/
def hostPlaces (i : Nat) (e : RelativeThreshold) (metricId : Option Int) :
    Nat → List Host → List Place
  | _, [] => []
  | j, host :: rest =>
      (if metricId.isSome && (host.metric? e.metric).isSome then [.host i j] else []) ++
        hostPlaces i e metricId (j + 1) rest

def targetPlaces (i : Nat) : Nat → List String → List Place
  | _, [] => []
  | j, _ :: rest => .host i j :: targetPlaces i (j + 1) rest

def expressionPlaces (environment : Environment) (check : Check) (hosts : List Host) (i : Nat) :
    ExpressionKind → List Place
  | .raw _ => []
  | .relative e =>
      if hosts.isEmpty then []
      else
        let found := environment (.expression i) (.metricId check.clusterId e.metric)
        .expression i :: hostPlaces i e (found.toOption.bind id) 0 hosts
  | .log _ =>
      if (targets check hosts).isEmpty then []
      else .expression i :: targetPlaces i 0 (targets check hosts)
  | .ping _ => if (targets check hosts).isEmpty then [] else [.expression i]
  | .ssh _ => if (targets check hosts).isEmpty then [] else [.expression i]
  | .http _ => if (targets check hosts).isEmpty then [] else [.expression i]
  | .operator _ => []

def expressionsPlaces (environment : Environment) (check : Check) (hosts : List Host) :
    Nat → List Expression → List Place
  | _, [] => []
  | i, e :: rest =>
      expressionPlaces environment check hosts i e.kind ++
        expressionsPlaces environment check hosts (i + 1) rest

def resolvedPlaces (environment : Environment) (check : Check) :
    Option (Except EvaluationError (List Host)) → List Place
  | some (.ok hosts) => expressionsPlaces environment check hosts 0 check.expressions
  | _ => []

/-- Where the evaluation of a check reads in an environment, in the order of its reads. -/
def places (environment : Environment) (freshness : Span) (check : Check) : List Place :=
  .hosts :: resolvedPlaces environment check
    ((resolve freshness check).run environment.answer [.hosts]).1

end Evaluation

/-! ## An environment for what was read -/

namespace Environment

theorem nonempty_answer (request : Request) : Nonempty request.Answer := by
  cases request <;> exact ⟨default⟩

theorem exists_tells (told : List (Place × Exchange)) (distinct : (told.map (·.1)).Nodup) :
    ∃ environment : Environment, environment.Tells told := by
  classical
  induction told with
  | nil => exact ⟨fun _ request => (nonempty_answer request).some, List.forall_mem_nil _⟩
  | cons first rest ih =>
      obtain ⟨place, request, answer⟩ := first
      obtain ⟨fresh, others⟩ := List.nodup_cons.mp distinct
      obtain ⟨environment, tells⟩ := ih others
      refine ⟨Function.update environment place
        (Function.update (environment place) request answer), ?_⟩
      refine List.forall_mem_cons.mpr ⟨?_, fun entry member => ?_⟩
      · simp only [Function.update_self]
      · have elsewhere : entry.1 ≠ place := fun same =>
          fresh (List.mem_map.mpr ⟨entry, member, same⟩)
        rw [Function.update_of_ne elsewhere]
        exact tells entry member

end Environment

namespace Routine

variable {σ α : Type} {responds : σ → Exchange → σ → Prop} {s later : σ} {log : List Exchange}

/-- A routine that was answered in some way comes to the same in an environment that answers
so, wherever its reads are placed. -/
theorem Course.run_tells {routine : Routine α} {value : α}
    (course : Course responds routine s log (some value) later) {places : List Place}
    (each : places.length = log.length) {environment : Environment}
    (tells : environment.Tells (places.zip log)) (ahead : List Place) :
    routine.run environment.answer (places ++ ahead) = (some value, ahead) := by
  generalize ended : some value = outcome at course
  induction course generalizing places with
  | done found s =>
      obtain rfl := List.length_eq_zero_iff.mp each
      obtain rfl := Option.some.inj ended
      rfl
  | broken s => cases ended
  | ask request next answer s middle later log outcome responded _ ih =>
      cases places with
      | nil => cases each
      | cons place places =>
          obtain ⟨first, others⟩ := List.forall_mem_cons.mp tells
          change (next (environment place request)).run _ _ = _
          rw [show environment place request = answer from first]
          exact ih (Nat.succ.inj each) others ended

theorem Course.of_within {value : Option α} {found : α}
    (course : Course responds (within value) s log (some found) later) :
    log = [] ∧ value = some found := by
  cases value with
  | none => cases course
  | some value =>
      cases course with
      | done => exact ⟨rfl, rfl⟩

end Routine

namespace Evaluation

open Routine

variable {σ : Type} {responds : σ → Exchange → σ → Prop} {s later : σ} {log : List Exchange}

/-! ## One place for each read -/

/-- The places of an expression: one for each of its reads, all of them different. -/
structure Placed (i : Nat) (log : List Exchange) (places : List Place) : Prop where
  each : places.length = log.length
  distinct : places.Nodup
  own : ∀ place ∈ places, place.expression? = some i

theorem Placed.nil (i : Nat) : Placed i [] [] :=
  ⟨rfl, List.nodup_nil, List.forall_mem_nil _⟩

theorem targetPlaces_eq (i j : Nat) (targets : List String) :
    targetPlaces i j targets = (List.range' j targets.length).map (.host i) := by
  induction targets generalizing j with
  | nil => rfl
  | cons hostname rest ih => rw [targetPlaces, ih, List.length_cons, List.range'_succ, List.map_cons]

theorem hostPlaces_sublist (i : Nat) (e : RelativeThreshold) (metricId : Option Int) (j : Nat)
    (hosts : List Host) :
    (hostPlaces i e metricId j hosts).Sublist (targetPlaces i j (hosts.map (·.name))) := by
  induction hosts generalizing j with
  | nil => exact List.Sublist.refl _
  | cons host rest ih =>
      rw [hostPlaces, List.map_cons, targetPlaces]
      split
      · exact (ih (j + 1)).cons_cons _
      · exact (ih (j + 1)).cons _

/-- An expression that is read as a whole is read once, before its hosts or targets. -/
theorem Placed.of_sublist {i : Nat} {places : List Place} {targets : List String}
    (sublist : places.Sublist (targetPlaces i 0 targets)) {first : Exchange}
    (each : places.length = log.length) :
    Placed i (first :: log) (.expression i :: places) := by
  rw [targetPlaces_eq] at sublist
  have isHost (place : Place) (member : place ∈ places) : ∃ j, place = .host i j := by
    obtain ⟨j, -, rfl⟩ := List.mem_map.mp (sublist.subset member)
    exact ⟨j, rfl⟩
  have distinct : ((List.range' 0 targets.length).map (Place.host i)).Nodup :=
    List.Nodup.map (fun j k same => (Place.host.inj same).2) List.nodup_range'
  refine ⟨congrArg (· + 1) each, List.nodup_cons.mpr ⟨fun member => ?_, distinct.sublist sublist⟩,
    List.forall_mem_cons.mpr ⟨rfl, fun place member => ?_⟩⟩
  · obtain ⟨j, same⟩ := isHost _ member
    cases same
  · obtain ⟨j, rfl⟩ := isHost place member
    rfl

theorem relativeHost_reads {clusterId : Int} {e : RelativeThreshold} {metricId : Option Int}
    {host : Host} {bad : Bool}
    (course : Course responds (relativeHost clusterId e metricId host) s log (some bad) later)
    (place : Place) :
    (if metricId.isSome && (host.metric? e.metric).isSome then [place] else []).length =
      log.length := by
  unfold relativeHost at course
  cases metricId with
  | none =>
      obtain ⟨rfl, -, -⟩ := course.of_done
      rfl
  | some id =>
      cases known : host.metric? e.metric with
      | none =>
          rw [known] at course
          obtain ⟨rfl, -, -⟩ := course.of_done
          rfl
      | some current =>
          rw [known] at course
          obtain ⟨history, middle, tail, rfl, -, rest⟩ := course.of_request_bind
          obtain ⟨rfl, -⟩ := Course.of_within rest
          rfl

theorem relativeHosts_reads {clusterId : Int} {e : RelativeThreshold} {metricId : Option Int}
    {hosts : List Host} {verdicts : List (String × Bool)}
    (course : Course responds (relativeHosts clusterId e metricId hosts) s log (some verdicts)
      later) (i j : Nat) :
    (hostPlaces i e metricId j hosts).length = log.length := by
  induction hosts generalizing j s later log verdicts with
  | nil =>
      obtain ⟨rfl, -, -⟩ := course.of_done
      rfl
  | cons host rest ih =>
      unfold relativeHosts at course
      obtain ⟨head, others, bad, middle, rfl, early, course⟩ | ⟨broke, -⟩ := course.of_bind
      · obtain ⟨tail, last, verdicts, between, rfl, late, course⟩ | ⟨broke, -⟩ := course.of_bind
        · obtain ⟨rfl, -, -⟩ := course.of_done
          rw [hostPlaces, List.length_append, relativeHost_reads early, ih late,
            List.append_nil, List.length_append]
        · cases broke
      · cases broke

theorem logHosts_reads {clusterId : Int} {e : LogThreshold} {since : Instant}
    {targets : List String} {verdicts : List (String × Bool)}
    (course : Course responds (logHosts clusterId e since targets) s log (some verdicts) later)
    (i j : Nat) : (targetPlaces i j targets).length = log.length := by
  induction targets generalizing j s later log verdicts with
  | nil =>
      obtain ⟨rfl, -, -⟩ := course.of_done
      rfl
  | cons hostname rest ih =>
      obtain ⟨count, middle, others, rfl, -, course⟩ := course.of_request_bind
      obtain ⟨tail, last, verdicts, between, rfl, late, course⟩ | ⟨broke, -⟩ := course.of_bind
      · obtain ⟨rfl, -, -⟩ := course.of_done
        rw [targetPlaces, List.length_cons, ih late, List.append_nil, List.length_cons]
      · cases broke

theorem relative_placed {check : Check} {e : RelativeThreshold} {hosts : List Host}
    {outcome : Outcome}
    (course : Course responds (relative check.clusterId e hosts) s log (some outcome) later)
    (i : Nat) :
    ∃ places, Placed i log places ∧ ∀ environment : Environment,
      environment.Tells (places.zip log) →
        expressionPlaces environment check hosts i (.relative e) = places := by
  unfold relative at course
  split at course
  · next isEmpty =>
    obtain ⟨rfl, -, -⟩ := course.of_done
    exact ⟨[], .nil i, fun _ _ => if_pos isEmpty⟩
  · next nonempty =>
    obtain ⟨found, middle, tail, rfl, -, course⟩ := course.of_request_bind
    obtain ⟨head, last, verdicts, between, rfl, reads, course⟩ | ⟨broke, -⟩ := course.of_bind
    · obtain ⟨rfl, -, -⟩ := course.of_done
      rw [List.append_nil]
      refine ⟨_, .of_sublist (hostPlaces_sublist i e (found.toOption.bind id) 0 hosts)
        (relativeHosts_reads reads i 0), fun environment tells => ?_⟩
      have told : environment (.expression i) (.metricId check.clusterId e.metric) = found :=
        (List.forall_mem_cons.mp tells).1
      rw [expressionPlaces, if_neg nonempty, told]
    · cases broke

theorem log_placed {clusterId : Int} {e : LogThreshold} {targets : List String}
    {outcome : Outcome}
    (course : Course responds (Evaluation.log clusterId e targets) s log (some outcome) later)
    (i : Nat) :
    Placed i log (if targets.isEmpty then [] else .expression i :: targetPlaces i 0 targets) := by
  unfold Evaluation.log at course
  split at course
  · next isEmpty =>
    obtain ⟨rfl, -, -⟩ := course.of_done
    rw [if_pos isEmpty]
    exact .nil i
  · next nonempty =>
    obtain ⟨now, middle, tail, rfl, -, course⟩ := course.of_request_bind
    obtain ⟨_, others, since, _, rfl, bounded, counting⟩ | ⟨broke, -⟩ := course.of_bind
    · obtain ⟨rfl, -⟩ := bounded.of_within
      obtain ⟨head, last, verdicts, between, rfl, reads, course⟩ | ⟨broke, -⟩ := counting.of_bind
      · obtain ⟨rfl, -, -⟩ := course.of_done
        rw [if_neg nonempty, List.append_nil]
        exact .of_sublist (List.Sublist.refl _) (logHosts_reads reads i 0)
      · cases broke
    · cases broke

theorem probe_placed {request : Probe} {targets : List String} {outcome : Outcome}
    (course : Course responds (probe request targets) s log (some outcome) later) (i : Nat) :
    Placed i log (if targets.isEmpty then [] else [.expression i]) := by
  unfold probe at course
  split at course
  · next isEmpty =>
    obtain ⟨rfl, -, -⟩ := course.of_done
    rw [if_pos isEmpty]
    exact .nil i
  · next nonempty =>
    obtain ⟨reach, middle, tail, rfl, -, course⟩ := course.of_request_bind
    obtain ⟨rfl, -, -⟩ := course.of_done
    rw [if_neg nonempty]
    exact .of_sublist (List.nil_sublist (targetPlaces i 0 [])) rfl

theorem expression_placed {check : Check} {hosts : List Host} {kind : ExpressionKind}
    {outcome : Outcome}
    (course : Course responds (expression check hosts kind) s log (some outcome) later)
    (i : Nat) :
    ∃ places, Placed i log places ∧ ∀ environment : Environment,
      environment.Tells (places.zip log) →
        expressionPlaces environment check hosts i kind = places := by
  cases kind with
  | raw e =>
      obtain ⟨rfl, -, -⟩ := course.of_done
      exact ⟨[], .nil i, fun _ _ => rfl⟩
  | relative e => exact relative_placed course i
  | log e => exact ⟨_, log_placed course i, fun _ _ => rfl⟩
  | ping e => exact ⟨_, probe_placed course i, fun _ _ => rfl⟩
  | ssh e => exact ⟨_, probe_placed course i, fun _ _ => rfl⟩
  | http e => exact ⟨_, probe_placed course i, fun _ _ => rfl⟩
  | operator junction =>
      obtain ⟨rfl, -, -⟩ := course.of_done
      exact ⟨[], .nil i, fun _ _ => rfl⟩

/-- The places of expressions from some number on, one for each of their reads. -/
structure PlacedFrom (i : Nat) (log : List Exchange) (places : List Place) : Prop where
  each : places.length = log.length
  distinct : places.Nodup
  own : ∀ place ∈ places, ∃ j, i ≤ j ∧ place.expression? = some j

theorem Placed.append {i : Nat} {head tail : List Exchange} {places more : List Place}
    (placed : Placed i head places) (others : PlacedFrom (i + 1) tail more) :
    PlacedFrom i (head ++ tail) (places ++ more) where
  each := by rw [List.length_append, List.length_append, placed.each, others.each]
  distinct := by
    refine List.nodup_append'.mpr ⟨placed.distinct, others.distinct, fun place here there => ?_⟩
    obtain ⟨j, later, isOther⟩ := others.own place there
    obtain rfl := Option.some.inj ((placed.own place here).symm.trans isOther)
    exact Nat.lt_irrefl _ later
  own place member := by
    rcases List.mem_append.mp member with here | there
    · exact ⟨i, Nat.le_refl i, placed.own place here⟩
    · obtain ⟨j, later, isOther⟩ := others.own place there
      exact ⟨j, Nat.le_of_succ_le later, isOther⟩

theorem expressions_placed {check : Check} {hosts : List Host} {list evaluated : List Expression}
    (course : Course responds (expressions check hosts list) s log (some evaluated) later)
    (i : Nat) :
    ∃ places, PlacedFrom i log places ∧ ∀ environment : Environment,
      environment.Tells (places.zip log) →
        expressionsPlaces environment check hosts i list = places := by
  induction list generalizing i s later log evaluated with
  | nil =>
      obtain ⟨rfl, -, -⟩ := course.of_done
      exact ⟨[], ⟨rfl, List.nodup_nil, List.forall_mem_nil _⟩, fun _ _ => rfl⟩
  | cons e rest ih =>
      obtain ⟨head, tail, outcome, middle, rfl, early, course⟩ | ⟨broke, -⟩ := course.of_bind
      · obtain ⟨tail, last, evaluated, between, rfl, late, course⟩ | ⟨broke, -⟩ := course.of_bind
        · obtain ⟨rfl, -, -⟩ := course.of_done
          rw [List.append_nil]
          obtain ⟨places, placed, same⟩ := expression_placed early i
          obtain ⟨more, others, sameOthers⟩ := ih late (i + 1)
          refine ⟨places ++ more, placed.append others, fun environment tells => ?_⟩
          rw [List.zip_append placed.each] at tells
          obtain ⟨first, second⟩ := List.forall_mem_append.mp tells
          rw [expressionsPlaces, same environment first, sameOthers environment second]
        · cases broke
      · cases broke

theorem resolve_reads {freshness : Span} {check : Check}
    {resolved : Except EvaluationError (List Host)}
    (course : Course responds (resolve freshness check) s log (some resolved) later) :
    ∃ exchange, log = [exchange] := by
  unfold resolve at course
  split at course
  · obtain ⟨hosts, middle, tail, rfl, -, course⟩ := course.of_request_bind
    obtain ⟨rfl, -, -⟩ := course.of_done
    exact ⟨_, rfl⟩
  · obtain ⟨hosts, middle, tail, rfl, -, course⟩ := course.of_request_bind
    obtain ⟨rfl, -, -⟩ := course.of_done
    exact ⟨_, rfl⟩

theorem evaluate_placed {freshness : Span} {check : Check}
    {value : Except EvaluationError (List Expression × Bool)}
    (course : Course responds (evaluate freshness check) s log (some value) later) :
    ∃ spots : List Place, spots.length = log.length ∧ spots.Nodup ∧
      ∀ environment : Environment, environment.Tells (spots.zip log) →
        places environment freshness check = spots := by
  unfold evaluate at course
  obtain ⟨head, tail, resolved, middle, rfl, asked, course⟩ | ⟨broke, -⟩ := course.of_bind
  · obtain ⟨exchange, rfl⟩ := resolve_reads asked
    have told (environment : Environment) (tells : environment.Tells [(.hosts, exchange)]) :
        ((resolve freshness check).run environment.answer [.hosts]).1 = some resolved := by
      have ran : (resolve freshness check).run environment.answer ([.hosts] ++ []) =
        (some resolved, []) := asked.run_tells rfl tells []
      exact congrArg Prod.fst ran
    cases resolved with
    | error cause =>
        obtain ⟨rfl, -, -⟩ := course.of_done
        refine ⟨[.hosts], rfl, List.nodup_singleton _, fun environment tells => ?_⟩
        rw [places, told environment tells]
        rfl
    | ok hosts =>
        obtain ⟨log, last, evaluated, between, rfl, reads, course⟩ | ⟨broke, -⟩ := course.of_bind
        · obtain ⟨rfl, -, -⟩ := course.of_done
          rw [List.append_nil]
          obtain ⟨more, placed, same⟩ := expressions_placed reads 0
          have fresh : Place.hosts ∉ more := fun member =>
            nomatch (placed.own .hosts member).choose_spec.2
          refine ⟨.hosts :: more, congrArg (· + 1) placed.each,
            List.nodup_cons.mpr ⟨fresh, placed.distinct⟩, fun environment tells => ?_⟩
          obtain ⟨first, others⟩ := List.forall_mem_cons.mp tells
          rw [places, told environment (List.forall_mem_singleton.mpr first)]
          exact congrArg (Place.hosts :: ·) (same environment others)
        · cases broke
  · cases broke

/-- Whatever was read in an evaluation that came to its end, whoever answered and whether or not
equal reads were answered alike, there is an environment that answers each of these reads so at
its place.  The evaluation comes to the same in it, and reads at its places only. -/
theorem exists_environment {freshness : Span} {check : Check}
    {value : Except EvaluationError (List Expression × Bool)}
    (course : Course responds (evaluate freshness check) s log (some value) later) :
    ∃ environment : Environment,
      (places environment freshness check).length = log.length ∧
        environment.Tells ((places environment freshness check).zip log) ∧
        ∀ ahead, (evaluate freshness check).run environment.answer
          (places environment freshness check ++ ahead) = (some value, ahead) := by
  obtain ⟨spots, each, distinct, same⟩ := evaluate_placed course
  obtain ⟨environment, tells⟩ := Environment.exists_tells (spots.zip log)
    (by rwa [List.map_fst_zip (Nat.le_of_eq each)])
  refine ⟨environment, ?_⟩
  rw [same environment tells]
  exact ⟨each, tells, fun ahead => course.run_tells each tells ahead⟩

end Evaluation

end FleetMonitor
