import FleetMonitor.Proofs.Muster
import FleetMonitor.Proofs.Recurrence

/-!
# Workers that ended are replaced

Bringing a list of checks in line leaves a worker for every check with an accepted
interval, whatever the workers do meanwhile.  A worker that ended in order is replaced; one
that broke off shows what it last showed and is taken for one that goes on as long as its
definition stays.
-/

set_option autoImplicit false

namespace FleetMonitor

namespace Reconciliation

theorem lastOf_suffix {ending checks : List Check} (suffix : ending <:+ checks) {id : Int}
    {check : Check} (last : lastOf ending id = some check) : lastOf checks id = some check := by
  obtain ⟨front, rfl⟩ := suffix
  rw [lastOf, List.reverse_append, List.find?_append]
  rw [lastOf] at last
  rw [last]
  rfl

theorem tell_broken (r : Reconciliation) (check : Check) (period now : Span) :
    (r.tell check period now).broken = r.broken := by
  unfold tell
  split <;> rfl

theorem tell_goesOn (r : Reconciliation) (check : Check) (period now : Span) :
    ∃ scheduled, (r.tell check period now).schedule.find? check.id = some scheduled ∧
      scheduled.worker.hasEnded = false := by
  refine ⟨_, (tell_find? r check period now check.id).trans (if_pos rfl), ?_⟩
  cases heard : (r.schedule.find? check.id).bind fun scheduled =>
      scheduled.worker.tell? (.update check) with
  | none => rfl
  | some worker =>
      obtain ⟨scheduled, _, heard⟩ := Option.bind_eq_some_iff.mp heard
      exact Worker.tell?_stillOn heard

end Reconciliation

namespace Muster

open Reconciliation

variable {pipeline : Pipeline}

/-- The checks that are still to be brought in line, with the one that is being handed to
its worker. -/
def pending (m : Muster) : List Check :=
  (m.handing.map (·.1)).toList ++ m.ahead

theorem Next.pending {m : Muster} {check : Check} {rest : List Check}
    (next : m.Next check rest) : m.pending = check :: rest := by
  rw [Muster.pending, next.handing, next.ahead]
  rfl

theorem Next.pending_rest {m : Muster} {check : Check} {rest : List Check}
    (next : m.Next check rest) (r : Reconciliation) :
    Muster.pending { m with r, ahead := rest } = rest := by
  rw [Muster.pending, next.handing]
  rfl

theorem pending_handing {m : Muster} {check : Check} {period : Span}
    (handing : m.handing = some (check, period)) : m.pending = check :: m.ahead := by
  rw [Muster.pending, handing]
  rfl

theorem Idle.pending {m : Muster} (idle : m.Idle) : m.pending = [] := by
  rw [Muster.pending, idle.handing, idle.ahead]
  rfl

theorem Step.pending_suffix {m later : Muster} {act : Act} (step : Step pipeline m act later)
    (same : ∀ others, act ≠ .summon others) : later.pending <:+ m.pending := by
  have shorter : ∀ {check : Check} {rest : List Check} (r : Reconciliation),
      m.Next check rest → Muster.pending { m with r, ahead := rest } <:+ m.pending := by
    intro check rest r next
    rw [next.pending_rest, next.pending]
    exact List.suffix_cons check rest
  cases step with
  | work found moves follows => exact List.suffix_refl _
  | tell command noUpdate found told => exact List.suffix_refl _
  | summon others idle => exact absurd rfl (same others)
  | forget leaving => exact List.suffix_refl _
  | unread next endless =>
      rw [show Muster.pending _ = [] from by rw [Muster.pending, next.handing]; rfl]
      exact List.nil_suffix
  | refuse next refused => exact shorter _ next
  | start now next read vacant => exact shorter _ next
  | leave next read found shown same => exact shorter _ next
  | announce next read found shown changed =>
      rw [next.pending]
      exact List.suffix_refl _
  | @hand check period now handing =>
      rw [pending_handing handing]
      exact List.suffix_cons check m.ahead

theorem Step.leaving_subset {m later : Muster} {act : Act} (step : Step pipeline m act later)
    (same : ∀ others, act ≠ .summon others) : later.leaving ⊆ m.leaving := by
  cases step with
  | summon others idle => exact absurd rfl (same others)
  | @forget id rest leaving =>
      rw [leaving]
      exact List.subset_cons_self id rest
  | _ => exact List.Subset.refl _

theorem Step.whole {m later : Muster} {act : Act} (step : Step pipeline m act later)
    (same : ∀ others, act ≠ .summon others) (whole : later.r.broken = false) :
    m.r.broken = false := by
  cases step with
  | summon others idle => exact absurd rfl (same others)
  | @forget id rest leaving => exact (stop_broken m.r id).symm.trans whole
  | unread next endless => cases whole
  | @refuse check rest cause next refused => exact (stop_broken m.r check.id).symm.trans whole
  | @hand check period now handing => exact (tell_broken m.r check period now).symm.trans whole
  | _ => exact whole

def Worked (during : List (Muster × Act)) (id : Int) : Prop :=
  ∃ entry ∈ during, ∃ exchange, entry.2 = .work id exchange

theorem Worked.snoc {during : List (Muster × Act)} {id : Int} (worked : Worked during id)
    (m : Muster) (act : Act) : Worked (during ++ [(m, act)]) id := by
  obtain ⟨entry, member, exchange, same⟩ := worked
  exact ⟨entry, List.mem_append_left _ member, exchange, same⟩

theorem Worked.last (during : List (Muster × Act)) (m : Muster) (id : Int)
    (exchange : Option Exchange) : Worked (during ++ [(m, .work id exchange)]) id :=
  ⟨_, List.mem_append_right _ (List.mem_singleton.mpr rfl), exchange, rfl⟩

/-- A worker that a check was left with.  If it has ended it did so meanwhile, or it is the
worker of before and was taken for one that goes on. -/
def Trusted (before : Muster) (check : Check) (during : List (Muster × Act))
    (scheduled : Scheduled) : Prop :=
  scheduled.worker.hasEnded = true → Worked during check.id ∨
    before.r.schedule.find? check.id = some scheduled ∧
      scheduled.worker.showing ≠ .stopped ∧ (scheduled.definition == check) = true

/-- What holds of a check while a list of checks is brought in line.  If its worker has
ended it did so meanwhile, or it is the worker of before; and once the check had its turn
it has a worker that was not passed by. -/
structure Arranging (before : Muster) (checks : List Check) (check : Check)
    (during : List (Muster × Act)) (m : Muster) : Prop where
  suffix : m.pending <:+ checks
  leaving : check.id ∉ m.leaving
  ended : ∀ scheduled, m.r.schedule.find? check.id = some scheduled →
    scheduled.worker.hasEnded = true → Worked during check.id ∨
      before.r.schedule.find? check.id = some scheduled
  brought : m.r.broken = false → lastOf m.pending check.id = none →
    ∃ scheduled, m.r.schedule.find? check.id = some scheduled ∧
      Trusted before check during scheduled

namespace Arranging

variable {before m later : Muster} {checks : List Check} {check : Check}
  {during : List (Muster × Act)} {act : Act}

theorem start (before : Muster) (member : check ∈ checks)
    (last : lastOf checks check.id = some check) :
    Arranging before checks check [] (before.summoned checks) where
  suffix := List.suffix_refl checks
  leaving leaves := ((Schedule.mem_gone _ _ _).mp leaves).2 check member rfl
  ended scheduled found _ := Or.inr found
  brought _ passed := by
    change lastOf checks check.id = none at passed
    rw [last] at passed
    cases passed

theorem trusted_of_goesOn {scheduled : Scheduled} (goesOn : scheduled.worker.hasEnded = false) :
    Trusted before check during scheduled := by
  intro ended
  rw [goesOn] at ended
  cases ended

theorem ended_step (arranging : Arranging before checks check during m)
    (step : Step pipeline m act later) (scheduled : Scheduled)
    (found : later.r.schedule.find? check.id = some scheduled)
    (ended : scheduled.worker.hasEnded = true) :
    Worked (during ++ [(m, act)]) check.id ∨
      before.r.schedule.find? check.id = some scheduled := by
  have fate := step.fate check.id
  rw [found] at fate
  cases fate with
  | same stood =>
      exact (arranging.ended scheduled stood ended).imp_left fun worked => worked.snoc m act
  | moved stood moves => exact Or.inl (.last during m check.id _)
  | told noUpdate stood told =>
      rw [Worker.tell?_stillOn told] at ended
      cases ended
  | started now next own vacant => cases ended
  | updated handing own stood told =>
      rw [Worker.tell?_stillOn told] at ended
      cases ended
  | restarted now handing own => cases ended

theorem brought_step (arranging : Arranging before checks check during m)
    (step : Step pipeline m act later) (passed : lastOf m.pending check.id = none)
    (stands : ∃ scheduled, m.r.schedule.find? check.id = some scheduled ∧
      Trusted before check during scheduled) :
    ∃ scheduled, later.r.schedule.find? check.id = some scheduled ∧
      Trusted before check (during ++ [(m, act)]) scheduled := by
  obtain ⟨scheduled, stands, trusted⟩ := stands
  have fate := step.fate check.id
  generalize later.r.schedule.find? check.id = found at fate ⊢
  cases fate with
  | same stood =>
      refine ⟨scheduled, stood.symm.trans stands, fun ended => ?_⟩
      exact (trusted ended).imp_left fun worked => worked.snoc m act
  | moved stood moves => exact ⟨_, rfl, fun _ => Or.inl (.last during m check.id _)⟩
  | told noUpdate stood told => exact ⟨_, rfl, trusted_of_goesOn (Worker.tell?_stillOn told)⟩
  | forgotten leaving => exact absurd leaving arranging.leaving
  | refused next own refused =>
      rw [next.pending, lastOf_cons, if_pos own] at passed
      simp at passed
  | started now next own vacant => exact ⟨_, rfl, trusted_of_goesOn rfl⟩
  | updated handing own stood told => exact ⟨_, rfl, trusted_of_goesOn (Worker.tell?_stillOn told)⟩
  | restarted now handing own => exact ⟨_, rfl, trusted_of_goesOn rfl⟩

theorem turn_of_last {rest : List Check} {other : Check} (suffix : other :: rest <:+ checks)
    (last : lastOf checks check.id = some check)
    (had : lastOf (other :: rest) check.id ≠ none) (passed : lastOf rest check.id = none) :
    other = check := by
  rw [lastOf_cons, passed, Option.none_or] at had
  have own : other.id = check.id := by
    by_contra apart
    exact had (if_neg apart)
  have found : lastOf (other :: rest) check.id = some other := by
    rw [lastOf_cons, passed, if_pos own, Option.none_or]
  exact Option.some.inj ((lastOf_suffix suffix found).symm.trans last)

theorem brought_turn (arranging : Arranging before checks check during m)
    (step : Step pipeline m act later) (same : ∀ others, act ≠ .summon others)
    (last : lastOf checks check.id = some check) (accepted : check.accepted = true)
    (whole : later.r.broken = false) (had : lastOf m.pending check.id ≠ none)
    (passed : lastOf later.pending check.id = none) :
    ∃ scheduled, later.r.schedule.find? check.id = some scheduled ∧
      Trusted before check (during ++ [(m, act)]) scheduled := by
  -- Only the last check with the id leaves none with it behind.
  have turn : ∀ {other : Check} {rest : List Check}, m.pending = other :: rest →
      lastOf rest check.id = none → other = check := by
    intro other rest pending passed
    have suffix := arranging.suffix
    rw [pending] at suffix had
    exact turn_of_last suffix last had passed
  cases step with
  | work found moves follows => exact absurd passed had
  | tell command noUpdate found told => exact absurd passed had
  | summon others idle => exact absurd rfl (same others)
  | forget leaving => exact absurd passed had
  | unread next endless => cases whole
  | refuse next refused =>
      rw [next.pending_rest] at passed
      rw [turn next.pending passed] at refused
      rw [Check.accepted, refused] at accepted
      cases accepted
  | @start other rest period now next read vacant =>
      rw [next.pending_rest] at passed
      obtain rfl := turn next.pending passed
      exact ⟨_, (start_find? m.r other period now other.id).trans (if_pos rfl),
        trusted_of_goesOn rfl⟩
  | @leave other rest period scheduled next read found shown unchanged =>
      rw [next.pending_rest] at passed
      obtain rfl := turn next.pending passed
      refine ⟨scheduled, found, fun ended => ?_⟩
      rcases arranging.ended scheduled found ended with worked | former
      · exact Or.inl (worked.snoc m .arrange)
      · exact Or.inr ⟨former, shown, unchanged⟩
  | announce next read found shown changed =>
      rw [next.pending] at had
      exact absurd passed had
  | @hand other period now handing =>
      obtain rfl := turn (pending_handing handing) passed
      obtain ⟨scheduled, found, goesOn⟩ := tell_goesOn m.r other period now
      exact ⟨scheduled, found, trusted_of_goesOn goesOn⟩

theorem step (arranging : Arranging before checks check during m)
    (last : lastOf checks check.id = some check) (accepted : check.accepted = true)
    (step : Step pipeline m act later) (same : ∀ others, act ≠ .summon others) :
    Arranging before checks check (during ++ [(m, act)]) later where
  suffix := (step.pending_suffix same).trans arranging.suffix
  leaving leaves := arranging.leaving (step.leaving_subset same leaves)
  ended := arranging.ended_step step
  brought whole passed := by
    -- The check had its turn before, or it has it in this step.
    by_cases had : lastOf m.pending check.id = none
    · exact arranging.brought_step step had (arranging.brought (step.whole same whole) had)
    · exact arranging.brought_turn step same last accepted whole had passed

/-- A worker that broke off and is repeated unchanged is not noticed. -/
theorem step_unnoticed (arranging : Arranging before checks check during m)
    (accepted : check.accepted = true)
    (once : ∀ other ∈ checks, other.id = check.id → other = check) (former : Scheduled)
    (ended : former.worker.hasEnded = true) (shown : former.worker.showing ≠ .stopped)
    (unchanged : (former.definition == check) = true)
    (stands : m.r.schedule.find? check.id = some former)
    (others : ∀ other period, m.handing = some (other, period) → other.id ≠ check.id)
    (step : Step pipeline m act later) (same : ∀ others, act ≠ .summon others) :
    later.r.schedule.find? check.id = some former ∧
      ∀ other period, later.handing = some (other, period) → other.id ≠ check.id := by
  have own_next : ∀ {other : Check} {rest : List Check}, m.Next other rest →
      other.id = check.id → other = check := by
    intro other rest next own
    have suffix := arranging.suffix
    rw [next.pending] at suffix
    exact once other (suffix.subset List.mem_cons_self) own
  constructor
  -- A worker that ended does nothing and hears nothing, and it does not show that it ended.
  · have fate := step.fate check.id
    generalize later.r.schedule.find? check.id = found at fate ⊢
    cases fate with
    | same stood => exact stood.symm.trans stands
    | moved stood moves =>
        obtain rfl := Option.some.inj (stood.symm.trans stands)
        have goesOn := moves.goesOn
        rw [ended] at goesOn
        cases goesOn
    | told noUpdate stood told =>
        obtain rfl := Option.some.inj (stood.symm.trans stands)
        have goesOn := Worker.tell?_goesOn _ _ _ told
        rw [ended] at goesOn
        cases goesOn
    | forgotten leaving => exact absurd leaving arranging.leaving
    | refused next own refused =>
        rw [own_next next own] at refused
        rw [Check.accepted, refused] at accepted
        cases accepted
    | started now next own vacant => exact absurd (vacant former stands) shown
    | updated handing own stood told => exact absurd own (others _ _ handing)
    | restarted now handing own => exact absurd own (others _ _ handing)
  · cases step with
    | summon list idle => exact absurd rfl (same list)
    | @announce other rest period scheduled next read found _ changed =>
        intro handed period handing own
        obtain ⟨rfl, _⟩ := Prod.mk.inj (Option.some.inj handing)
        rw [own] at found
        obtain rfl := Option.some.inj (found.symm.trans stands)
        rw [own_next next own, unchanged] at changed
        cases changed
    | hand now handing =>
        intro handed period nothing
        cases nothing
    | _ => exact others

theorem of_path (path : Path pipeline (before.summoned checks) during m)
    (same : ∀ entry ∈ during, ∀ others, entry.2 ≠ .summon others)
    (last : lastOf checks check.id = some check) (accepted : check.accepted = true) :
    Arranging before checks check during m := by
  induction path with
  | start => exact .start before (lastOf_mem checks check.id check last).1 last
  | step _ step ih =>
      obtain ⟨early, now⟩ := List.forall_mem_append.mp same
      exact (ih early).step last accepted step (now _ (List.mem_singleton.mpr rfl))

end Arranging

theorem Path.unnoticed {before m : Muster} {checks : List Check} {check : Check}
    {during : List (Muster × Act)} (path : Path pipeline (before.summoned checks) during m)
    (same : ∀ entry ∈ during, ∀ others, entry.2 ≠ .summon others)
    (last : lastOf checks check.id = some check) (accepted : check.accepted = true)
    (once : ∀ other ∈ checks, other.id = check.id → other = check) (former : Scheduled)
    (ended : former.worker.hasEnded = true) (shown : former.worker.showing ≠ .stopped)
    (unchanged : (former.definition == check) = true)
    (stood : before.r.schedule.find? check.id = some former) :
    m.r.schedule.find? check.id = some former ∧
      ∀ other period, m.handing = some (other, period) → other.id ≠ check.id := by
  induction path with
  | start => exact ⟨stood, nofun⟩
  | step path step ih =>
      obtain ⟨early, now⟩ := List.forall_mem_append.mp same
      obtain ⟨stands, others⟩ := ih early
      exact (Arranging.of_path path early last accepted).step_unnoticed accepted once former ended
        shown unchanged stands others step (now _ (List.mem_singleton.mpr rfl))

/-- When a list of checks has been brought in line, every check with an accepted interval
has a worker, whatever happened meanwhile.  If that worker has ended, it did something
meanwhile, or it is the worker of before, which broke off without showing it and whose
definition is repeated; and such a worker always stays. -/
theorem only_broken_workers_stay {before m : Muster} {checks : List Check}
    {during : List (Muster × Act)} (path : Path pipeline (before.summoned checks) during m)
    (same : ∀ entry ∈ during, ∀ others, entry.2 ≠ .summon others) (idle : m.Idle)
    (whole : m.r.broken = false) (check : Check) (last : lastOf checks check.id = some check)
    (accepted : check.accepted = true) :
    (∃ scheduled, m.r.schedule.find? check.id = some scheduled ∧
      (scheduled.worker.hasEnded = true → Worked during check.id ∨
        before.r.schedule.find? check.id = some scheduled ∧
          scheduled.worker.showing ≠ .stopped ∧ (scheduled.definition == check) = true)) ∧
    ∀ former, before.r.schedule.find? check.id = some former →
      former.worker.hasEnded = true → former.worker.showing ≠ .stopped →
        (former.definition == check) = true →
          (∀ other ∈ checks, other.id = check.id → other = check) →
            m.r.schedule.find? check.id = some former := by
  have arranging := Arranging.of_path path same last accepted
  refine ⟨arranging.brought whole (by rw [idle.pending]; rfl), ?_⟩
  intro former stood ended shown unchanged once
  exact (path.unnoticed same last accepted once former ended shown unchanged stood).1

def stoppedCrew : Muster :=
  resting ⟨[(1, ⟨pagedCheck, (Worker.start pagedCheck ⟨60000000000⟩ ⟨0⟩).stop.1⟩)]⟩ .empty
    ⟨[], [], [], []⟩ false

/-- A worker that ended in order is replaced though its definition is repeated. -/
theorem stopped_worker_is_replaced :
    ∃ during m, Path pagedPipeline (stoppedCrew.summoned [pagedCheck]) during m ∧ m.Idle ∧
      ∃ scheduled, m.r.schedule.find? 1 = some scheduled ∧ scheduled.worker.hasEnded = false := by
  have next : Next (stoppedCrew.summoned [pagedCheck]) pagedCheck [] :=
    ⟨by decide +kernel, rfl, rfl⟩
  have stopped : ∀ scheduled, stoppedCrew.r.schedule.find? 1 = some scheduled →
      scheduled.worker.showing = .stopped := by
    intro scheduled found
    rw [← Option.some.inj found]
    rfl
  have read : pagedCheck.period? = some (.ok ⟨60000000000⟩) := by decide +kernel
  have step : Step pagedPipeline _ .arrange _ := .start ⟨1⟩ next read stopped
  have path := Path.start.step step
  obtain ⟨⟨scheduled, found, ends⟩, _⟩ := only_broken_workers_stay path (by simp)
    ⟨next.leaving, rfl, rfl⟩ rfl pagedCheck rfl (by rw [Check.accepted, read])
  refine ⟨_, _, path, ⟨next.leaving, rfl, rfl⟩, scheduled, found, ?_⟩
  refine Bool.eq_false_iff.mpr fun ended => ?_
  rcases ends ended with ⟨entry, member, exchange, works⟩ | ⟨former, shown, _⟩
  · simp only [List.nil_append, List.mem_singleton] at member
    rw [member] at works
    cases works
  · exact shown (stopped scheduled former)

def endlessCheck : Check :=
  { pagedCheck with triggers := [⟨1, 1, none, 9223372036854775807, .nothing⟩] }

def endlessCrew : Crew :=
  (((Crew.empty pagedPipeline).apply ⟨0⟩ [endlessCheck]).2.settle ⟨0⟩ hostDown).1

/-- The worker of the check broke off in its first cycle.  The same list again changes
nothing, and the check is left with a worker that has ended. -/
theorem broken_worker_is_not_replaced :
    Crew.Reachable pagedPipeline endlessCrew ∧ endlessCheck.accepted = true ∧
      (endlessCrew.apply ⟨1⟩ [endlessCheck]).1 = some ⟨[], [], [], []⟩ ∧
      ((endlessCrew.apply ⟨1⟩ [endlessCheck]).2.schedule.find? 1).any
        (fun scheduled => scheduled.worker.hasEnded) = true :=
  ⟨.settle _ _ _ (.apply _ _ _ .empty), by decide +kernel, by decide +kernel, by decide +kernel⟩

end Muster

end FleetMonitor
