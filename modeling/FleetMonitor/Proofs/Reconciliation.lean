import FleetMonitor.Proofs.Promise

/-!
# What checks make of workers

A check acts on the worker of its id alone; so in a list of checks the last one of
an id decides about its worker, and with distinct ids the report tells of each check
what it would have told of it alone.
-/

set_option autoImplicit false

namespace FleetMonitor

/-! ## Definitions that equal themselves -/

/-- A finite number equals itself; what is no number does not. -/
theorem float_beq_self (x : Float) (finite : x.isFinite = true) : (x == x) = true := by
  change (x.toModel.unpack.compare x.toModel.unpack == some .eq) = true
  have known : x.toModel.unpack.isFinite = true := finite
  cases shape : x.toModel.unpack with
  | notANumber =>
      rw [shape] at known
      cases known
  | infinity sign =>
      rw [shape] at known
      cases known
  | zero sign => rfl
  | finite sign mantissa exponent positive =>
      have sameSize : (compare exponent exponent).then (compare mantissa mantissa) = .eq := by
        simp
      cases sign with
      | positive =>
          change (some ((compare exponent exponent).then (compare mantissa mantissa)) ==
            some .eq) = true
          rw [sameSize]
          rfl
      | negative =>
          change (some ((compare exponent exponent).then (compare mantissa mantissa)).swap ==
            some .eq) = true
          rw [sameSize]
          rfl

def ExpressionKind.isFinite : ExpressionKind → Bool
  | raw e => e.value.isFinite
  | relative e => e.value.isFinite
  | log e => e.value.isFinite
  | _ => true

theorem kind_beq_self (kind : ExpressionKind) (finite : kind.isFinite = true) :
    (kind == kind) = true := by
  change instBEqExpressionKind.beq kind kind = true
  cases kind with
  | raw e =>
      change instBEqMetricThreshold.beq e e = true
      simp [instBEqMetricThreshold.beq, float_beq_self e.value finite]
  | relative e =>
      change instBEqRelativeThreshold.beq e e = true
      simp [instBEqRelativeThreshold.beq, float_beq_self e.value finite]
  | log e =>
      change instBEqLogThreshold.beq e e = true
      simp [instBEqLogThreshold.beq, float_beq_self e.value finite]
  | ping e => simp [instBEqExpressionKind.beq]
  | ssh e => simp [instBEqExpressionKind.beq]
  | http e => simp [instBEqExpressionKind.beq]
  | operator junction => simp [instBEqExpressionKind.beq]

theorem expressions_beq_self (list : List Expression)
    (finite : ∀ e ∈ list, e.kind.isFinite = true) : (list == list) = true := by
  induction list with
  | nil => rfl
  | cons e rest ih =>
      have kindEq := kind_beq_self e.kind (finite e (by simp))
      have restEq := ih fun other member => finite other (by simp [member])
      have headEq : (e == e) = true := by
        change instBEqExpression.beq e e = true
        simp [instBEqExpression.beq, kindEq]
      rw [List.cons_beq_cons, headEq, restEq]
      rfl

namespace Check

/-- The thresholds of the check are finite, as all that can be read from a store are. -/
def isFinite (check : Check) : Prop :=
  ∀ e ∈ check.expressions, e.kind.isFinite = true

theorem beq_self (check : Check) (finite : check.isFinite) : (check == check) = true := by
  change instBEqCheck.beq check check = true
  simp [instBEqCheck.beq, expressions_beq_self check.expressions finite]

end Check

namespace Schedule

/-! ## Schedules whose workers run -/

/-- A schedule that remembers what was promised, all of its workers running. -/
structure Live (schedule : Schedule) : Prop extends schedule.Kept where
  running : ∀ entry ∈ schedule.workers, entry.2.worker.IsRunning

def starts (schedule : Schedule) (check : Check) : Bool :=
  check.accepted && (schedule.find? check.id).isNone

def updates (schedule : Schedule) (check : Check) : Bool :=
  check.accepted && (schedule.find? check.id).any fun scheduled => scheduled.definition != check

def stops (schedule : Schedule) (check : Check) : Bool :=
  check.refused && (schedule.find? check.id).isSome

theorem filters_congr (before after : Schedule) (checks : List Check)
    (same : ∀ check ∈ checks, after.find? check.id = before.find? check.id) :
    checks.filter after.starts = checks.filter before.starts ∧
      checks.filter after.updates = checks.filter before.updates ∧
      checks.filter after.stops = checks.filter before.stops := by
  refine ⟨List.filter_congr ?_, List.filter_congr ?_, List.filter_congr ?_⟩
  · intro check member
    rw [starts, starts, same check member]
  · intro check member
    rw [updates, updates, same check member]
  · intro check member
    rw [stops, stops, same check member]

theorem drop_live (schedule : Schedule) (live : schedule.Live) (id : Int) :
    (schedule.drop id).Live where
  toKept := drop_kept schedule live.toKept id
  running entry member := live.running entry (List.mem_filter.mp member).1

theorem start_live (schedule : Schedule) (live : schedule.Live) (check : Check)
    (period now : Span) : (schedule.start check period now).Live where
  toKept := start_kept schedule live.toKept check period now
  running entry member := by
    rcases List.mem_append.mp member with former | started
    · exact (drop_live schedule live check.id).running entry former
    · rw [List.mem_singleton.mp started]
      exact ⟨rfl, nofun⟩

def told (scheduled : Scheduled) (check : Check) : Scheduled :=
  ⟨check, { scheduled.worker with queue := scheduled.worker.queue ++ [.update check] }⟩

theorem told_promised (scheduled : Scheduled) (check : Check) (accepted : check.accepted = true) :
    (told scheduled check).worker.promised = check := by
  simp [told, Worker.promised, Worker.takeOver, accepted]

theorem replace_live (schedule : Schedule) (live : schedule.Live) (scheduled : Scheduled)
    (check : Check) (found : schedule.find? check.id = some scheduled)
    (accepted : check.accepted = true) :
    (schedule.replace check.id (told scheduled check)).Live where
  toKept := replace_kept schedule live.toKept check.id _
    fun _ => told_promised scheduled check accepted
  running entry member := by
    obtain ⟨former, formerMem, rfl⟩ := List.mem_map.mp member
    split
    · have runs := live.running (check.id, scheduled) (mem_of_find? _ _ _ found)
      exact ⟨runs.1, runs.2⟩
    · exact live.running former formerMem

theorem Live.promised_of_find? (schedule : Schedule) (live : schedule.Live) (id : Int)
    (scheduled : Scheduled) (found : schedule.find? id = some scheduled) :
    scheduled.worker.promised = scheduled.definition := by
  have member := mem_of_find? schedule id scheduled found
  exact live.promised _ member (live.running _ member).1

end Schedule

namespace Reconciliation

/-! ## One check -/

theorem stop_find? (r : Reconciliation) (id other : Int) :
    (r.stop id).schedule.find? other =
      if other = id then none else r.schedule.find? other := by
  unfold stop
  by_cases has : (r.schedule.find? id).isSome
  · rw [if_pos has]
    exact Schedule.find?_drop r.schedule id other
  · rw [if_neg has]
    by_cases same : other = id
    · rw [if_pos same, same]
      simpa using has
    · rw [if_neg same]

theorem forget_live (r : Reconciliation) (id : Int) (live : r.schedule.Live) :
    (r.forget id).schedule.Live := by
  unfold forget stop
  split
  · exact Schedule.drop_live r.schedule live id
  · exact live

def brought (now : Span) (check : Check) (period : Span) : Option Scheduled → Scheduled
  | none => ⟨check, .start check period now⟩
  | some scheduled =>
      if scheduled.definition == check then scheduled else Schedule.told scheduled check

theorem place_of_find? (now : Span) (r : Reconciliation) (check : Check) (period : Span)
    (scheduled : Scheduled) (found : r.schedule.find? check.id = some scheduled)
    (running : scheduled.worker.IsRunning) :
    r.place now check period =
      if scheduled.definition == check then r
      else
        { r.forgetRemoved check with
          schedule := r.schedule.replace check.id (Schedule.told scheduled check)
          report := { r.report with updated := r.report.updated ++ [check.id] } } := by
  rw [place, found]
  simp only
  rw [if_neg running.2]
  by_cases same : (scheduled.definition == check) = true
  · rw [if_pos same, if_pos same]
  · rw [if_neg same, if_neg same, tell]
    have heard : ((r.forgetRemoved check).schedule.find? check.id).bind
          (fun scheduled => scheduled.worker.tell? (.update check)) =
        some (Schedule.told scheduled check).worker := by
      rw [show (r.forgetRemoved check).schedule = r.schedule from rfl, found, Option.bind_some,
        Worker.tell?, if_neg (by simp [running.1])]
      rfl
    rw [heard]
    rfl

theorem place_find? (now : Span) (r : Reconciliation) (live : r.schedule.Live) (check : Check)
    (period : Span) (id : Int) :
    (r.place now check period).schedule.find? id =
      if id = check.id then some (brought now check period (r.schedule.find? check.id))
      else r.schedule.find? id := by
  cases found : r.schedule.find? check.id with
  | none =>
      rw [place, found]
      exact Schedule.find?_start r.schedule check period now id
  | some scheduled =>
      have running := live.running _ (Schedule.mem_of_find? _ _ _ found)
      rw [place_of_find? now r check period scheduled found running, brought]
      by_cases same : (scheduled.definition == check) = true
      · rw [if_pos same, if_pos same]
        by_cases here : id = check.id
        · rw [if_pos here, here, found]
        · rw [if_neg here]
      · rw [if_neg same, if_neg same]
        have replaced := Schedule.find?_replace r.schedule check.id id
          (Schedule.told scheduled check)
        rw [found] at replaced
        exact replaced

theorem place_live (now : Span) (r : Reconciliation) (live : r.schedule.Live) (check : Check)
    (accepted : check.accepted = true) (period : Span) :
    (r.place now check period).schedule.Live := by
  cases found : r.schedule.find? check.id with
  | none =>
      rw [place, found]
      exact Schedule.start_live r.schedule live check period now
  | some scheduled =>
      have running := live.running _ (Schedule.mem_of_find? _ _ _ found)
      rw [place_of_find? now r check period scheduled found running]
      split
      · exact live
      · exact Schedule.replace_live r.schedule live scheduled check found accepted

theorem place_report (now : Span) (r : Reconciliation) (live : r.schedule.Live) (check : Check)
    (accepted : check.accepted = true) (period : Span) :
    (r.place now check period).report =
      { r.report with
        started := r.report.started ++ if r.schedule.starts check then [check.id] else []
        updated := r.report.updated ++ if r.schedule.updates check then [check.id] else [] } := by
  unfold Schedule.starts Schedule.updates
  cases found : r.schedule.find? check.id with
  | none =>
      rw [place, found]
      simp [start, accepted]
  | some scheduled =>
      have running := live.running _ (Schedule.mem_of_find? _ _ _ found)
      rw [place_of_find? now r check period scheduled found running]
      by_cases same : (scheduled.definition == check) = true
      · rw [if_pos same]
        simp [accepted, same, bne]
      · rw [if_neg same]
        simp [accepted, same, bne]

theorem assign_of_error (now : Span) (r : Reconciliation) (whole : r.broken = false)
    (check : Check) (cause : IntervalError) (period : check.period? = some (.error cause)) :
    r.assign now check = r.reject check.id := by
  rw [assign, if_neg (by simp [whole]), period]

theorem assign_of_ok (now : Span) (r : Reconciliation) (whole : r.broken = false)
    (check : Check) (span : Span) (period : check.period? = some (.ok span)) :
    r.assign now check = r.place now check span := by
  rw [assign, if_neg (by simp [whole]), period]

theorem stop_broken (r : Reconciliation) (id : Int) : (r.stop id).broken = r.broken := by
  unfold stop
  split <;> rfl

theorem place_broken (now : Span) (r : Reconciliation) (check : Check) (period : Span) :
    (r.place now check period).broken = r.broken := by
  unfold place tell
  split
  · rfl
  · split
    · rfl
    · split
      · rfl
      · split <;> rfl

/-- Bringing in line breaks off at an interval that cannot be read to its end, and
at no other. -/
theorem assign_broken (now : Span) (r : Reconciliation) (check : Check) :
    (r.assign now check).broken = true ↔ r.broken = true ∨ check.period? = none := by
  by_cases broken : r.broken = true
  · rw [assign, if_pos broken]
    simp [broken]
  · have whole : r.broken = false := by simpa using broken
    cases period : check.period? with
    | none =>
        rw [assign, if_neg broken, period]
        simp
    | some read =>
        cases read with
        | error cause =>
            rw [assign_of_error now r whole check cause period]
            simp [reject, forget, stop_broken, whole]
        | ok span =>
            rw [assign_of_ok now r whole check span period, place_broken]
            simp [whole]

theorem assign_live (now : Span) (r : Reconciliation) (whole : r.broken = false)
    (live : r.schedule.Live) (check : Check) (readable : check.period? ≠ none) :
    (r.assign now check).schedule.Live := by
  cases period : check.period? with
  | none => exact absurd period readable
  | some read =>
      cases read with
      | error cause =>
          rw [assign_of_error now r whole check cause period]
          exact forget_live r check.id live
      | ok span =>
          rw [assign_of_ok now r whole check span period]
          exact place_live now r live check (by rw [Check.accepted, period]) span

theorem assign_find?_other (now : Span) (r : Reconciliation) (live : r.schedule.Live)
    (check : Check) (id : Int) (other : id ≠ check.id) :
    (r.assign now check).schedule.find? id = r.schedule.find? id := by
  by_cases broken : r.broken = true
  · rw [assign, if_pos broken]
  · have whole : r.broken = false := by simpa using broken
    cases period : check.period? with
    | none => rw [assign, if_neg broken, period]
    | some read =>
        cases read with
        | error cause =>
            rw [assign_of_error now r whole check cause period]
            exact (stop_find? r check.id id).trans (if_neg other)
        | ok span =>
            rw [assign_of_ok now r whole check span period,
              place_find? now r live check span, if_neg other]

theorem assign_find?_refused (now : Span) (r : Reconciliation) (whole : r.broken = false)
    (check : Check) (readable : check.period? ≠ none) (refused : check.accepted = false) :
    (r.assign now check).schedule.find? check.id = none := by
  cases period : check.period? with
  | none => exact absurd period readable
  | some read =>
      cases read with
      | error cause =>
          rw [assign_of_error now r whole check cause period]
          exact (stop_find? r check.id check.id).trans (if_pos rfl)
      | ok span => simp [Check.accepted, period] at refused

theorem assign_find?_accepted (now : Span) (r : Reconciliation) (whole : r.broken = false)
    (live : r.schedule.Live) (check : Check) (accepted : check.accepted = true) :
    ∃ period, (r.assign now check).schedule.find? check.id =
      some (brought now check period (r.schedule.find? check.id)) := by
  cases period : check.period? with
  | none => simp [Check.accepted, period] at accepted
  | some read =>
      cases read with
      | error cause => simp [Check.accepted, period] at accepted
      | ok span =>
          refine ⟨span, ?_⟩
          rw [assign_of_ok now r whole check span period, place_find? now r live check span,
            if_pos rfl]

theorem assign_report (now : Span) (r : Reconciliation) (whole : r.broken = false)
    (live : r.schedule.Live) (check : Check) (readable : check.period? ≠ none) :
    (r.assign now check).report =
      ⟨r.report.started ++ (if r.schedule.starts check then [check.id] else []),
        r.report.updated ++ (if r.schedule.updates check then [check.id] else []),
        r.report.stopped ++ (if r.schedule.stops check then [check.id] else []),
        r.report.rejected ++ (if check.refused then [check.id] else [])⟩ := by
  cases period : check.period? with
  | none => exact absurd period readable
  | some read =>
      cases read with
      | error cause =>
          have accepted : check.accepted = false := by rw [Check.accepted, period]
          have refused : check.refused = true := by rw [Check.refused, period]
          rw [assign_of_error now r whole check cause period]
          unfold reject forget stop Schedule.starts Schedule.updates Schedule.stops
          split <;> simp_all
      | ok span =>
          have accepted : check.accepted = true := by rw [Check.accepted, period]
          have refused : check.refused = false := by rw [Check.refused, period]
          rw [assign_of_ok now r whole check span period,
            place_report now r live check accepted span]
          simp [Schedule.stops, refused]

theorem brought_definition (now : Span) (check : Check) (finite : check.isFinite)
    (period : Span) (before : Option Scheduled) :
    ((brought now check period before).definition == check) = true := by
  cases before with
  | none => exact check.beq_self finite
  | some scheduled =>
      rw [brought]
      by_cases same : (scheduled.definition == check) = true
      · rw [if_pos same]
        exact same
      · rw [if_neg same]
        exact check.beq_self finite

/-! ## A list of checks -/

theorem fold_broken (now : Span) (checks : List Check) (r : Reconciliation) :
    (checks.foldl (assign now) r).broken = true ↔
      r.broken = true ∨ ∃ check ∈ checks, check.period? = none := by
  induction checks generalizing r with
  | nil => simp
  | cons check rest ih =>
      rw [List.foldl_cons, ih, assign_broken, or_assoc]
      simp

theorem assign_whole (now : Span) (r : Reconciliation) (whole : r.broken = false)
    (check : Check) (readable : check.period? ≠ none) : (r.assign now check).broken = false := by
  rw [← Bool.not_eq_true, assign_broken]
  simp [whole, readable]

theorem fold_live (now : Span) (checks : List Check) (r : Reconciliation)
    (whole : r.broken = false) (live : r.schedule.Live)
    (readable : ∀ check ∈ checks, check.period? ≠ none) :
    (checks.foldl (assign now) r).schedule.Live := by
  induction checks generalizing r with
  | nil => exact live
  | cons check rest ih =>
      have headReadable := readable check (by simp)
      exact ih (r.assign now check) (assign_whole now r whole check headReadable)
        (assign_live now r whole live check headReadable)
        fun other member => readable other (by simp [member])

/-- The worker of an id stays as it is if all checks of that id are accepted and
equal to what it was last given, in particular if there are none. -/
theorem fold_untouched (now : Span) (checks : List Check) (r : Reconciliation)
    (whole : r.broken = false) (live : r.schedule.Live)
    (readable : ∀ check ∈ checks, check.period? ≠ none) (id : Int)
    (unchanged : ∀ check ∈ checks, check.id = id → check.accepted = true ∧
      ∃ scheduled, r.schedule.find? id = some scheduled ∧
        (scheduled.definition == check) = true) :
    (checks.foldl (assign now) r).schedule.find? id = r.schedule.find? id := by
  induction checks generalizing r with
  | nil => rfl
  | cons check rest ih =>
      have headReadable := readable check (by simp)
      have headSame : (r.assign now check).schedule.find? id = r.schedule.find? id := by
        by_cases own : check.id = id
        · obtain ⟨accepted, scheduled, found, same⟩ := unchanged check (by simp) own
          obtain ⟨period, after⟩ := assign_find?_accepted now r whole live check accepted
          rw [own, found, brought, if_pos same] at after
          rw [after, found]
        · exact assign_find?_other now r live check id (Ne.symm own)
      rw [List.foldl_cons, ih (r.assign now check) (assign_whole now r whole check headReadable)
        (assign_live now r whole live check headReadable)
        (fun other member => readable other (by simp [member])), headSame]
      intro other member own
      rw [headSame]
      exact unchanged other (by simp [member]) own

def lastOf (checks : List Check) (id : Int) : Option Check :=
  checks.reverse.find? fun check => check.id == id

theorem lastOf_cons (check : Check) (rest : List Check) (id : Int) :
    lastOf (check :: rest) id =
      (lastOf rest id).or (if check.id = id then some check else none) := by
  rw [lastOf, lastOf, List.reverse_cons, List.find?_append, List.find?_singleton]
  simp only [beq_iff_eq]

theorem lastOf_mem (checks : List Check) (id : Int) (check : Check)
    (last : lastOf checks id = some check) : check ∈ checks ∧ check.id = id := by
  have member := List.mem_of_find?_eq_some last
  have own := List.find?_some last
  exact ⟨List.mem_reverse.mp member, eq_of_beq own⟩

theorem lastOf_none (checks : List Check) (id : Int) (last : lastOf checks id = none) :
    ∀ check ∈ checks, check.id ≠ id := by
  intro check member own
  have missing := List.find?_eq_none.mp last check (List.mem_reverse.mpr member)
  simp [own] at missing

/-- The last check of an id decides about its worker. -/
theorem fold_last (now : Span) (checks : List Check) (r : Reconciliation)
    (whole : r.broken = false) (live : r.schedule.Live)
    (readable : ∀ check ∈ checks, check.period? ≠ none)
    (finite : ∀ check ∈ checks, check.isFinite) (id : Int) (check : Check)
    (last : lastOf checks id = some check) :
    (check.accepted = true → ∃ scheduled,
        (checks.foldl (assign now) r).schedule.find? id = some scheduled ∧
          (scheduled.definition == check) = true) ∧
      (check.accepted = false → (checks.foldl (assign now) r).schedule.find? id = none) := by
  induction checks generalizing r with
  | nil => simp [lastOf] at last
  | cons head rest ih =>
      have headReadable := readable head (by simp)
      have restReadable : ∀ other ∈ rest, other.period? ≠ none :=
        fun other member => readable other (by simp [member])
      have nextWhole := assign_whole now r whole head headReadable
      have nextLive := assign_live now r whole live head headReadable
      rw [lastOf_cons] at last
      rw [List.foldl_cons]
      cases restLast : lastOf rest id with
      | some found =>
          rw [restLast, Option.some_or] at last
          rw [Option.some.inj last] at restLast
          exact ih (r.assign now head) nextWhole nextLive restReadable
            (fun other member => finite other (by simp [member])) restLast
      | none =>
          have fresh := lastOf_none rest id restLast
          rw [fold_untouched now rest (r.assign now head) nextWhole nextLive restReadable id
            fun other member own => absurd own (fresh other member)]
          rw [restLast, Option.none_or] at last
          split at last
          · rename_i own
            have headEq : head = check := Option.some.inj last
            subst headEq
            subst own
            constructor
            · intro accepted
              obtain ⟨period, after⟩ := assign_find?_accepted now r whole live head accepted
              exact ⟨_, after, brought_definition now head (finite head (by simp)) period _⟩
            · exact assign_find?_refused now r whole head headReadable
          · simp at last

theorem noted_cons (noted : Check → Bool) (check : Check) (rest : List Check) :
    (if noted check then [check.id] else []) ++ (rest.filter noted).map (·.id) =
      ((check :: rest).filter noted).map (·.id) := by
  rw [List.filter_cons]
  split <;> rfl

/-- With distinct ids every check finds the worker that it would have found first, and
the report says for each what became of it. -/
theorem fold_report (now : Span) (checks : List Check) (r : Reconciliation)
    (whole : r.broken = false) (live : r.schedule.Live)
    (readable : ∀ check ∈ checks, check.period? ≠ none)
    (distinct : (checks.map (·.id)).Nodup) :
    (checks.foldl (assign now) r).report =
      ⟨r.report.started ++ (checks.filter r.schedule.starts).map (·.id),
        r.report.updated ++ (checks.filter r.schedule.updates).map (·.id),
        r.report.stopped ++ (checks.filter r.schedule.stops).map (·.id),
        r.report.rejected ++ (checks.filter (·.refused)).map (·.id)⟩ := by
  induction checks generalizing r with
  | nil => simp
  | cons head rest ih =>
      have headReadable := readable head (by simp)
      obtain ⟨fresh, restDistinct⟩ := List.nodup_cons.mp distinct
      have sameFind : ∀ other ∈ rest,
          (r.assign now head).schedule.find? other.id = r.schedule.find? other.id := by
        intro other member
        apply assign_find?_other now r live head
        intro own
        exact fresh (List.mem_map.mpr ⟨other, member, own⟩)
      obtain ⟨sameStarts, sameUpdates, sameStops⟩ :=
        Schedule.filters_congr r.schedule (r.assign now head).schedule rest sameFind
      rw [List.foldl_cons, ih (r.assign now head) (assign_whole now r whole head headReadable)
        (assign_live now r whole live head headReadable)
        (fun other member => readable other (by simp [member])) restDistinct,
        assign_report now r whole live head headReadable, sameStarts, sameUpdates, sameStops]
      simp only [List.append_assoc, noted_cons]

/-! ## Workers of checks that are gone -/

theorem forget_find? (r : Reconciliation) (id other : Int) :
    (r.forget id).schedule.find? other =
      if other = id then none else r.schedule.find? other :=
  stop_find? r id other

theorem forgetAll_find? (gone : List Int) (r : Reconciliation) (id : Int) :
    (gone.foldl forget r).schedule.find? id =
      if id ∈ gone then none else r.schedule.find? id := by
  induction gone generalizing r with
  | nil => simp
  | cons first rest ih =>
      rw [List.foldl_cons, ih, forget_find?]
      by_cases here : id = first
      · simp [here]
      · simp [here]

theorem forgetAll_live (gone : List Int) (r : Reconciliation) (live : r.schedule.Live) :
    (gone.foldl forget r).schedule.Live := by
  induction gone generalizing r with
  | nil => exact live
  | cons first rest ih => exact ih (r.forget first) (forget_live r first live)

theorem forgetAll_broken (gone : List Int) (r : Reconciliation) :
    (gone.foldl forget r).broken = r.broken := by
  induction gone generalizing r with
  | nil => rfl
  | cons first rest ih => exact (ih (r.forget first)).trans (stop_broken r first)

theorem forgetAll_report (gone : List Int) (r : Reconciliation) (distinct : gone.Nodup)
    (present : ∀ id ∈ gone, (r.schedule.find? id).isSome = true) :
    (gone.foldl forget r).report = { r.report with stopped := r.report.stopped ++ gone } := by
  induction gone generalizing r with
  | nil => simp
  | cons first rest ih =>
      obtain ⟨fresh, restDistinct⟩ := List.nodup_cons.mp distinct
      have restPresent : ∀ id ∈ rest, ((r.forget first).schedule.find? id).isSome = true := by
        intro id member
        have other : id ≠ first := fun same => fresh (same ▸ member)
        rw [forget_find?, if_neg other]
        exact present id (by simp [member])
      have headReport : (r.forget first).report =
          { r.report with stopped := r.report.stopped ++ [first] } := by
        unfold forget stop
        rw [if_pos (present first (by simp))]
      rw [List.foldl_cons, ih (r.forget first) restDistinct restPresent, headReport]
      simp

end Reconciliation

end FleetMonitor
