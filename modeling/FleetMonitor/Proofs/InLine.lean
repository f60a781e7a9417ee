import FleetMonitor.Proofs.Reconciliation

/-!
# Schedules in line with checks

Workers without a check stop first, then the checks are taken one after the other.
With distinct ids the report says exactly what was done, and the same list again
does nothing.
-/

set_option autoImplicit false

namespace FleetMonitor

namespace Schedule

open Reconciliation

def gone (schedule : Schedule) (checks : List Check) : List Int :=
  schedule.ids.filter fun id => !checks.any fun check => check.id == id

theorem mem_gone (schedule : Schedule) (checks : List Check) (id : Int) :
    id ∈ schedule.gone checks ↔ id ∈ schedule.ids ∧ ∀ check ∈ checks, check.id ≠ id := by
  simp [gone]

theorem retire_find? (schedule : Schedule) (keys : IncidentKeys) (checks : List Check)
    (check : Check) (member : check ∈ checks) :
    (schedule.retire keys checks).schedule.find? check.id = schedule.find? check.id := by
  have stays : check.id ∉ schedule.gone checks := by
    intro leaves
    exact ((mem_gone schedule checks check.id).mp leaves).2 check member rfl
  exact (forgetAll_find? (schedule.gone checks) _ check.id).trans (if_neg stays)

theorem retire_find?_none (schedule : Schedule) (keys : IncidentKeys) (checks : List Check)
    (id : Int) (unassigned : ∀ check ∈ checks, check.id ≠ id) :
    (schedule.retire keys checks).schedule.find? id = none := by
  have found := forgetAll_find? (schedule.gone checks)
    ⟨schedule, keys, ⟨[], [], [], []⟩, false⟩ id
  by_cases present : id ∈ schedule.gone checks
  · rw [if_pos present] at found
    exact found
  · rw [if_neg present] at found
    have missing : id ∉ schedule.ids :=
      fun member => present ((mem_gone schedule checks id).mpr ⟨member, unassigned⟩)
    rw [mem_ids, Bool.not_eq_true, Option.isSome_eq_false_iff, Option.isNone_iff_eq_none] at missing
    exact found.trans missing

theorem retire_live (schedule : Schedule) (keys : IncidentKeys) (checks : List Check)
    (live : schedule.Live) : (schedule.retire keys checks).schedule.Live :=
  forgetAll_live (schedule.gone checks) _ live

theorem retire_whole (schedule : Schedule) (keys : IncidentKeys) (checks : List Check) :
    (schedule.retire keys checks).broken = false :=
  forgetAll_broken (schedule.gone checks) _

theorem retire_report (schedule : Schedule) (keys : IncidentKeys) (checks : List Check)
    (kept : schedule.Kept) :
    (schedule.retire keys checks).report = ⟨[], [], schedule.gone checks, []⟩ := by
  refine (forgetAll_report (schedule.gone checks) _ (kept.distinct.filter _) ?_).trans (by simp)
  intro id member
  exact (mem_ids schedule id).mp ((mem_gone schedule checks id).mp member).1

/-! ## Bringing in line -/

theorem apply_report? (schedule : Schedule) (keys : IncidentKeys) (now : Span)
    (checks : List Check) :
    (schedule.apply keys now checks).report? = none ↔ ∃ check ∈ checks, check.period? = none := by
  have broken := fold_broken now checks (schedule.retire keys checks)
  rw [retire_whole] at broken
  rw [report?, apply]
  split
  · rename_i breaks
    simpa using broken.mp breaks
  · rename_i whole
    rw [broken] at whole
    simpa using whole

/-- The report says of every check of distinct ids what became of it, and of every
worker without a check that it stopped. -/
theorem apply_report (schedule : Schedule) (live : schedule.Live) (keys : IncidentKeys)
    (now : Span) (checks : List Check) (readable : ∀ check ∈ checks, check.period? ≠ none)
    (distinct : (checks.map (·.id)).Nodup) :
    (schedule.apply keys now checks).report? =
      some ⟨(checks.filter schedule.starts).map (·.id),
        (checks.filter schedule.updates).map (·.id),
        schedule.gone checks ++ (checks.filter schedule.stops).map (·.id),
        (checks.filter (·.refused)).map (·.id)⟩ := by
  have whole : (schedule.apply keys now checks).broken = false := by
    rw [← Bool.not_eq_true, apply, fold_broken, retire_whole]
    rintro (broken | ⟨check, member, unreadable⟩)
    · simp at broken
    · exact readable check member unreadable
  have sameFind : ∀ check ∈ checks,
      (schedule.retire keys checks).schedule.find? check.id = schedule.find? check.id :=
    fun check member => retire_find? schedule keys checks check member
  have reported := fold_report now checks (schedule.retire keys checks)
    (retire_whole schedule keys checks) (retire_live schedule keys checks live) readable distinct
  obtain ⟨sameStarts, sameUpdates, sameStops⟩ :=
    filters_congr schedule (schedule.retire keys checks).schedule checks sameFind
  rw [sameStarts, sameUpdates, sameStops, retire_report schedule keys checks live.toKept] at reported
  rw [report?, if_neg (by simp [whole]), apply, reported]
  simp

theorem apply_live (schedule : Schedule) (live : schedule.Live) (keys : IncidentKeys)
    (now : Span) (checks : List Check) (readable : ∀ check ∈ checks, check.period? ≠ none) :
    (schedule.apply keys now checks).schedule.Live :=
  fold_live now checks _ (retire_whole schedule keys checks)
    (retire_live schedule keys checks live) readable

/-- The check of an id has a worker that was last given it and will hold it. -/
def Holds (schedule : Schedule) (id : Int) (check : Check) : Prop :=
  ∃ scheduled, schedule.find? id = some scheduled ∧ (scheduled.definition == check) = true ∧
    scheduled.worker.promised = scheduled.definition

/-- The last check of every id decides whether it has a worker, and which definition
that one holds. -/
theorem apply_last (schedule : Schedule) (live : schedule.Live) (keys : IncidentKeys)
    (now : Span) (checks : List Check) (readable : ∀ check ∈ checks, check.period? ≠ none)
    (finite : ∀ check ∈ checks, check.isFinite) (id : Int) :
    (∀ check, lastOf checks id = some check → check.accepted = true →
        (schedule.apply keys now checks).schedule.Holds id check) ∧
      ((∀ check, lastOf checks id = some check → check.accepted = false) →
        (schedule.apply keys now checks).schedule.find? id = none) := by
  have whole := retire_whole schedule keys checks
  have retired := retire_live schedule keys checks live
  have after := apply_live schedule live keys now checks readable
  constructor
  · intro check last accepted
    obtain ⟨scheduled, found, same⟩ :=
      (fold_last now checks _ whole retired readable finite id check last).1 accepted
    exact ⟨scheduled, found, same, after.promised_of_find? _ id scheduled found⟩
  · intro refused
    cases last : lastOf checks id with
    | some check =>
        exact (fold_last now checks _ whole retired readable finite id check last).2
          (refused check last)
    | none =>
        have unassigned := lastOf_none checks id last
        have untouched := fold_untouched now checks _ whole retired readable id
          fun check member own => absurd own (unassigned check member)
        exact untouched.trans (retire_find?_none schedule keys checks id unassigned)

theorem lastOf_of_distinct (checks : List Check) (distinct : (checks.map (·.id)).Nodup)
    (check : Check) (member : check ∈ checks) : lastOf checks check.id = some check := by
  cases last : lastOf checks check.id with
  | none => exact absurd rfl (lastOf_none checks check.id last check member)
  | some found =>
      obtain ⟨foundMem, sameId⟩ := lastOf_mem checks check.id found last
      rw [List.inj_on_of_nodup_map distinct foundMem member sameId]

/-- A schedule that was brought in line with checks of distinct ids, and the report of
what was done to it. -/
structure InLine (before : Schedule) (checks : List Check) (after : Schedule)
    (report : ScheduleReport) : Prop where
  distinct : after.ids.Nodup
  workers : ∀ id, id ∈ after.ids ↔ ∃ check ∈ checks, check.id = id ∧ check.accepted = true
  definitions : ∀ check ∈ checks, check.accepted = true → after.Holds check.id check
  untouched : ∀ check ∈ checks, check.accepted = true →
    ∀ scheduled, before.find? check.id = some scheduled →
      (scheduled.definition == check) = true → after.find? check.id = some scheduled
  stopped : report.stopped.Perm
    (before.ids.filter fun id => !checks.any fun check => check.id == id && check.accepted)
  started : report.started = (checks.filter before.starts).map (·.id)
  updated : report.updated = (checks.filter before.updates).map (·.id)
  rejected : report.rejected = (checks.filter (·.refused)).map (·.id)

theorem accepted_or_refused (check : Check) (readable : check.period? ≠ none) :
    check.refused = !check.accepted := by
  unfold Check.refused Check.accepted
  cases period : check.period? with
  | none => exact absurd period readable
  | some read => cases read <;> rfl

theorem stopped_perm (schedule : Schedule) (kept : schedule.Kept) (checks : List Check)
    (readable : ∀ check ∈ checks, check.period? ≠ none)
    (distinct : (checks.map (·.id)).Nodup) :
    (schedule.gone checks ++ (checks.filter schedule.stops).map (·.id)).Perm
      (schedule.ids.filter fun id => !checks.any fun check => check.id == id && check.accepted) := by
  have stoppedDistinct : ((checks.filter schedule.stops).map (·.id)).Nodup :=
    distinct.sublist (List.filter_sublist.map _)
  have leftDistinct : (schedule.gone checks ++ (checks.filter schedule.stops).map (·.id)).Nodup := by
    rw [List.nodup_append]
    refine ⟨kept.distinct.filter _, stoppedDistinct, ?_⟩
    intro id leaves other stops same
    obtain ⟨check, member, own⟩ := List.mem_map.mp stops
    exact ((mem_gone schedule checks id).mp leaves).2 check (List.mem_filter.mp member).1
      (own.trans same.symm)
  rw [List.perm_ext_iff_of_nodup leftDistinct (kept.distinct.filter _)]
  intro id
  rw [List.mem_append, mem_gone, List.mem_filter, Bool.not_eq_true', List.any_eq_false]
  constructor
  · rintro (⟨present, unassigned⟩ | stops)
    · exact ⟨present, fun check member => by simp [unassigned check member]⟩
    · obtain ⟨check, member, rfl⟩ := List.mem_map.mp stops
      obtain ⟨inChecks, stops⟩ := List.mem_filter.mp member
      obtain ⟨refused, found⟩ := Bool.and_eq_true_iff.mp stops
      refine ⟨(mem_ids schedule check.id).mpr found, ?_⟩
      intro other otherMem
      by_cases own : other.id = check.id
      · rw [List.inj_on_of_nodup_map distinct otherMem inChecks own]
        rw [accepted_or_refused check (readable check inChecks)] at refused
        simpa using refused
      · simp [own]
  · rintro ⟨present, notAccepted⟩
    by_cases assigned : ∃ check ∈ checks, check.id = id
    · obtain ⟨check, member, rfl⟩ := assigned
      refine Or.inr (List.mem_map.mpr ⟨check, List.mem_filter.mpr ⟨member, ?_⟩, rfl⟩)
      have refused : check.accepted = false := by simpa using notAccepted check member
      rw [stops, accepted_or_refused check (readable check member), refused]
      simpa using (mem_ids schedule check.id).mp present
    · exact Or.inl ⟨present, fun check member own => assigned ⟨check, member, own⟩⟩

theorem apply_inLine (schedule : Schedule) (live : schedule.Live) (keys : IncidentKeys)
    (now : Span) (checks : List Check) (readable : ∀ check ∈ checks, check.period? ≠ none)
    (finite : ∀ check ∈ checks, check.isFinite) (distinct : (checks.map (·.id)).Nodup)
    (report : ScheduleReport)
    (reported : (schedule.apply keys now checks).report? = some report) :
    InLine schedule checks (schedule.apply keys now checks).schedule report := by
  have last := lastOf_of_distinct checks distinct
  have decided := apply_last schedule live keys now checks readable finite
  rw [apply_report schedule live keys now checks readable distinct] at reported
  obtain rfl := Option.some.inj reported
  refine ⟨(apply_live schedule live keys now checks readable).distinct, ?_, ?_, ?_,
    stopped_perm schedule live.toKept checks readable distinct, rfl, rfl, rfl⟩
  · intro id
    rw [mem_ids]
    constructor
    · intro present
      by_contra unassigned
      have missing := (decided id).2 fun check found => by
        obtain ⟨member, own⟩ := lastOf_mem checks id check found
        by_contra accepted
        exact unassigned ⟨check, member, own, by simpa using accepted⟩
      simp [missing] at present
    · rintro ⟨check, member, rfl, accepted⟩
      obtain ⟨scheduled, found, _⟩ := (decided check.id).1 check (last check member) accepted
      simp [found]
  · intro check member accepted
    exact (decided check.id).1 check (last check member) accepted
  · intro check member accepted scheduled found same
    have retired := retire_find? schedule keys checks check member
    refine (fold_untouched now checks _ (retire_whole schedule keys checks)
      (retire_live schedule keys checks live) readable check.id ?_).trans (retired.trans found)
    intro other otherMem own
    rw [List.inj_on_of_nodup_map distinct otherMem member own]
    exact ⟨accepted, scheduled, retired.trans found, same⟩

theorem apply_again (schedule : Schedule) (live : schedule.Live) (keys again : IncidentKeys)
    (now later : Span) (checks : List Check)
    (readable : ∀ check ∈ checks, check.period? ≠ none)
    (finite : ∀ check ∈ checks, check.isFinite) (distinct : (checks.map (·.id)).Nodup)
    (report : ScheduleReport)
    (reported : (schedule.apply keys now checks).report? = some report) :
    ((schedule.apply keys now checks).schedule.apply again later checks).report? =
      some ⟨[], [], [], report.rejected⟩ := by
  have after := apply_live schedule live keys now checks readable
  have inLine := apply_inLine schedule live keys now checks readable finite distinct report reported
  have second := apply_report _ after again later checks readable distinct
  rw [second, inLine.rejected]
  have noStarts : checks.filter (schedule.apply keys now checks).schedule.starts = [] := by
    rw [List.filter_eq_nil_iff]
    intro check member starts
    obtain ⟨accepted, missing⟩ := Bool.and_eq_true_iff.mp starts
    obtain ⟨scheduled, found, _⟩ := inLine.definitions check member accepted
    simp [found] at missing
  have noUpdates : checks.filter (schedule.apply keys now checks).schedule.updates = [] := by
    rw [List.filter_eq_nil_iff]
    intro check member updates
    obtain ⟨accepted, differs⟩ := Bool.and_eq_true_iff.mp updates
    obtain ⟨scheduled, found, same, _⟩ := inLine.definitions check member accepted
    simp [found, bne, same] at differs
  have noStops : checks.filter (schedule.apply keys now checks).schedule.stops = [] := by
    rw [List.filter_eq_nil_iff]
    intro check member stops
    obtain ⟨refused, present⟩ := Bool.and_eq_true_iff.mp stops
    obtain ⟨other, otherMem, own, accepted⟩ :=
      (inLine.workers check.id).mp ((mem_ids _ check.id).mpr present)
    rw [List.inj_on_of_nodup_map distinct otherMem member own] at accepted
    rw [accepted_or_refused check (readable check member), accepted] at refused
    simp at refused
  have noneGone : (schedule.apply keys now checks).schedule.gone checks = [] := by
    rw [gone, List.filter_eq_nil_iff]
    intro id present
    obtain ⟨check, member, own, _⟩ := (inLine.workers id).mp present
    simp only [Bool.not_eq_true', Bool.not_eq_false]
    exact List.any_eq_true.mpr ⟨check, member, beq_iff_eq.mpr own⟩
  rw [noStarts, noUpdates, noStops, noneGone]
  rfl

/-- Bringing running workers in line comes to its end unless an interval cannot be read
to its end.  Then, if ids are distinct, the schedule is in line with the checks, the
report is exact, and the same checks again change nothing; and whether they are
distinct or not, the last check of an id decides about its worker. -/
theorem apply_reconciles (schedule : Schedule) (live : schedule.Live) (keys : IncidentKeys)
    (now : Span) (checks : List Check) (finite : ∀ check ∈ checks, check.isFinite) :
    ((schedule.apply keys now checks).report? = none ↔
        ∃ check ∈ checks, check.period? = none) ∧
      ∀ report, (schedule.apply keys now checks).report? = some report →
        ((checks.map (·.id)).Nodup →
            InLine schedule checks (schedule.apply keys now checks).schedule report ∧
              ∀ again later,
                ((schedule.apply keys now checks).schedule.apply again later checks).report? =
                  some ⟨[], [], [], report.rejected⟩) ∧
          (schedule.apply keys now checks).schedule.ids.Nodup ∧
          ∀ id,
            (∀ check, lastOf checks id = some check → check.accepted = true →
                (schedule.apply keys now checks).schedule.Holds id check) ∧
              ((∀ check, lastOf checks id = some check → check.accepted = false) →
                (schedule.apply keys now checks).schedule.find? id = none) := by
  refine ⟨apply_report? schedule keys now checks, fun report reported => ?_⟩
  have readable : ∀ check ∈ checks, check.period? ≠ none := by
    intro check member unreadable
    have breaks := (apply_report? schedule keys now checks).mpr ⟨check, member, unreadable⟩
    rw [breaks] at reported
    simp at reported
  refine ⟨fun distinct => ⟨?_, fun again later => ?_⟩, ?_, ?_⟩
  · exact apply_inLine schedule live keys now checks readable finite distinct report reported
  · exact apply_again schedule live keys again now later checks readable finite distinct report
      reported
  · exact (apply_live schedule live keys now checks readable).distinct
  · exact apply_last schedule live keys now checks readable finite

def loadCheck (id : Int) (interval : String) (threshold : Float) : Check :=
  ⟨id, 1, "load", interval, .list ["a"], [.ofKind (.raw ⟨"load", .greater, threshold, 1⟩)], [],
    false⟩

def twoWorkers : Schedule :=
  ⟨[(1, ⟨loadCheck 1 "1m" 2, .start (loadCheck 1 "1m" 2) ⟨60⟩ ⟨0⟩⟩),
    (2, ⟨loadCheck 2 "1m" 2, .start (loadCheck 2 "1m" 2) ⟨60⟩ ⟨0⟩⟩)]⟩

theorem loadCheck_isFinite (id : Int) (interval : String) (threshold : Float)
    (finite : threshold.isFinite = true) : (loadCheck id interval threshold).isFinite := by
  intro e member
  rw [List.mem_singleton.mp member]
  exact finite

theorem twoWorkers_live : twoWorkers.Live where
  distinct := by decide
  promised entry member _ := by
    simp only [twoWorkers, List.mem_cons, List.not_mem_nil, or_false] at member
    rcases member with rfl | rfl <;> rfl
  running entry member := by
    simp only [twoWorkers, List.mem_cons, List.not_mem_nil, or_false] at member
    rcases member with rfl | rfl <;> exact ⟨rfl, nofun⟩

/-- One worker is told of a new threshold, one starts, and one stops as its interval
is refused. -/
theorem twoWorkers_reconciled :
    twoWorkers.Live ∧
      (twoWorkers.apply .empty ⟨5⟩
          [loadCheck 1 "1m" 3, loadCheck 3 "5m" 2, loadCheck 2 "soon" 2]).report? =
        some ⟨[3], [1], [2], [2]⟩ ∧
      InLine twoWorkers [loadCheck 1 "1m" 3, loadCheck 3 "5m" 2, loadCheck 2 "soon" 2]
        (twoWorkers.apply .empty ⟨5⟩
          [loadCheck 1 "1m" 3, loadCheck 3 "5m" 2, loadCheck 2 "soon" 2]).schedule
        ⟨[3], [1], [2], [2]⟩ := by
  have finite : ∀ check ∈ [loadCheck 1 "1m" 3, loadCheck 3 "5m" 2, loadCheck 2 "soon" 2],
      check.isFinite := by
    intro check member
    simp only [List.mem_cons, List.not_mem_nil, or_false] at member
    rcases member with rfl | rfl | rfl
    · exact loadCheck_isFinite 1 "1m" 3 rfl
    · exact loadCheck_isFinite 3 "5m" 2 rfl
    · exact loadCheck_isFinite 2 "soon" 2 rfl
  have reported : (twoWorkers.apply .empty ⟨5⟩
      [loadCheck 1 "1m" 3, loadCheck 3 "5m" 2, loadCheck 2 "soon" 2]).report? =
        some ⟨[3], [1], [2], [2]⟩ := by rfl
  have settled := (apply_reconciles twoWorkers twoWorkers_live .empty ⟨5⟩
    [loadCheck 1 "1m" 3, loadCheck 3 "5m" 2, loadCheck 2 "soon" 2] finite).2 _ reported
  exact ⟨twoWorkers_live, reported, (settled.1 (by decide)).1⟩

/-- An interval whose parts add up to one nanosecond more than the longest span is not
refused: there is no report, and the check after it gets no worker. -/
theorem endless_interval_unreported :
    (empty.apply .empty ⟨0⟩
        [loadCheck 1 "18446744073709551615s 999999999ns 1ns" 2, loadCheck 2 "1m" 2]).report? =
      none ∧
    (empty.apply .empty ⟨0⟩
        [loadCheck 1 "18446744073709551615s 999999999ns 1ns" 2, loadCheck 2 "1m" 2]).schedule.find?
          2 = none ∧
    (loadCheck 2 "1m" 2).accepted = true := by
  have endless : (loadCheck 1 "18446744073709551615s 999999999ns 1ns" 2).period? = none :=
    Option.isNone_iff_eq_none.mp (by decide +kernel)
  refine ⟨(apply_report? _ _ _ _).mpr ⟨_, by simp, endless⟩, ?_, by rfl⟩
  have broken : (Reconciliation.assign ⟨0⟩ (empty.retire .empty
      [loadCheck 1 "18446744073709551615s 999999999ns 1ns" 2, loadCheck 2 "1m" 2])
        (loadCheck 1 "18446744073709551615s 999999999ns 1ns" 2)).broken = true :=
    (assign_broken _ _ _).mpr (Or.inr endless)
  rw [apply, List.foldl_cons, List.foldl_cons, List.foldl_nil, assign, if_pos broken, assign,
    endless]
  rfl

end Schedule

end FleetMonitor
