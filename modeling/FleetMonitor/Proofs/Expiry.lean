import FleetMonitor.Proofs.Independence
import FleetMonitor.Proofs.Reaction
import FleetMonitor.Proofs.Recall

/-!
# Records whose life has ended

The triggers of a check are told of violations whose life has not ended, but the
newest passing record, where they begin to count, may be one whose life has.  So
expired violations do not matter to them, and an expired passing record matters
where it conceals a violation that no other passing record is later than.
-/

set_option autoImplicit false

namespace FleetMonitor

open Routine Surroundings

/-! ## What a trigger finds -/

/-- Where a window begins to count: at its start, or at the newest passing record
if that is later. -/
def Instant.boundedBy (start : Instant) : Option Instant → Instant
  | some good => good.later start
  | none => start

theorem Escalation.bound?_eq_boundedBy (lastGood : Option Instant) (now : Instant)
    (trigger : Trigger) :
    bound? lastGood now trigger =
      (trigger.windowStart? now).map fun start => start.boundedBy lastGood := by
  rw [bound?_eq]
  cases lastGood <;> rfl

theorem Instant.not_lt_iff (a b : Instant) : ¬ a < b ↔ b ≤ a :=
  Int.not_lt

namespace Store

variable (store : Store) (now : Instant) (check : Check)

def keeping (keeps : CycleRecord → Bool) : Store → Store
  | memory store => memory { store with records := store.records.filter keeps }
  | file store => file { store with records := store.records.filter keeps }

/-- The life of a record has not ended, as the store keeps time. -/
def retains (record : CycleRecord) : Bool :=
  record.retained (store.timeOf now)

def passesOf : List CycleRecord :=
  (store.written check.clusterId check.id).filter fun record => !record.failing

/-- The record is a violation in a window, its life has not ended, and it is later
than each of some passing records. -/
def countsAfter (passes : List CycleRecord) (start : Instant) (record : CycleRecord) : Bool :=
  record.violatesAfter (store.timeOf start) (store.timeOf now) &&
    passes.all fun pass => decide (store.timeOf pass.created < record.created)

/-- What a trigger whose window has a start finds: the violations since the
newest passing record that the store tells of. -/
def found (start : Instant) : Except StoreError (List CycleRecord) := do
  let newest ← store.lastGood check.clusterId check.id
  store.violationsSince now check.clusterId check.id (start.boundedBy (newest.map (·.created)))

variable {store now check}

theorem timeOf_later_lt_iff (good start time : Instant) :
    store.timeOf (good.later start) < time ↔
      store.timeOf start < time ∧ store.timeOf good < time := by
  unfold Instant.later
  split
  case isTrue ordered =>
    exact ⟨fun after => ⟨after, Int.lt_of_le_of_lt (store.timeOf_mono ordered) after⟩, And.left⟩
  case isFalse unordered =>
    have ordered := Int.le_of_lt ((Instant.not_le_iff _ _).mp unordered)
    exact ⟨fun after => ⟨Int.lt_of_le_of_lt (store.timeOf_mono ordered) after, after⟩, And.right⟩

theorem lastGood_mem {good : CycleRecord} {clusterId checkId : Int}
    (told : store.lastGood clusterId checkId = .ok (some good)) :
    good ∈ store.written clusterId checkId ∧ good.failing = false := by
  have split : ∀ records : List CycleRecord,
      good ∈ records.filter (MemoryStore.passes clusterId checkId) →
        good ∈ records.filter (·.belongs clusterId checkId) ∧ good.failing = false := by
    intro records member
    obtain ⟨member, passes⟩ := List.mem_filter.mp member
    obtain ⟨own, passing⟩ := (Bool.and_eq_true _ _).mp passes
    exact ⟨List.mem_filter.mpr ⟨member, own⟩, (Bool.not_eq_true' _).mp passing⟩
  cases store with
  | memory store =>
    refine split store.records ?_
    have folded : (store.records.filter (MemoryStore.passes clusterId checkId)).foldl
        MemoryStore.newer none = some good := Except.ok.inj told
    cases passing : store.records.filter (MemoryStore.passes clusterId checkId) with
    | nil =>
      rw [passing] at folded
      cases folded
    | cons first rest =>
      obtain ⟨newest, isNewest, member, -⟩ := MemoryStore.foldl_newer rest first
      rw [passing] at folded
      obtain rfl := Option.some.inj (isNewest.symm.trans folded)
      exact member
  | file store =>
    refine split store.records ?_
    simp only [lastGood, FileStore.lastGood, FileStore.whenOpen] at told
    split at told
    · have newest := List.mem_of_head? (Except.ok.inj told)
      exact List.mem_mergeSort.mp newest
    · cases told

theorem after_newest_iff {newest : Option CycleRecord}
    (told : store.lastGood check.clusterId check.id = .ok newest) (time : Instant) :
    (∀ good, newest = some good → store.timeOf good.created < time) ↔
      ∀ pass ∈ store.passesOf check, store.timeOf pass.created < time := by
  constructor
  · intro after pass isPass
    obtain ⟨member, passing⟩ := List.mem_filter.mp isPass
    obtain ⟨good, isNewest, ordered⟩ := store.lastGood_newest _ _ newest told pass member
      ((Bool.not_eq_true' _).mp passing)
    exact Int.lt_of_le_of_lt (store.timeOf_mono ordered) (after good isNewest)
  · rintro after good rfl
    obtain ⟨member, passing⟩ := lastGood_mem told
    exact after good (List.mem_filter.mpr ⟨member, (Bool.not_eq_true' _).mpr passing⟩)

theorem violationsSince_ok {bound : Instant} (opened : store.isOpen = true)
    (clusterId checkId : Int) :
    store.violationsSince now clusterId checkId bound =
      .ok (CycleRecord.newestFirst ((store.written clusterId checkId).filter fun record =>
        record.violatesAfter (store.timeOf bound) (store.timeOf now))) := by
  cases store with
  | memory store =>
    simp only [violationsSince, MemoryStore.violationsSince, written, timeOf, List.filter_filter,
      Bool.and_comm]
  | file store =>
    simp only [violationsSince, FileStore.violationsSince, FileStore.whenOpen, written, timeOf,
      List.filter_filter, Bool.and_comm]
    exact if_pos opened

theorem found_eq (opened : store.isOpen = true) (start : Instant) :
    store.found now check start =
      .ok (CycleRecord.newestFirst ((store.written check.clusterId check.id).filter
        (store.countsAfter now (store.passesOf check) start))) := by
  obtain ⟨newest, told⟩ := (store.lastGood_told check.clusterId check.id).mpr opened
  have bounded : store.found now check start = store.violationsSince now check.clusterId check.id
      (start.boundedBy (newest.map (·.created))) := by rw [found, told]; rfl
  rw [bounded, violationsSince_ok opened]
  refine congrArg (Except.ok ∘ CycleRecord.newestFirst) (List.filter_congr fun record _ => ?_)
  have after : store.timeOf (start.boundedBy (newest.map (·.created))) < record.created ↔
      store.timeOf start < record.created ∧
        ∀ pass ∈ store.passesOf check, store.timeOf pass.created < record.created := by
    rw [← after_newest_iff told]
    cases newest with
    | none => simp [Instant.boundedBy]
    | some good => simp [Instant.boundedBy, timeOf_later_lt_iff]
  rw [Bool.eq_iff_iff]
  simp only [countsAfter, CycleRecord.violatesAfter, Bool.and_eq_true, decide_eq_true_eq,
    List.all_eq_true, after]
  tauto

/-! ## What a trigger finds of fewer records -/

@[simp] theorem isOpen_keeping (keeps : CycleRecord → Bool) :
    (store.keeping keeps).isOpen = store.isOpen := by
  cases store <;> rfl

@[simp] theorem timeOf_keeping (keeps : CycleRecord → Bool) :
    (store.keeping keeps).timeOf = store.timeOf := by
  cases store <;> rfl

@[simp] theorem written_keeping (keeps : CycleRecord → Bool) (clusterId checkId : Int) :
    (store.keeping keeps).written clusterId checkId =
      (store.written clusterId checkId).filter keeps := by
  cases store <;> simp [keeping, written, List.filter_filter, Bool.and_comm]

theorem passesOf_keeping (keeps : CycleRecord → Bool) :
    (store.keeping keeps).passesOf check = (store.passesOf check).filter keeps := by
  simp only [passesOf, written_keeping, List.filter_filter, Bool.and_comm]

/-- A store without some records tells of the newest passing record if it did so
with them, and fails as it did. -/
theorem lastGood_keeping (keeps : CycleRecord → Bool) (clusterId checkId : Int) :
    ∃ newest, (store.keeping keeps).lastGood clusterId checkId =
      (store.lastGood clusterId checkId).map fun _ => newest := by
  cases store with
  | memory store => exact ⟨_, rfl⟩
  | file store =>
    simp only [keeping, lastGood, FileStore.lastGood, FileStore.whenOpen]
    split
    · exact ⟨_, rfl⟩
    · exact ⟨none, rfl⟩

theorem retained_of_countsAfter {passes : List CycleRecord} {start : Instant}
    {record : CycleRecord} (counts : store.countsAfter now passes start record = true) :
    record.failing = true ∧ store.retains now record = true := by
  simp only [countsAfter, CycleRecord.violatesAfter, Bool.and_eq_true] at counts
  exact ⟨counts.1.1.1, counts.1.2⟩

/-- Without some records, but with all violations whose life has not ended, a
trigger finds what counts after those passing records that are left. -/
theorem found_keeping (opened : store.isOpen = true) (keeps : CycleRecord → Bool)
    (keepsLive : ∀ record, record.failing = true → store.retains now record = true →
      keeps record = true) (start : Instant) :
    (store.keeping keeps).found now check start =
      .ok (CycleRecord.newestFirst ((store.written check.clusterId check.id).filter
        (store.countsAfter now ((store.passesOf check).filter keeps) start))) := by
  have alike : (store.keeping keeps).countsAfter now ((store.keeping keeps).passesOf check) start =
      store.countsAfter now ((store.passesOf check).filter keeps) start := by
    funext record
    simp only [countsAfter, timeOf_keeping, passesOf_keeping]
  rw [found_eq (by rwa [isOpen_keeping]), alike, written_keeping, filter_own]
  intro record counts
  obtain ⟨failing, live⟩ := retained_of_countsAfter counts
  exact keepsLive record failing live

variable (store now check)

def withoutExpiredViolations : Store :=
  store.keeping fun record => !record.failing || store.retains now record

def withoutExpired : Store :=
  store.keeping (store.retains now)

/-- The violations in a window that count after the passing records whose life has
not ended, but not after all that have passed. -/
def concealed (start : Instant) : List CycleRecord :=
  (store.written check.clusterId check.id).filter fun record =>
    store.countsAfter now ((store.passesOf check).filter (store.retains now)) start record &&
      !store.countsAfter now (store.passesOf check) start record

variable {store now check}

theorem found_withoutExpiredViolations (opened : store.isOpen = true) (start : Instant) :
    (store.withoutExpiredViolations now).found now check start = store.found now check start := by
  have passesStay : (store.passesOf check).filter
      (fun record => !record.failing || store.retains now record) = store.passesOf check := by
    refine List.filter_eq_self.mpr fun pass isPass => ?_
    rw [(List.mem_filter.mp isPass).2, Bool.true_or]
  rw [withoutExpiredViolations, found_keeping opened _ ?keepsLive, passesStay, found_eq opened]
  case keepsLive => exact fun record _ live => by rw [live, Bool.or_true]

theorem countsAfter_of_sublist {passes fewer : List CycleRecord} (sublist : fewer.Sublist passes)
    {start : Instant} {record : CycleRecord}
    (counts : store.countsAfter now passes start record = true) :
    store.countsAfter now fewer start record = true := by
  obtain ⟨violates, after⟩ := (Bool.and_eq_true _ _).mp counts
  refine (Bool.and_eq_true _ _).mpr ⟨violates, List.all_eq_true.mpr fun pass isPass => ?_⟩
  exact List.all_eq_true.mp after pass (sublist.subset isPass)

variable (now check) in
theorem found_withoutExpired (opened : store.isOpen = true) (start : Instant) :
    ∃ told all, store.found now check start = .ok told ∧
      (store.withoutExpired now).found now check start = .ok all ∧
      all.Perm (told ++ store.concealed now check start) ∧
      (store.concealed now check start = [] → all = told) := by
  let records := store.written check.clusterId check.id
  let counts := store.countsAfter now (store.passesOf check) start
  let countsLive := store.countsAfter now ((store.passesOf check).filter (store.retains now)) start
  refine ⟨CycleRecord.newestFirst (records.filter counts),
    CycleRecord.newestFirst (records.filter countsLive), found_eq opened start,
    found_keeping opened _ (fun _ _ live => live) start, ?_, ?_⟩
  · have both : ∀ record, (counts record && countsLive record) = counts record := by
      intro record
      cases isCounted : counts record with
      | false => exact Bool.false_and _
      | true => exact countsAfter_of_sublist List.filter_sublist isCounted
    have others : (records.filter countsLive).filter (fun record => !counts record) =
        store.concealed now check start := by
      rw [List.filter_filter]
      exact List.filter_congr fun record _ => Bool.and_comm _ _
    calc CycleRecord.newestFirst (records.filter countsLive)
        |>.Perm (records.filter countsLive) := List.mergeSort_perm _ _
      _ |>.Perm ((records.filter countsLive).filter counts ++
            (records.filter countsLive).filter fun record => !counts record) :=
          (List.filter_append_perm counts _).symm
      _ = records.filter counts ++ store.concealed now check start := by
          rw [others, List.filter_filter]
          simp only [both]
      _ |>.Perm (CycleRecord.newestFirst (records.filter counts) ++
            store.concealed now check start) :=
          (List.mergeSort_perm _ _).symm.append_right _
  · intro noneConcealed
    refine congrArg CycleRecord.newestFirst (List.filter_congr fun record isWritten => ?_)
    rw [Bool.eq_iff_iff]
    refine ⟨fun isCounted => ?_, countsAfter_of_sublist List.filter_sublist⟩
    have notConcealed := List.filter_eq_nil_iff.mp noneConcealed record isWritten
    rw [Bool.and_eq_true, not_and, Bool.not_eq_true, Bool.not_eq_false'] at notConcealed
    exact notConcealed isCounted

theorem mem_concealed {start : Instant} {record : CycleRecord} :
    record ∈ store.concealed now check start ↔
      record ∈ store.written check.clusterId check.id ∧
        record.violatesAfter (store.timeOf start) (store.timeOf now) = true ∧
          (∀ pass ∈ store.passesOf check, store.retains now pass = true →
            store.timeOf pass.created < record.created) ∧
          ∃ pass ∈ store.passesOf check, store.retains now pass = false ∧
            record.created ≤ store.timeOf pass.created := by
  simp only [concealed, countsAfter, List.mem_filter, Bool.and_eq_true, Bool.not_eq_true',
    Bool.and_eq_false_iff, List.all_eq_true, List.all_eq_false, decide_eq_true_eq,
    Instant.not_lt_iff]
  refine and_congr_right fun _ => ⟨?_, ?_⟩
  · rintro ⟨⟨violates, after⟩, violatesNot | ⟨pass, isPass, before⟩⟩
    · exact absurd violates (by simp [violatesNot])
    · refine ⟨violates, fun live isLive retained => after live ⟨isLive, retained⟩, pass, isPass, ?_,
        before⟩
      refine (Bool.not_eq_true _).mp fun retained => ?_
      exact (Instant.not_le_iff _ _).mpr (after pass ⟨isPass, retained⟩) before
  · rintro ⟨violates, after, pass, isPass, -, before⟩
    exact ⟨⟨violates, fun live isLive => after live isLive.1 isLive.2⟩, .inr ⟨pass, isPass, before⟩⟩

theorem timeOf_le (time : Instant) : store.timeOf time ≤ time := by
  cases store with
  | memory store => exact Int.le_refl _
  | file store => exact time.floorMilli_le

/-- The passing records of a check live at least as long as the records before
them. -/
def PassesOutlive (store : Store) (check : Check) : Prop :=
  ∀ record ∈ store.written check.clusterId check.id, ∀ pass ∈ store.passesOf check,
    record.created ≤ pass.created → record.expires ≤ pass.expires

theorem concealed_eq_nil (outlive : store.PassesOutlive check) (start : Instant) :
    store.concealed now check start = [] := by
  refine List.eq_nil_iff_forall_not_mem.mpr fun record isConcealed => ?_
  obtain ⟨isWritten, violates, -, pass, isPass, expired, before⟩ := mem_concealed.mp isConcealed
  have alive : store.timeOf now < record.expires :=
    of_decide_eq_true ((Bool.and_eq_true _ _).mp violates).2
  have longer : record.expires ≤ pass.expires :=
    outlive record isWritten pass isPass (Int.le_trans before (store.timeOf_le _))
  exact of_decide_eq_false expired (Int.lt_of_lt_of_le alive longer)

end Store

/-! ## What the triggers make of it -/

namespace Routine

variable {α β : Type}

/-- One routine does over a store what another does over that of the surroundings:
it comes to the same, leaves the same but the store, and hands over the same
messages. -/
def RunsAlike (other : Store) (s : Surroundings) (first second : Routine α) : Prop :=
  second.runIn { s with store := other } =
      ((first.runIn s).1, { (first.runIn s).2 with store := other }) ∧
    (second.logOf answer { s with store := other }).filter Exchange.isMessage =
      (first.logOf answer s).filter Exchange.isMessage

variable {other : Store} {s : Surroundings} {first second : Routine α}

theorem RunsAlike.bind {next goesOn : α → Routine β} (alike : RunsAlike other s first second)
    (onward : ∀ value later, first.runIn s = (some value, later) →
      RunsAlike other later (next value) (goesOn value)) :
    RunsAlike other s (first >>= next) (second >>= goesOn) := by
  obtain ⟨ran, sent⟩ := alike
  cases result : first.runIn s with
  | mk outcome later =>
    rw [result] at ran
    unfold RunsAlike
    rw [logOf_bind, logOf_bind, List.filter_append, List.filter_append, sent]
    rw [show first.run answer s = _ from result, show second.run answer _ = _ from ran]
    cases outcome with
    | none =>
      refine ⟨?_, rfl⟩
      rw [show (first >>= next).runIn s = _ from run_bind_none answer first next s later result]
      exact run_bind_none answer second goesOn _ _ ran
    | some value =>
      obtain ⟨goesAlike, sentAlike⟩ := onward value later result
      refine ⟨?_, congrArg _ sentAlike⟩
      rw [show (first >>= next).runIn s = _ from
        run_bind_some answer first next s later value result]
      exact (run_bind_some answer second goesOn _ _ value ran).trans goesAlike

theorem RunsAlike.asking {asks asksToo : Request} {next : asks.Answer → Routine α}
    {goesOn : asksToo.Answer → Routine α} {told : asks.Answer} {toldToo : asksToo.Answer}
    (answered : answer asks s = (told, s))
    (answeredToo : answer asksToo { s with store := other } = (toldToo, { s with store := other }))
    (silent : asks.isMessage = false) (silentToo : asksToo.isMessage = false)
    (onward : RunsAlike other s (next told) (goesOn toldToo)) :
    RunsAlike other s (.ask asks next) (.ask asksToo goesOn) := by
  obtain ⟨ran, sent⟩ := onward
  constructor
  · change (goesOn (answer asksToo { s with store := other }).1).run answer
      (answer asksToo { s with store := other }).2 =
        (((next (answer asks s).1).run answer (answer asks s).2).1,
          { ((next (answer asks s).1).run answer (answer asks s).2).2 with store := other })
    rw [answered, answeredToo]
    exact ran
  · simp only [logOf, answered, answeredToo, List.filter_cons, Exchange.isMessage, silent,
      silentToo]
    exact sent

theorem Asks.runsAlike {check : Check} {triggerId : Int} {routine : Routine α}
    (asks : Asks (Request.OfAction check triggerId) routine) (other : Store) (s : Surroundings) :
    RunsAlike other s routine routine := by
  induction asks generalizing s with
  | done value => exact ⟨rfl, rfl⟩
  | broken => exact ⟨rfl, rfl⟩
  | ask request next own _ ih =>
    have apart : answer request { s with store := other } =
        ((answer request s).1, { (answer request s).2 with store := other }) := by
      cases request with
      | incidentKey | holdKey | dropKey | page => rfl
      | mail mail =>
        simp only [answer, takeMail]
        split <;> rfl
      | _ => exact own.elim
    obtain ⟨ran, sent⟩ := ih (answer request s).1 (answer request s).2
    constructor
    · change (next (answer request { s with store := other }).1).run answer
        (answer request { s with store := other }).2 = _
      rw [apart]
      exact ran
    · change (⟨request, (answer request { s with store := other }).1⟩ ::
        (next (answer request { s with store := other }).1).logOf answer
          (answer request { s with store := other }).2).filter Exchange.isMessage = _
      rw [apart]
      simp only [logOf, List.filter_cons, sent]

theorem runIn_now (routine : Routine α) (s : Surroundings) :
    (routine.runIn s).2.now = s.now := by
  induction routine generalizing s with
  | done value => rfl
  | broken => rfl
  | ask request next ih => exact (ih _ _).trans (answer_now request s)

end Routine

namespace Escalation

variable {dispatcher : Dispatcher} {check : Check} {s : Surroundings} {other : Store}
  {first second : Option Instant} {now : Instant}

def ToldAlike (check : Check) (s : Surroundings) (other : Store) (first second : Option Instant)
    (start : Instant) : Prop :=
  other.violationsSince s.now check.clusterId check.id (start.boundedBy second) =
    s.store.violationsSince s.now check.clusterId check.id (start.boundedBy first)

theorem runTrigger_alike {trigger : Trigger}
    (told : ∀ start, trigger.windowStart? now = some start →
      ToldAlike check s other first second start) :
    RunsAlike other s (runTrigger dispatcher check first now trigger)
      (runTrigger dispatcher check second now trigger) := by
  cases window : trigger.windowStart? now with
  | none =>
    rw [runTrigger_eq_broken _ _ window, runTrigger_eq_broken _ _ window]
    exact ⟨rfl, rfl⟩
  | some start =>
    have bounded : ∀ lastGood, bound? lastGood now trigger = some (start.boundedBy lastGood) :=
      fun lastGood => by rw [bound?_eq_boundedBy, window, Option.map_some]
    rw [runTrigger_eq _ _ (bounded first), runTrigger_eq _ _ (bounded second)]
    have same : ({ s with store := other } : Surroundings).guarded .violationsSince
        (other.violationsSince s.now check.clusterId check.id (start.boundedBy second)) =
      s.guarded .violationsSince
        (s.store.violationsSince s.now check.clusterId check.id (start.boundedBy first)) :=
      congrArg (s.guarded .violationsSince) (told start window)
    refine .asking rfl rfl rfl rfl ?_
    rw [same]
    exact (heed_ofAction dispatcher check trigger _).runsAlike other s

theorem runAll_alike (triggers : List Trigger) (delivered : Nat)
    (told : ∀ trigger ∈ triggers, ∀ start, trigger.windowStart? now = some start →
      ToldAlike check s other first second start) :
    RunsAlike other s (runAll dispatcher check first now triggers delivered)
      (runAll dispatcher check second now triggers delivered) := by
  induction triggers generalizing delivered s with
  | nil => exact ⟨rfl, rfl⟩
  | cons trigger rest ih =>
    obtain ⟨toldFirst, toldRest⟩ := List.forall_mem_cons.mp told
    refine (runTrigger_alike toldFirst).bind fun result later ran => ?_
    cases result with
    | error cause => exact ⟨rfl, rfl⟩
    | ok sent =>
      refine ih _ fun next isLater start window => ?_
      -- The turn of a trigger leaves store and clock to those after it.
      have store := ((runTrigger_quiet dispatcher check first now trigger).ground s).store
      have clock := (runTrigger dispatcher check first now trigger).runIn_now s
      rw [ran] at store clock
      unfold ToldAlike
      rw [store, clock]
      exact toldRest next isLater start window

/-- Over another store the triggers of a check come to the same, hand over the same
messages and leave the same keys. -/
structure ComeAlike (dispatcher : Dispatcher) (check : Check) (s : Surroundings)
    (other : Store) : Prop where
  outcome : outcome dispatcher check { s with store := other } = outcome dispatcher check s
  messages : messages dispatcher check { s with store := other } = messages dispatcher check s
  keys : (aftermath dispatcher check { s with store := other }).keys =
    (aftermath dispatcher check s).keys

theorem ComeAlike.of_runsAlike
    (alike : RunsAlike other s (runTriggers dispatcher check) (runTriggers dispatcher check)) :
    ComeAlike dispatcher check s other := by
  obtain ⟨ran, sent⟩ := alike
  exact ⟨(congrArg (·.1) ran).trans rfl, sent, (congrArg (·.2.keys) ran).trans rfl⟩

/-- The triggers of a check come to the same without some records if each of them
finds the same. -/
theorem comeAlike_of_found (keeps : CycleRecord → Bool)
    (finds : ∀ trigger ∈ check.triggers, ∀ start, trigger.windowStart? s.now = some start →
      s.store.isOpen = true →
        (s.store.keeping keeps).found s.now check start = s.store.found s.now check start) :
    ComeAlike dispatcher check s (s.store.keeping keeps) := by
  apply ComeAlike.of_runsAlike
  by_cases idle : (check.silenced || check.triggers.isEmpty) = true
  · unfold runTriggers
    rw [if_pos idle]
    exact ⟨rfl, rfl⟩
  simp only [Bool.or_eq_true, List.isEmpty_iff, not_or, Bool.not_eq_true] at idle
  obtain ⟨loud, listed⟩ := idle
  obtain ⟨kept, keptTold⟩ := s.store.lastGood_keeping keeps check.clusterId check.id
  rw [runTriggers_eq dispatcher check loud listed]
  refine .asking rfl rfl rfl rfl ?_
  change RunsAlike _ s (heedLastGood dispatcher check (s.guarded .lastGood
      (s.store.lastGood check.clusterId check.id)))
    (heedLastGood dispatcher check (s.guarded .lastGood
      ((s.store.keeping keeps).lastGood check.clusterId check.id)))
  rw [keptTold]
  unfold guarded
  split
  · exact ⟨rfl, rfl⟩
  cases told : s.store.lastGood check.clusterId check.id with
  | error cause => exact ⟨rfl, rfl⟩
  | ok newest =>
    refine .asking rfl rfl rfl rfl (runAll_alike check.triggers 0 ?_)
    intro trigger isListed start window
    have opened := (s.store.lastGood_told check.clusterId check.id).mp ⟨newest, told⟩
    have same := finds trigger isListed start window opened
    unfold Store.found at same
    rw [keptTold, told] at same
    exact same

/-- The triggers of a check come to the same without the violations whose life has
ended.  They come to the same without any record whose life has ended if no
violation in their windows is concealed by an expired passing record, as none is
where passing records live as long as those before them.  Of the violations that
count once expired records are gone, a trigger misses those that are concealed and
no others. -/
theorem expired_matter_where_they_conceal (dispatcher : Dispatcher) (check : Check)
    (s : Surroundings) :
    ComeAlike dispatcher check s (s.store.withoutExpiredViolations s.now) ∧
      ((∀ trigger ∈ check.triggers, ∀ start, trigger.windowStart? s.now = some start →
          s.store.concealed s.now check start = []) →
        ComeAlike dispatcher check s (s.store.withoutExpired s.now)) ∧
      (s.store.PassesOutlive check →
        ComeAlike dispatcher check s (s.store.withoutExpired s.now)) ∧
      (s.store.isOpen = true → ∀ start, ∃ told all,
        s.store.found s.now check start = .ok told ∧
          (s.store.withoutExpired s.now).found s.now check start = .ok all ∧
            all.Perm (told ++ s.store.concealed s.now check start)) := by
  have unconcealed : (∀ trigger ∈ check.triggers, ∀ start,
      trigger.windowStart? s.now = some start → s.store.concealed s.now check start = []) →
        ComeAlike dispatcher check s (s.store.withoutExpired s.now) := by
    refine fun noneConcealed => comeAlike_of_found _ fun trigger isListed start window opened => ?_
    obtain ⟨told, all, found, foundAll, -, same⟩ :=
      Store.found_withoutExpired s.now check opened start
    rw [found, ← same (noneConcealed trigger isListed start window)]
    exact foundAll
  refine ⟨?_, unconcealed, fun outlive => ?_, fun opened start => ?_⟩
  · exact comeAlike_of_found _ fun _ _ start _ opened =>
      Store.found_withoutExpiredViolations opened start
  · exact unconcealed fun _ _ start _ => Store.concealed_eq_nil outlive start
  · obtain ⟨told, all, found, foundAll, counted, -⟩ :=
      Store.found_withoutExpired s.now check opened start
    exact ⟨told, all, found, foundAll, counted⟩

def shortLivedPass : List CycleRecord :=
  [⟨1, 1, ⟨1000⟩, true, [], ⟨1000000⟩⟩, ⟨1, 1, ⟨2000⟩, false, [], ⟨4000⟩⟩]

def formerOutage : List CycleRecord :=
  [⟨1, 1, ⟨1000⟩, true, [], ⟨3000⟩⟩, ⟨1, 1, ⟨2000⟩, false, [], ⟨4000⟩⟩,
    ⟨1, 1, ⟨5000⟩, true, [], ⟨1000000⟩⟩]

def remembering (records : List CycleRecord) : Surroundings :=
  { violated with now := ⟨10000⟩, store := .memory { MemoryStore.empty with records } }

def filing (records : List CycleRecord) : Surroundings :=
  { violated with now := ⟨10000⟩, store := .file { FileStore.create "checks.db" with records } }

/-- A former outage whose records expire in their order does not matter. -/
theorem former_outage_is_ignored :
    (remembering formerOutage).store.PassesOutlive pagedCheck ∧
      ComeAlike ⟨[], true, "daemon"⟩ pagedCheck (remembering formerOutage)
        ((remembering formerOutage).store.withoutExpired ⟨10000⟩) ∧
      outcome ⟨[], true, "daemon"⟩ pagedCheck (remembering formerOutage) = some (.ok 1) := by
  have outlive : (remembering formerOutage).store.PassesOutlive pagedCheck := by
    unfold Store.PassesOutlive
    decide +kernel
  obtain ⟨-, -, ignores, -⟩ := expired_matter_where_they_conceal ⟨[], true, "daemon"⟩ pagedCheck
    (remembering formerOutage)
  exact ⟨outlive, ignores outlive, by decide +kernel⟩

/-- A pass whose life has ended keeps a trigger quiet about a violation before it,
in memory as in a file. -/
theorem expired_pass_conceals_violation :
    outcome ⟨[], true, "daemon"⟩ pagedCheck (remembering shortLivedPass) = some (.ok 0) ∧
      outcome ⟨[], true, "daemon"⟩ pagedCheck { remembering shortLivedPass with
        store := (remembering shortLivedPass).store.withoutExpired ⟨10000⟩ } = some (.ok 1) ∧
      outcome ⟨[], true, "daemon"⟩ pagedCheck (filing shortLivedPass) = some (.ok 0) ∧
      outcome ⟨[], true, "daemon"⟩ pagedCheck { filing shortLivedPass with
        store := (filing shortLivedPass).store.withoutExpired ⟨10000⟩ } = some (.ok 1) := by
  decide +kernel

end Escalation

end FleetMonitor
