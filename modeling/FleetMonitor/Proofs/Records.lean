import FleetMonitor.Proofs.Clocked
import FleetMonitor.Proofs.Escalation
import FleetMonitor.Proofs.Keys

/-!
# Records between other work

While a cycle waits for an answer time goes on, stores fail and work again, hosts and the
pager service change their minds, and other checks write their records.  What stays is
the kind of the store, the records of the check and the keys.
-/

set_option autoImplicit false

namespace FleetMonitor

theorem Instant.floorMilli_mono {a b : Instant} (ordered : a ≤ b) :
    a.floorMilli ≤ b.floorMilli := by
  change Int.fdiv a.micros 1000 * 1000 ≤ Int.fdiv b.micros 1000 * 1000
  have ordered : a.micros ≤ b.micros := ordered
  have := Int.fdiv_eq_ediv_of_nonneg a.micros (b := 1000) (by omega)
  have := Int.fdiv_eq_ediv_of_nonneg b.micros (b := 1000) (by omega)
  omega

theorem Instant.floorMilli_floorMilli (t : Instant) : t.floorMilli.floorMilli = t.floorMilli := by
  change Instant.mk (Int.fdiv (Int.fdiv t.micros 1000 * 1000) 1000 * 1000) = _
  rw [Int.mul_fdiv_cancel _ (by decide)]
  rfl

theorem Instant.floorMilli_le (t : Instant) : t.floorMilli ≤ t := by
  change Int.fdiv t.micros 1000 * 1000 ≤ t.micros
  have := Int.fdiv_eq_ediv_of_nonneg t.micros (b := 1000) (by omega)
  omega

theorem Instant.floorMilli_le_floorMilli_iff (since t : Instant) :
    since.floorMilli ≤ t.floorMilli ↔ since.floorMilli ≤ t := by
  constructor
  · exact fun reached => Int.le_trans reached t.floorMilli_le
  · intro reached
    have := floorMilli_mono reached
    rwa [floorMilli_floorMilli] at this

theorem CycleRecord.newestFirst_head (records : List CycleRecord) (record : CycleRecord)
    (member : record ∈ records) :
    ∃ newest, (newestFirst records).head? = some newest ∧ record.created ≤ newest.created := by
  have sorted : (newestFirst records).Pairwise
      fun a b => decide (b.created ≤ a.created) = true := by
    apply List.pairwise_mergeSort
    · intro a b c first second
      exact decide_eq_true (Int.le_trans (of_decide_eq_true second) (of_decide_eq_true first))
    · intro a b
      rw [Bool.or_eq_true, decide_eq_true_eq, decide_eq_true_eq]
      exact Int.le_total _ _
  have inSorted : record ∈ newestFirst records := List.mem_mergeSort.mpr member
  cases order : newestFirst records with
  | nil =>
      rw [order] at inSorted
      simp at inSorted
  | cons newest rest =>
      rw [order] at inSorted sorted
      refine ⟨newest, rfl, ?_⟩
      rcases List.mem_cons.mp inSorted with rfl | inRest
      · exact Int.le_refl _
      · exact of_decide_eq_true ((List.pairwise_cons.mp sorted).1 record inRest)

namespace Store

def written (clusterId checkId : Int) : Store → List CycleRecord
  | memory store => store.records.filter (·.belongs clusterId checkId)
  | file store => store.records.filter (·.belongs clusterId checkId)

def timeOf : Store → Instant → Instant
  | memory _, time => time
  | file _, time => time.floorMilli

theorem timeOf_mono (store : Store) {a b : Instant} (ordered : a ≤ b) :
    store.timeOf a ≤ store.timeOf b := by
  cases store with
  | memory store => exact ordered
  | file store => exact Instant.floorMilli_mono ordered

theorem timeOf_timeOf (store : Store) (time : Instant) :
    store.timeOf (store.timeOf time) = store.timeOf time := by
  cases store with
  | memory store => rfl
  | file store => exact Instant.floorMilli_floorMilli time

theorem create_written (store later : Store) (now : Instant) (clusterId checkId : Int)
    (failing : Bool) (expressions : List Expression) (seconds : Int) (record : CycleRecord)
    (wrote : store.create now clusterId checkId failing expressions seconds =
      some (.ok (record, later))) :
    later.timeOf = store.timeOf ∧ ∃ row : CycleRecord, row.failing = failing ∧
      row.created = store.timeOf now ∧ row.belongs clusterId checkId = true ∧
        ∀ otherCluster other, later.written otherCluster other =
          store.written otherCluster other ++ [row].filter (·.belongs otherCluster other) := by
  obtain ⟨expires, _, wrote⟩ := Option.map_eq_some_iff.mp wrote
  cases store with
  | memory store =>
      obtain ⟨rfl, rfl⟩ := Prod.mk.inj (Except.ok.inj wrote)
      refine ⟨rfl, _, rfl, rfl, ?_, fun otherCluster other => List.filter_append ..⟩
      simp [CycleRecord.belongs]
  | file store =>
      simp only [addRecord, FileStore.addRecord, FileStore.whenOpen] at wrote
      split at wrote
      · obtain ⟨rfl, rfl⟩ := Prod.mk.inj (Except.ok.inj wrote)
        refine ⟨rfl, FileStore.recordRow _, rfl, rfl, ?_,
          fun otherCluster other => List.filter_append ..⟩
        simp [CycleRecord.belongs, FileStore.recordRow]
      · cases wrote

theorem lastGood_newest (store : Store) (clusterId checkId : Int) (found : Option CycleRecord)
    (told : store.lastGood clusterId checkId = .ok found) (pass : CycleRecord)
    (member : pass ∈ store.written clusterId checkId) (passing : pass.failing = false) :
    ∃ good, found = some good ∧ pass.created ≤ good.created := by
  cases store with
  | memory store =>
      obtain rfl := Except.ok.inj told
      obtain ⟨member, own⟩ := List.mem_filter.mp member
      have isPass : MemoryStore.passes clusterId checkId pass = true := by
        rw [MemoryStore.passes, own, passing]
        rfl
      refine Classical.byContradiction fun noNewer => ?_
      have after := (MemoryStore.after_lastGood_iff store clusterId checkId pass.created).mp
        (fun good found => (Instant.not_le_iff _ _).mp fun newer => noNewer ⟨good, found, newer⟩)
        pass member isPass
      exact Int.lt_irrefl _ after
  | file store =>
      simp only [lastGood, FileStore.lastGood, FileStore.whenOpen] at told
      split at told
      · obtain rfl := Except.ok.inj told
        obtain ⟨member, own⟩ := List.mem_filter.mp member
        refine CycleRecord.newestFirst_head _ pass (List.mem_filter.mpr ⟨member, ?_⟩)
        rw [own, passing]
        rfl
      · cases told

/-- A store finds no violations after a time that none of a check's records is later than. -/
theorem violationsSince_nil (store : Store) (now : Instant) (clusterId checkId : Int)
    (bound : Instant) (found : List CycleRecord)
    (told : store.violationsSince now clusterId checkId bound = .ok found)
    (past : ∀ record ∈ store.written clusterId checkId,
      record.created ≤ store.timeOf bound) : found = [] := by
  have nothingFound : ∀ (records : List CycleRecord) (bound now : Instant),
      (∀ record ∈ records.filter (·.belongs clusterId checkId), record.created ≤ bound) →
        CycleRecord.newestFirst (records.filter fun record =>
          record.belongs clusterId checkId && record.violatesAfter bound now) = [] := by
    intro records bound now past
    have empty : (records.filter fun record =>
        record.belongs clusterId checkId && record.violatesAfter bound now) = [] := by
      refine List.filter_eq_nil_iff.mpr fun record member counts => ?_
      simp only [CycleRecord.violatesAfter, Bool.and_eq_true, decide_eq_true_eq] at counts
      obtain ⟨own, ⟨_, later⟩, _⟩ := counts
      exact absurd (past record (List.mem_filter.mpr ⟨member, own⟩))
        ((Instant.not_le_iff _ _).mpr later)
    rw [empty, CycleRecord.newestFirst, List.mergeSort_nil]
  cases store with
  | memory store =>
      obtain rfl := Except.ok.inj told
      exact nothingFound store.records bound now past
  | file store =>
      simp only [violationsSince, FileStore.violationsSince, FileStore.whenOpen] at told
      split at told
      · obtain rfl := Except.ok.inj told
        exact nothingFound store.records bound.floorMilli now.floorMilli past
      · cases told

end Store

namespace Surroundings

/-- Work of others that leaves a check alone: time goes on, and what stays is the way the
store keeps times, the records of the check, and the keys. -/
structure Meanwhile (check : Check) (s later : Surroundings) : Prop where
  now : s.now ≤ later.now
  timeOf : later.store.timeOf = s.store.timeOf
  written : later.store.written check.clusterId check.id =
    s.store.written check.clusterId check.id
  keys : later.keys = s.keys

theorem Meanwhile.refl (check : Check) (s : Surroundings) : Meanwhile check s s :=
  ⟨Int.le_refl _, rfl, rfl, rfl⟩

def Replies (check : Check) (s : Surroundings) (exchange : Exchange) (later : Surroundings) :
    Prop :=
  ∃ asked, s.Meanwhile check asked ∧ answer exchange.request asked = (exchange.answer, later)

def NoneAfter (check : Check) (time : Instant) (s : Surroundings) : Prop :=
  ∀ record ∈ s.store.written check.clusterId check.id, record.created ≤ s.store.timeOf time

variable {check : Check} {s later : Surroundings} {exchange : Exchange} {time : Instant}

theorem answer_now (request : Request) (s : Surroundings) : (answer request s).2.now = s.now := by
  cases request with
  | create clusterId checkId failing expressions seconds =>
      simp only [answer, create]
      split <;> rfl
  | mail mail =>
      simp only [answer, takeMail]
      split <;> rfl
  | _ => rfl

theorem Replies.responds (replies : s.Replies check exchange later) :
    s.keys.Responds exchange later.keys := by
  obtain ⟨asked, meanwhile, answered⟩ := replies
  have responds := answer_responds exchange.request asked
  rwa [answered, meanwhile.keys] at responds

theorem NoneAfter.meanwhile (past : s.NoneAfter check time) (between : s.Meanwhile check later) :
    later.NoneAfter check time := by
  unfold NoneAfter
  rw [between.written, between.timeOf]
  exact past

theorem NoneAfter.mono (past : s.NoneAfter check time) {other : Instant} (ordered : time ≤ other) :
    s.NoneAfter check other :=
  fun record member => Int.le_trans (past record member) (s.store.timeOf_mono ordered)

theorem Replies.noneAfter (replies : s.Replies check exchange later)
    (harmless : exchange.request.isCreate = false) (past : s.NoneAfter check time) :
    later.NoneAfter check time := by
  obtain ⟨asked, meanwhile, answered⟩ := replies
  have same := (answer_sameGround exchange.request asked harmless).store
  rw [answered] at same
  unfold NoneAfter
  rw [same]
  exact past.meanwhile meanwhile

theorem create_cases (s : Surroundings) (clusterId checkId : Int) (failing : Bool)
    (expressions : List Expression) (seconds : Int) :
    ((s.create clusterId checkId failing expressions seconds).2 = s ∧
      ∀ record, (s.create clusterId checkId failing expressions seconds).1 ≠ some (.ok record)) ∨
    ∃ record store,
      s.create clusterId checkId failing expressions seconds =
          (some (.ok record), { s with store }) ∧
        s.store.create s.now clusterId checkId failing expressions seconds =
          some (.ok (record, store)) := by
  unfold create
  cases made : s.guardedTimely .create
      (s.store.create s.now clusterId checkId failing expressions seconds) with
  | none => exact Or.inl ⟨rfl, nofun⟩
  | some result =>
      cases result with
      | error e => exact Or.inl ⟨rfl, nofun⟩
      | ok wrote =>
          refine Or.inr ⟨wrote.1, wrote.2, rfl, ?_⟩
          unfold guardedTimely at made
          split at made
          · cases made
          · exact made

theorem Replies.settled (replies : s.Replies check exchange later)
    (settled : s.NoneAfter check s.now) : later.NoneAfter check later.now := by
  by_cases harmless : exchange.request.isCreate = false
  · obtain ⟨asked, meanwhile, answered⟩ := id replies
    have onward : s.now ≤ later.now := by
      have same := answer_now exchange.request asked
      rw [answered] at same
      rw [same]
      exact meanwhile.now
    exact (replies.noneAfter harmless settled).mono onward
  · obtain ⟨request, given⟩ := exchange
    cases request with
    | create clusterId checkId failing expressions seconds =>
        obtain ⟨asked, meanwhile, answered⟩ := replies
        -- The new record has the time of its creation, as the store keeps it.
        have former := (settled.meanwhile meanwhile).mono meanwhile.now
        change asked.create clusterId checkId failing expressions seconds = (given, later) at answered
        rcases asked.create_cases clusterId checkId failing expressions seconds with
          ⟨same, _⟩ | ⟨record, store, wrote, made⟩
        · rw [answered] at same
          obtain rfl : later = asked := same
          exact former
        · rw [answered] at wrote
          obtain ⟨_, rfl⟩ := Prod.mk.inj wrote
          obtain ⟨sameTimes, row, _, created, _, written⟩ := asked.store.create_written store _ _ _ _ _ _
            record made
          intro other member
          change other ∈ store.written check.clusterId check.id at member
          change other.created ≤ store.timeOf asked.now
          rw [sameTimes]
          rw [written] at member
          rcases List.mem_append.mp member with old | new
          · exact former other old
          · rw [List.mem_singleton.mp (List.mem_filter.mp new).1, created]
            exact Int.le_refl _
    | _ => exact absurd rfl harmless

theorem Replies.recorded {failing : Bool} {expressions : List Expression} {seconds : Int}
    {record : CycleRecord}
    (replies : s.Replies check
      ⟨.create check.clusterId check.id failing expressions seconds, some (.ok record)⟩ later)
    (settled : s.NoneAfter check s.now) :
    ∃ row ∈ later.store.written check.clusterId check.id, row.failing = failing ∧
      later.NoneAfter check row.created := by
  have now := replies.settled settled
  obtain ⟨asked, _, answered⟩ := replies
  change asked.create _ _ failing expressions seconds = (some (.ok record), later) at answered
  rcases asked.create_cases check.clusterId check.id failing expressions seconds with
    ⟨_, unwritten⟩ | ⟨found, store, wrote, made⟩
  · rw [answered] at unwritten
    exact absurd rfl (unwritten record)
  · rw [answered] at wrote
    obtain ⟨_, rfl⟩ := Prod.mk.inj wrote
    obtain ⟨sameTimes, row, fails, created, own, written⟩ := asked.store.create_written store _ _ _ _ _ _
      found made
    refine ⟨row, ?_, fails, fun other member => ?_⟩
    · change row ∈ store.written check.clusterId check.id
      rw [written]
      exact List.mem_append_right _ (List.mem_filter.mpr ⟨List.mem_singleton.mpr rfl, own⟩)
    · have before : other.created ≤ store.timeOf asked.now := now other member
      change other.created ≤ store.timeOf row.created
      rwa [created, sameTimes, Store.timeOf_timeOf, ← sameTimes]

theorem Replies.lastGood {found : Option CycleRecord}
    (replies : s.Replies check ⟨.lastGood check.clusterId check.id, .ok found⟩ later)
    (pass : CycleRecord) (member : pass ∈ s.store.written check.clusterId check.id)
    (passing : pass.failing = false) (latest : s.NoneAfter check pass.created) :
    ∃ good, found = some good ∧ later.NoneAfter check good.created := by
  have kept := replies.noneAfter rfl latest
  obtain ⟨asked, meanwhile, answered⟩ := replies
  obtain ⟨told, rfl⟩ := Prod.mk.inj answered
  unfold guarded at told
  split at told
  · cases told
  · rw [← meanwhile.written] at member
    obtain ⟨good, same, ordered⟩ := asked.store.lastGood_newest _ _ found told pass member passing
    exact ⟨good, same, kept.mono ordered⟩

theorem Replies.violations {found : List CycleRecord} {bound : Instant}
    (replies : s.Replies check
      ⟨.violationsSince check.clusterId check.id bound, .ok found⟩ later)
    (past : s.NoneAfter check time) (ordered : time ≤ bound) : found = [] := by
  obtain ⟨asked, meanwhile, answered⟩ := replies
  obtain ⟨told, rfl⟩ := Prod.mk.inj answered
  unfold guarded at told
  split at told
  · cases told
  · exact asked.store.violationsSince_nil _ _ _ _ found told
      ((past.meanwhile meanwhile).mono ordered)

end Surroundings

end FleetMonitor
