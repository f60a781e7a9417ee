import FleetMonitor.Proofs.Keys
import FleetMonitor.Store
import Mathlib.Data.List.Basic
import Mathlib.Logic.Function.Basic

/-!
# Days of retention that are set at the same time

A file holds the days of a cluster in one row, and a call that sets those of a table reads the
row, changes it and writes it over whatever the row has become in the meantime.  So a call may
take back what was set for another table of its cluster between its reading and its writing.
A value is told as long as every write of the row goes back to a reading that saw it.
-/

set_option autoImplicit false

namespace FleetMonitor

structure RetentionCall where
  clusterId : Int
  table : String
  days : Nat

namespace RetentionCall

def Sets (call : RetentionCall) (clusterId : Int) (table : String) : Prop :=
  call.clusterId = clusterId ∧ call.table = table

instance (call : RetentionCall) (clusterId : Int) (table : String) :
    Decidable (call.Sets clusterId table) :=
  inferInstanceAs (Decidable (_ ∧ _))

inductive Stage where
  | begun
  | read (all : List (String × Nat))
  | returned
  | failed

inductive Deed where
  | read (call : Nat)
  | wrote (call : Nat)

end RetentionCall

structure Retaining where
  store : Store
  stage : Nat → RetentionCall.Stage
  history : List RetentionCall.Deed

namespace Retaining

open RetentionCall

variable {calls : Nat → RetentionCall} {clusterId : Int} {table : String}

def start (store : Store) : Retaining :=
  ⟨store, fun _ => .begun, []⟩

/-- What one of the calls does next.  In memory it has the store to itself until it has
returned; on a file others may come between its reading and its writing. -/
inductive Step (calls : Nat → RetentionCall) (m : Retaining) : Retaining → Prop
  | once {i : Nat} {store : MemoryStore} (begun : m.stage i = .begun)
      (inMemory : m.store = .memory store) :
      Step calls m
        ⟨.memory (store.setRetention (calls i).clusterId (calls i).table (calls i).days),
          Function.update m.stage i .returned, m.history ++ [.read i] ++ [.wrote i]⟩
  | read {i : Nat} {store : FileStore} {all : List (String × Nat)} (begun : m.stage i = .begun)
      (inFile : m.store = .file store) (told : store.retentionMap (calls i).clusterId = .ok all) :
      Step calls m
        { m with stage := Function.update m.stage i (.read all), history := m.history ++ [.read i] }
  | write {i : Nat} {store later : FileStore} {all : List (String × Nat)}
      (hasRead : m.stage i = .read all) (inFile : m.store = .file store)
      (wrote : store.putRetentionMap (calls i).clusterId
        (FileStore.withDays (calls i).table (calls i).days all) = .ok later) :
      Step calls m
        ⟨.file later, Function.update m.stage i .returned, m.history ++ [.wrote i]⟩
  | fail {i : Nat} (unfinished : m.stage i ≠ .returned) :
      Step calls m { m with stage := Function.update m.stage i .failed }

inductive Path (calls : Nat → RetentionCall) (m : Retaining) : Retaining → Prop
  | start : Path calls m m
  | step {between later : Retaining} (path : Path calls m between)
      (step : Step calls between later) : Path calls m later

theorem Path.of_setRetention {m : Retaining} {i : Nat} {later : Store}
    (begun : m.stage i = .begun)
    (set : m.store.setRetention (calls i).clusterId (calls i).table (calls i).days = .ok later) :
    Path calls m
      ⟨later, Function.update m.stage i .returned, m.history ++ [.read i] ++ [.wrote i]⟩ := by
  cases stored : m.store with
  | memory store =>
      rw [stored] at set
      obtain rfl := Except.ok.inj set
      exact .step .start (.once begun stored)
  | file store =>
      rw [stored] at set
      simp only [Store.setRetention, FileStore.setRetention] at set
      cases told : store.retentionMap (calls i).clusterId with
      | error e =>
          rw [told] at set
          cases set
      | ok all =>
          rw [told] at set
          change (store.putRetentionMap _ _).map Store.file = .ok later at set
          cases wrote : store.putRetentionMap (calls i).clusterId
              (FileStore.withDays (calls i).table (calls i).days all) with
          | error e =>
              rw [wrote] at set
              cases set
          | ok file =>
              rw [wrote] at set
              obtain rfl := Except.ok.inj set
              have reading : Step calls m _ := .read begun stored told
              have writing : Step calls
                  { m with
                    stage := Function.update m.stage i (.read all)
                    history := m.history ++ [.read i] } _ :=
                .write (Function.update_self i _ m.stage) stored wrote
              simp only [Function.update_idem] at writing
              exact .step (.step .start reading) writing

/-! ## What stands in the history -/

/-- What a call set for a table stands after a history: every later write of the row goes
back to a reading after which it stood. -/
inductive Stands (calls : Nat → RetentionCall) (clusterId : Int) (table : String) :
    List Deed → Nat → Prop
  | set {past : List Deed} {i : Nat} (sets : (calls i).Sets clusterId table) :
      Stands calls clusterId table (past ++ [.wrote i]) i
  | read {past : List Deed} {i : Nat} (j : Nat) (stands : Stands calls clusterId table past i) :
      Stands calls clusterId table (past ++ [.read j]) i
  | elsewhere {past : List Deed} {i j : Nat} (other : (calls j).clusterId ≠ clusterId)
      (stands : Stands calls clusterId table past i) :
      Stands calls clusterId table (past ++ [.wrote j]) i
  | carried {past between : List Deed} {i j : Nat} (own : (calls j).clusterId = clusterId)
      (other : (calls j).table ≠ table) (stands : Stands calls clusterId table past i) :
      Stands calls clusterId table (past ++ .read j :: between ++ [.wrote j]) i

/-- A call for another table of the cluster read the row before a call wrote it and wrote it
after that. -/
def Overtaken (calls : Nat → RetentionCall) (history : List Deed) (i : Nat) : Prop :=
  ∃ j, (calls j).clusterId = (calls i).clusterId ∧ (calls j).table ≠ (calls i).table ∧
    [.read j, .wrote i, .wrote j].Sublist history

structure Tells (calls : Nat → RetentionCall) (clusterId : Int) (table : String)
    (before : Option Nat) (history : List Deed) (told : Option Nat) : Prop where
  standing : ∀ i, Stands calls clusterId table history i → told = some (calls i).days
  former : (∀ i, ¬ Stands calls clusterId table history i) → told = before

theorem not_stands_nil (i : Nat) : ¬ Stands calls clusterId table [] i := by
  generalize same : ([] : List Deed) = history
  intro stands
  cases stands <;> simp at same

theorem Stands.wrote {history : List Deed} {i : Nat}
    (stands : Stands calls clusterId table history i) :
    (calls i).Sets clusterId table ∧ .wrote i ∈ history := by
  induction stands with
  | set sets => exact ⟨sets, by simp⟩
  | read j _ ih => exact ⟨ih.1, List.mem_append_left _ ih.2⟩
  | elsewhere other _ ih => exact ⟨ih.1, List.mem_append_left _ ih.2⟩
  | carried own other _ ih =>
      exact ⟨ih.1, List.mem_append_left _ (List.mem_append_left _ ih.2)⟩

theorem stands_read {past : List Deed} {i j : Nat} :
    Stands calls clusterId table (past ++ [.read j]) i ↔ Stands calls clusterId table past i := by
  refine ⟨?_, .read j⟩
  generalize same : past ++ [Deed.read j] = history
  intro stands
  cases stands with
  | read k stands =>
      obtain ⟨rfl, _⟩ := List.append_inj' same rfl
      exact stands
  | _ =>
      obtain ⟨_, last⟩ := List.append_inj' same rfl
      cases last

/-- Of the writes of its row a table notices those of its own and those that go back behind
its last one. -/
theorem stands_wrote {past : List Deed} {i j : Nat} :
    Stands calls clusterId table (past ++ [.wrote j]) i ↔
      ((calls j).Sets clusterId table ∧ i = j) ∨
      ((calls j).clusterId ≠ clusterId ∧ Stands calls clusterId table past i) ∨
      ((calls j).clusterId = clusterId ∧ (calls j).table ≠ table ∧
        ∃ seen between, past = seen ++ .read j :: between ∧
          Stands calls clusterId table seen i) := by
  constructor
  · generalize same : past ++ [Deed.wrote j] = history
    intro stands
    cases stands with
    | set sets =>
        obtain ⟨_, last⟩ := List.append_inj' same rfl
        cases last
        exact Or.inl ⟨sets, rfl⟩
    | read k stands => simp at same
    | elsewhere other stands =>
        obtain ⟨rfl, last⟩ := List.append_inj' same rfl
        cases last
        exact Or.inr (Or.inl ⟨other, stands⟩)
    | carried own other stands =>
        obtain ⟨rfl, last⟩ := List.append_inj' same rfl
        cases last
        exact Or.inr (Or.inr ⟨own, other, _, _, rfl, stands⟩)
  · rintro (⟨sets, rfl⟩ | ⟨other, stands⟩ | ⟨own, other, seen, between, rfl, stands⟩)
    · exact .set sets
    · exact .elsewhere other stands
    · exact .carried own other stands

namespace Tells

variable {before told : Option Nat} {past : List Deed}

theorem nil : Tells calls clusterId table before [] before :=
  ⟨fun i stands => absurd stands (not_stands_nil i), fun _ => rfl⟩

theorem of_iff {history : List Deed} (tells : Tells calls clusterId table before past told)
    (same : ∀ i, Stands calls clusterId table history i ↔ Stands calls clusterId table past i) :
    Tells calls clusterId table before history told :=
  ⟨fun i stands => tells.standing i ((same i).mp stands),
    fun noneStands => tells.former fun i stands => noneStands i ((same i).mpr stands)⟩

theorem read (tells : Tells calls clusterId table before past told) (j : Nat) :
    Tells calls clusterId table before (past ++ [.read j]) told :=
  tells.of_iff fun _ => stands_read

theorem set {j : Nat} (sets : (calls j).Sets clusterId table) :
    Tells calls clusterId table before (past ++ [.wrote j]) (some (calls j).days) where
  standing i stands := by
    rcases stands_wrote.mp stands with ⟨_, rfl⟩ | ⟨other, _⟩ | ⟨_, other, _⟩
    · rfl
    · exact absurd sets.1 other
    · exact absurd sets.2 other
  former noneStands := absurd (.set sets) (noneStands j)

theorem elsewhere {j : Nat} (tells : Tells calls clusterId table before past told)
    (other : (calls j).clusterId ≠ clusterId) :
    Tells calls clusterId table before (past ++ [.wrote j]) told := by
  refine tells.of_iff fun i => ⟨fun stands => ?_, .elsewhere other⟩
  rcases stands_wrote.mp stands with ⟨sets, _⟩ | ⟨_, stands⟩ | ⟨own, _⟩
  · exact absurd sets.1 other
  · exact stands
  · exact absurd own other

theorem carried {j : Nat} {between : List Deed}
    (tells : Tells calls clusterId table before past told) (own : (calls j).clusterId = clusterId)
    (other : (calls j).table ≠ table) (early : .read j ∉ past) (late : .read j ∉ between) :
    Tells calls clusterId table before (past ++ .read j :: between ++ [.wrote j]) told := by
  refine tells.of_iff fun i => ⟨fun stands => ?_, .carried own other⟩
  rcases stands_wrote.mp stands with ⟨sets, _⟩ | ⟨elsewhere, _⟩ | ⟨_, _, seen, rest, same, stands⟩
  · exact absurd sets.2 other
  · exact absurd own elsewhere
  · obtain ⟨rfl, _, rfl⟩ := (List.append_cons_inj_of_notMem early late).mp same
    exact stands

end Tells

/-! ## What the store tells -/

theorem memory_days (store : MemoryStore) (call : RetentionCall) (clusterId : Int)
    (table : String) :
    (store.setRetention call.clusterId call.table call.days).retentionDays clusterId table =
      if call.Sets clusterId table then some call.days
      else store.retentionDays clusterId table := by
  have same : (clusterId, table) = (call.clusterId, call.table) ↔ call.Sets clusterId table := by
    rw [Prod.mk.injEq, Sets, eq_comm, @eq_comm _ table]
  simp only [← same]
  exact IncidentKeys.lookup_put store.retention _ _ call.days

theorem withDays_lookup (all : List (String × Nat)) (table other : String) (days : Nat) :
    (FileStore.withDays table days all).lookup other =
      if other = table then some days else all.lookup other :=
  IncidentKeys.lookup_put all table other days

theorem file_map {store later : FileStore} {clusterId : Int} {days : List (String × Nat)}
    (wrote : store.putRetentionMap clusterId days = .ok later) (other : Int) :
    later.retentionMap other = if other = clusterId then .ok days else store.retentionMap other := by
  unfold FileStore.putRetentionMap FileStore.whenOpen at wrote
  split at wrote
  · next opened =>
      obtain rfl := Except.ok.inj wrote
      unfold FileStore.retentionMap FileStore.whenOpen
      simp only [opened, if_true]
      rw [IncidentKeys.lookup_put]
      split <;> rfl
  · cases wrote

theorem file_days {store : FileStore} {clusterId : Int} {all : List (String × Nat)}
    (told : store.retentionMap clusterId = .ok all) (table : String) :
    store.retentionDays clusterId table = .ok (all.lookup table) := by
  rw [FileStore.retentionDays, told]
  rfl

theorem file_map_of_days {store : FileStore} {clusterId : Int} {table : String}
    {told : Option Nat} (days : store.retentionDays clusterId table = .ok told) :
    ∃ all, store.retentionMap clusterId = .ok all ∧ all.lookup table = told := by
  unfold FileStore.retentionDays at days
  cases map : store.retentionMap clusterId with
  | error e =>
      rw [map] at days
      cases days
  | ok all =>
      rw [map] at days
      exact ⟨all, rfl, Except.ok.inj days⟩

/-! ## Every step -/

def Recalls (calls : Nat → RetentionCall) (clusterId : Int) (table : String)
    (before : Option Nat) (history : List Deed) (i : Nat) (told : Option Nat) : Prop :=
  ∃ seen between, history = seen ++ .read i :: between ∧ .read i ∉ seen ∧ .read i ∉ between ∧
    Tells calls clusterId table before seen told

/-- The days of a table are those that the history tells, and so are those that the calls
have read.  The calls that have returned are those that wrote. -/
structure Accounted (calls : Nat → RetentionCall) (clusterId : Int) (table : String)
    (before : Option Nat) (m : Retaining) : Prop where
  days : ∃ told, m.store.retentionDays clusterId table = .ok told ∧
    Tells calls clusterId table before m.history told
  recalled : ∀ i all, m.stage i = .read all → (calls i).clusterId = clusterId →
    Recalls calls clusterId table before m.history i (all.lookup table)
  unread : ∀ i, m.stage i = .begun → .read i ∉ m.history
  returned : ∀ i, m.stage i = .returned ↔ .wrote i ∈ m.history

section

variable {before told : Option Nat} {history : List Deed} {i : Nat}

theorem Recalls.append (recalls : Recalls calls clusterId table before history i told)
    {deeds : List Deed} (others : .read i ∉ deeds) :
    Recalls calls clusterId table before (history ++ deeds) i told := by
  obtain ⟨seen, between, rfl, early, late, tells⟩ := recalls
  refine ⟨seen, between ++ deeds, ?_, early, ?_, tells⟩
  · rw [List.append_assoc, List.cons_append]
  · rw [List.mem_append, not_or]
    exact ⟨late, others⟩

theorem Recalls.wrote (recalls : Recalls calls clusterId table before history i told)
    (own : (calls i).clusterId = clusterId) (other : (calls i).table ≠ table) :
    Tells calls clusterId table before (history ++ [.wrote i]) told := by
  obtain ⟨seen, between, rfl, early, late, tells⟩ := recalls
  exact tells.carried own other early late

theorem Tells.recalled (tells : Tells calls clusterId table before history told)
    (unread : .read i ∉ history) :
    Recalls calls clusterId table before (history ++ [.read i]) i told :=
  ⟨history, [], rfl, unread, List.not_mem_nil, tells⟩

end

theorem start_accounted {store : Store} {before : Option Nat}
    (known : store.retentionDays clusterId table = .ok before) :
    Accounted calls clusterId table before (start store) where
  days := ⟨before, known, .nil⟩
  recalled i all reading := by cases reading
  unread i _ := List.not_mem_nil
  returned i := iff_of_false nofun List.not_mem_nil

namespace Accounted

variable {before : Option Nat} {m later : Retaining}

theorem goesOn (accounted : Accounted calls clusterId table before m) {i : Nat} {store : Store}
    {stage : Stage} {deeds : List Deed} (begun : stage ≠ .begun)
    (others : ∀ j, j ≠ i → .read j ∉ deeds ∧ .wrote j ∉ deeds)
    (returned : stage = .returned ↔ .wrote i ∈ m.history ++ deeds)
    (days : ∃ told, store.retentionDays clusterId table = .ok told ∧
      Tells calls clusterId table before (m.history ++ deeds) told)
    (recalled : ∀ all, stage = .read all → (calls i).clusterId = clusterId →
      Recalls calls clusterId table before (m.history ++ deeds) i (all.lookup table)) :
    Accounted calls clusterId table before
      ⟨store, Function.update m.stage i stage, m.history ++ deeds⟩ where
  days := days
  recalled j all reading own := by
    change Function.update m.stage i stage j = .read all at reading
    by_cases same : j = i
    · subst same
      rw [Function.update_self] at reading
      exact recalled all reading own
    · rw [Function.update_of_ne same] at reading
      exact (accounted.recalled j all reading own).append (others j same).1
  unread j fresh := by
    change Function.update m.stage i stage j = .begun at fresh
    by_cases same : j = i
    · subst same
      rw [Function.update_self] at fresh
      exact absurd fresh begun
    · rw [Function.update_of_ne same] at fresh
      rw [List.mem_append, not_or]
      exact ⟨accounted.unread j fresh, (others j same).1⟩
  returned j := by
    change Function.update m.stage i stage j = .returned ↔ .wrote j ∈ m.history ++ deeds
    by_cases same : j = i
    · subst same
      rw [Function.update_self]
      exact returned
    · rw [Function.update_of_ne same, accounted.returned j, List.mem_append]
      exact ⟨Or.inl, fun wrote => wrote.resolve_right (others j same).2⟩

theorem once_days (accounted : Accounted calls clusterId table before m) {i : Nat}
    {store : MemoryStore} (begun : m.stage i = .begun) (inMemory : m.store = .memory store) :
    ∃ told, Store.retentionDays clusterId table (.memory
        (store.setRetention (calls i).clusterId (calls i).table (calls i).days)) = .ok told ∧
      Tells calls clusterId table before (m.history ++ [.read i] ++ [.wrote i]) told := by
  obtain ⟨told, isTold, tells⟩ := accounted.days
  rw [inMemory] at isTold
  have former : store.retentionDays clusterId table = told := Except.ok.inj isTold
  refine ⟨_, congrArg Except.ok (memory_days store (calls i) clusterId table), ?_⟩
  split
  · next sets => exact .set sets
  · next apart =>
      rw [former]
      by_cases own : (calls i).clusterId = clusterId
      · exact (tells.recalled (accounted.unread i begun)).wrote own fun same => apart ⟨own, same⟩
      · exact (tells.read i).elsewhere own

theorem write_days (accounted : Accounted calls clusterId table before m) {i : Nat}
    {store later : FileStore} {all : List (String × Nat)} (hasRead : m.stage i = .read all)
    (inFile : m.store = .file store)
    (wrote : store.putRetentionMap (calls i).clusterId
      (FileStore.withDays (calls i).table (calls i).days all) = .ok later) :
    ∃ told, Store.retentionDays clusterId table (.file later) = .ok told ∧
      Tells calls clusterId table before (m.history ++ [.wrote i]) told := by
  have map := file_map wrote clusterId
  by_cases own : clusterId = (calls i).clusterId
  · rw [if_pos own] at map
    refine ⟨_, file_days map table, ?_⟩
    rw [withDays_lookup]
    split
    · next same => exact .set ⟨own.symm, same.symm⟩
    · next other =>
        exact (accounted.recalled i all hasRead own.symm).wrote own.symm (Ne.symm other)
  · rw [if_neg own] at map
    obtain ⟨told, isTold, tells⟩ := accounted.days
    rw [inFile] at isTold
    obtain ⟨former, isFormer, rfl⟩ := file_map_of_days isTold
    exact ⟨_, file_days (map.trans isFormer) table, tells.elsewhere (Ne.symm own)⟩

theorem step (accounted : Accounted calls clusterId table before m) (step : Step calls m later) :
    Accounted calls clusterId table before later := by
  obtain ⟨told, isTold, tells⟩ := accounted.days
  cases step with
  | @once i store begun inMemory =>
      have days := accounted.once_days begun inMemory
      rw [List.append_assoc] at days ⊢
      exact accounted.goesOn nofun (fun j apart => by simp [apart]) (by simp) days nofun
  | @read i store all begun inFile read =>
      have unwritten : .wrote i ∉ m.history := by
        rw [← accounted.returned, begun]
        nofun
      refine accounted.goesOn nofun (fun j apart => by simp [apart]) (by simp [unwritten])
        ⟨told, isTold, tells.read i⟩ ?_
      intro snapshot same own
      obtain rfl := Stage.read.inj same
      rw [inFile] at isTold
      rw [own] at read
      rw [Except.ok.inj ((file_days read table).symm.trans isTold)]
      exact tells.recalled (accounted.unread i begun)
  | @write i store later all hasRead inFile wrote =>
      exact accounted.goesOn nofun (fun j apart => by simp [apart]) (by simp)
        (accounted.write_days hasRead inFile wrote) nofun
  | @fail i unfinished =>
      have unwritten := mt (accounted.returned i).mpr unfinished
      have same : m.history ++ [] = m.history := List.append_nil _
      have goesOn : Accounted calls clusterId table before
          ⟨m.store, Function.update m.stage i .failed, m.history ++ []⟩ :=
        accounted.goesOn nofun (by simp) (by simp [unwritten]) ⟨told, isTold, same.symm ▸ tells⟩ nofun
      rwa [same] at goesOn

theorem path (accounted : Accounted calls clusterId table before m) (path : Path calls m later) :
    Accounted calls clusterId table before later := by
  induction path with
  | start => exact accounted
  | step _ step ih => exact ih.step step

end Accounted

/-! ## Calls that none overtakes -/

def ReadsFirst (calls : Nat → RetentionCall) (clusterId : Int) (history : List Deed) : Prop :=
  ∀ past i, (calls i).clusterId = clusterId → past ++ [.wrote i] <+: history → .read i ∈ past

theorem Overtaken.mono {past history : List Deed} {i : Nat} (early : past <+: history)
    (overtaken : Overtaken calls past i) : Overtaken calls history i := by
  obtain ⟨j, own, other, order⟩ := overtaken
  exact ⟨j, own, other, order.trans early.sublist⟩

/-- Of calls for a table of which one is not overtaken there is one whose days stand. -/
theorem ReadsFirst.stands {history : List Deed} (readsFirst : ReadsFirst calls clusterId history)
    {i : Nat} (sets : (calls i).Sets clusterId table) (wrote : .wrote i ∈ history)
    (free : ¬ Overtaken calls history i) : ∃ j, Stands calls clusterId table history j := by
  -- What is carried stood when the call that carries it read, so the history is cut there.
  induction length : history.length using Nat.strongRecOn generalizing history with
  | _ n ih =>
      rcases history.eq_nil_or_concat' with rfl | ⟨past, deed, rfl⟩
      · cases wrote
      · have earlier : ∀ early, early <+: past → .wrote i ∈ early →
            ∃ j, Stands calls clusterId table early j := by
          intro early within wrote
          have whole := within.trans (List.prefix_append past [deed])
          refine ih early.length ?_ ?_ wrote (fun overtaken => free (overtaken.mono whole)) rfl
          · have short := within.length_le
            rw [← length, List.length_append, List.length_singleton]
            omega
          · exact fun seen j own first => readsFirst seen j own (first.trans whole)
        cases deed with
        | read j =>
            obtain ⟨k, stands⟩ := earlier past List.prefix_rfl (by simpa using wrote)
            exact ⟨k, .read j stands⟩
        | wrote j =>
            by_cases own : (calls j).clusterId = clusterId
            · by_cases same : (calls j).table = table
              · exact ⟨j, .set ⟨own, same⟩⟩
              · have apart : i ≠ j := by
                  rintro rfl
                  exact same sets.2
                have before : .wrote i ∈ past := by simpa [apart] using wrote
                obtain ⟨seen, between, rfl⟩ :=
                  List.append_of_mem (readsFirst past j own List.prefix_rfl)
                -- Between the reading and the writing of the call its row was not written.
                have early : .wrote i ∈ seen := by
                  by_contra late
                  have inside : .wrote i ∈ between := by simpa [late] using before
                  refine free ⟨j, own.trans sets.1.symm, fun level => same (level.trans sets.2), ?_⟩
                  have reads : [.read j, .wrote i].Sublist (seen ++ .read j :: between) :=
                    ((List.singleton_sublist.mpr inside).cons_cons (.read j)).trans
                      (List.sublist_append_right _ _)
                  exact reads.append (List.Sublist.refl [Deed.wrote j])
                obtain ⟨k, stands⟩ := earlier seen (List.prefix_append _ _) early
                exact ⟨k, .carried own same stands⟩
            · have apart : i ≠ j := by
                rintro rfl
                exact own sets.1
              obtain ⟨k, stands⟩ := earlier past List.prefix_rfl (by simpa [apart] using wrote)
              exact ⟨k, .elsewhere own stands⟩

theorem ReadsFirst.append {history : List Deed} (readsFirst : ReadsFirst calls clusterId history)
    (deed : Deed) (own : ∀ i, deed = .wrote i → (calls i).clusterId = clusterId →
      .read i ∈ history) : ReadsFirst calls clusterId (history ++ [deed]) := by
  intro past i same early
  rcases List.prefix_concat_iff.mp early with whole | early
  · obtain ⟨rfl, last⟩ := List.append_inj' whole rfl
    exact own i (List.singleton_inj.mp last).symm same
  · exact readsFirst past i same early

theorem Accounted.readsFirst {before : Option Nat} {m later : Retaining}
    (accounted : Accounted calls clusterId table before m)
    (readsFirst : ReadsFirst calls clusterId m.history) (step : Step calls m later) :
    ReadsFirst calls clusterId later.history := by
  have reads : ∀ i, ReadsFirst calls clusterId (m.history ++ [.read i]) :=
    fun i => readsFirst.append (.read i) nofun
  cases step with
  | once begun inMemory =>
      refine (reads _).append _ fun i same _ => ?_
      obtain rfl := Deed.wrote.inj same
      simp
  | read begun inFile told => exact reads _
  | write hasRead inFile wrote =>
      refine readsFirst.append _ fun i same own => ?_
      obtain rfl := Deed.wrote.inj same
      obtain ⟨seen, between, history, _⟩ := accounted.recalled _ _ hasRead own
      simp [history]
  | fail unfinished => exact readsFirst

inductive AtOnce : List Deed → Prop
  | nil : AtOnce []
  | call {past : List Deed} {i : Nat} (atOnce : AtOnce past) (unread : .read i ∉ past) :
      AtOnce (past ++ [.read i, .wrote i])

theorem AtOnce.not_overtaken {history : List Deed} (atOnce : AtOnce history) (i : Nat) :
    ¬ Overtaken calls history i := by
  rintro ⟨j, -, -, order⟩
  induction atOnce with
  | nil => cases order
  | @call past k atOnce unread ih =>
      obtain ⟨early, late, same, inPast, inCall⟩ := List.sublist_append_iff.mp order
      by_cases own : j = k
      · subst own
        cases early with
        | nil =>
            have longer := inCall.length_le
            rw [← List.nil_append late, ← same] at longer
            simp at longer
        | cons first rest =>
            obtain ⟨rfl, _⟩ := List.cons.inj same
            exact unread (inPast.subset List.mem_cons_self)
      · rcases late.eq_nil_or_concat' with rfl | ⟨rest, last, rfl⟩
        · rw [List.append_nil] at same
          exact ih (same ▸ inPast)
        · have ends : [.read j, .wrote i] ++ [.wrote j] = early ++ rest ++ [last] := by
            rw [List.append_assoc]
            exact same
          obtain ⟨_, isLast⟩ := List.append_inj' ends rfl
          have member := inCall.subset (List.mem_append_right _ (List.mem_singleton_self last))
          rw [← List.singleton_inj.mp isLast] at member
          simp [own] at member

theorem Path.atOnce {store : MemoryStore} {m : Retaining}
    (path : Path calls (Retaining.start (.memory store)) m) :
    (∃ later, m.store = .memory later) ∧ AtOnce m.history := by
  induction path with
  | start => exact ⟨⟨store, rfl⟩, .nil⟩
  | @step between later path step ih =>
      obtain ⟨⟨memory, inMemory⟩, atOnce⟩ := ih
      have begun : Accounted calls 0 "" _ (Retaining.start (.memory store)) := start_accounted rfl
      have accounted := begun.path path
      cases step with
      | once begun _ =>
          refine ⟨⟨_, rfl⟩, ?_⟩
          change AtOnce (between.history ++ [_] ++ [_])
          rw [List.append_assoc]
          exact .call atOnce (accounted.unread _ begun)
      | read _ inFile _ =>
          rw [inMemory] at inFile
          cases inFile
      | write _ inFile _ =>
          rw [inMemory] at inFile
          cases inFile
      | fail unfinished => exact ⟨⟨memory, inMemory⟩, atOnce⟩

/-- However calls that set days of retention take turns, a table always tells the days that
stand: what a call set that has returned, and what it told before if none stands.  Some days
stand as soon as one call for the table returned and no call for another table of the cluster
read before it wrote and wrote after it; in memory there is no such other call. -/
theorem tells_what_stands {store : Store} {before : Option Nat} {m : Retaining}
    (known : store.retentionDays clusterId table = .ok before)
    (path : Path calls (start store) m) :
    ∃ told, m.store.retentionDays clusterId table = .ok told ∧
      (∀ i, Stands calls clusterId table m.history i → m.stage i = .returned ∧
        (calls i).Sets clusterId table ∧ told = some (calls i).days) ∧
      ((∀ i, ¬ Stands calls clusterId table m.history i) → told = before) ∧
      (∀ i, m.stage i = .returned → (calls i).Sets clusterId table →
        ¬ Overtaken calls m.history i → ∃ j, Stands calls clusterId table m.history j) ∧
      ∀ memory, store = .memory memory → ∀ i, ¬ Overtaken calls m.history i := by
  have begun : Accounted calls clusterId table before (start store) := start_accounted known
  have accounted := begun.path path
  obtain ⟨told, isTold, tells⟩ := accounted.days
  have readsFirst : ReadsFirst calls clusterId m.history := by
    clear accounted isTold tells
    induction path with
    | start =>
        intro past i own early
        simp [Retaining.start] at early
    | step path step ih => exact (begun.path path).readsFirst ih step
  refine ⟨told, isTold, ?_, tells.former, ?_, ?_⟩
  · intro i stands
    obtain ⟨sets, wrote⟩ := stands.wrote
    exact ⟨(accounted.returned i).mpr wrote, sets, tells.standing i stands⟩
  · intro i returned sets free
    exact readsFirst.stands sets ((accounted.returned i).mp returned) free
  · rintro memory rfl i
    exact path.atOnce.2.not_overtaken i

/-! ## A value that is lost -/

def pair : Nat → RetentionCall
  | 0 => ⟨1, "logs", 3⟩
  | _ => ⟨1, "ts_checks", 5⟩

def crossed : Retaining where
  store := .file
    { FileStore.create "fleet.db" with
      retention := [(1, FileStore.withDays "ts_checks" 5 [])] }
  stage := Function.update (Function.update (Function.update (Function.update (fun _ => .begun)
    0 (.read [])) 1 (.read [])) 0 .returned) 1 .returned
  history := [.read 0, .read 1, .wrote 0, .wrote 1]

theorem pair_crosses : Path pair (start (.file (.create "fleet.db"))) crossed := by
  refine .step (.step (.step (.step .start (.read (i := 0) rfl rfl rfl))
    (.read (i := 1) rfl rfl rfl)) (.write (i := 0) rfl rfl rfl)) ?_
  exact .write (i := 1) rfl rfl rfl

/-- The later of the two writes stands. -/
theorem later_write_stands :
    crossed.store.retentionDays 1 "ts_checks" = .ok (some 5) := by
  have known : Store.retentionDays 1 "ts_checks" (.file (.create "fleet.db")) = .ok none := rfl
  obtain ⟨told, isTold, standing, -⟩ := tells_what_stands known pair_crosses
  have stands : Stands pair 1 "ts_checks" ([.read 0, .read 1, .wrote 0] ++ [.wrote 1]) 1 :=
    .set ⟨rfl, rfl⟩
  rw [isTold, (standing 1 stands).2.2]
  rfl

/-- Both calls have returned, and what the earlier one set is not told. -/
theorem returned_setting_is_lost :
    ∃ m, Path pair (start (.file (.create "fleet.db"))) m ∧
      m.stage 0 = .returned ∧ m.stage 1 = .returned ∧
      (∀ i, i ≠ 0 → i ≠ 1 → m.stage i = .begun) ∧
      (pair 0).Sets 1 "logs" ∧ m.store.retentionDays 1 "logs" = .ok none := by
  refine ⟨crossed, pair_crosses, rfl, rfl, ?_, ⟨rfl, rfl⟩, ?_⟩
  · intro i first second
    simp [crossed, Function.update_of_ne, first, second]
  · change Except.ok _ = _
    rw [FileStore.withDays]
    rfl

end Retaining

end FleetMonitor
