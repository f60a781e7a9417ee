import FleetMonitor.Proofs.Catalogue
import FleetMonitor.Proofs.Records

/-!
# Two stores, one history

A store in memory that is told every time in whole milliseconds and a store in a file hold the
same after the same writes: the same rows in the same order, and the same samples under ids of
their own.  So they tell the same of it.
-/

set_option autoImplicit false

namespace FleetMonitor

/-! ## Times in whole milliseconds -/

namespace Instant

theorem eq_of_le_of_le {a b : Instant} (ordered : a ≤ b) (reversed : b ≤ a) : a = b :=
  congrArg Instant.mk (Int.le_antisymm ordered reversed)

theorem inRange_iff (t : Instant) : t.inRange = true ↔
    -8334601228800 * 1000000 ≤ t.micros ∧ t.micros ≤ 8210266876800 * 1000000 - 1 := by
  rw [inRange, Bool.and_eq_true, decide_eq_true_eq, decide_eq_true_eq]
  exact Iff.rfl

theorem inRange_floorMilli (t : Instant) : t.floorMilli.inRange = t.inRange := by
  have floor := Int.fdiv_eq_ediv_of_nonneg t.micros (b := 1000) (by omega)
  rw [Bool.eq_iff_iff, inRange_iff, inRange_iff]
  simp only [floorMilli, floor]
  omega

theorem plus?_floorMilli (t : Instant) (seconds : Int) :
    t.floorMilli.plus? seconds = (t.plus? seconds).map floorMilli := by
  have moved : (⟨t.floorMilli.micros + seconds * second⟩ : Instant) =
      floorMilli ⟨t.micros + seconds * second⟩ := by
    have before := Int.fdiv_eq_ediv_of_nonneg t.micros (b := 1000) (by omega)
    have after := Int.fdiv_eq_ediv_of_nonneg (t.micros + seconds * 1000000) (b := 1000) (by omega)
    simp only [floorMilli, Instant.mk.injEq, second, before, after]
    omega
  unfold plus?
  simp only [moved, inRange_floorMilli]
  split <;> rfl

theorem minutesBefore?_floorMilli (t : Instant) (minutes : Int) :
    t.floorMilli.minutesBefore? minutes = (t.minutesBefore? minutes).map floorMilli := by
  unfold minutesBefore? minus?
  cases minutes? minutes with
  | none => rfl
  | some seconds => exact plus?_floorMilli t (-seconds)

end Instant

/-! ## Letter case of ASCII texts -/

namespace Text

def isAscii (s : String) : Bool :=
  s.toList.all fun c => decide (c.toNat < 128)

theorem lowerChar_of_ascii {c : Char} (ascii : c.toNat < 128) : lowerChar c = [c.toLower] := by
  have notExpanded : lowerExpansions.lookup c.toNat = none := by
    rw [lowerExpansions, List.lookup_cons, beq_eq_false_iff_ne.mpr (by omega)]
    rfl
  rw [lowerChar, notExpanded, lowerSimple, if_pos ascii]

theorem lower_of_isAscii (s : String) (ascii : isAscii s = true) : lower s = lowerAscii s := by
  have folded : ∀ (cs before : List Char), (∀ c ∈ cs, c.toNat < 128) →
      lowerFrom before cs = cs.map Char.toLower := by
    intro cs
    induction cs with
    | nil => exact fun _ _ => rfl
    | cons c rest ih =>
        intro before small
        obtain ⟨first, others⟩ := List.forall_mem_cons.mp small
        rw [lowerFrom, if_neg (by omega), lowerChar_of_ascii first, ih _ others]
        rfl
  unfold lower lowerAscii
  rw [folded]
  simpa [isAscii] using ascii

end Text

/-! ## Writes -/

inductive Write where
  | check (definition : Check)
  | host (clusterId : Int) (report : Host)
  | sample (m : Measurement)
  | log (line : LogLine)
  | retention (clusterId : Int) (table : String) (days : Nat)
  | record (now : Instant) (clusterId checkId : Int) (failing : Bool)
      (expressions : List Expression) (seconds : Int)

namespace Write

def floored : Write → Write
  | .host clusterId report => .host clusterId { report with updated := report.updated.floorMilli }
  | .sample m => .sample { m with created := m.created.floorMilli }
  | .log line => .log { line with created := line.created.floorMilli }
  | .record now clusterId checkId failing expressions seconds =>
      .record now.floorMilli clusterId checkId failing expressions seconds
  | write => write

def ReadsBack : Write → Prop
  | .host _ report => FileStore.rereadData report.data = report.data
  | .record _ _ _ _ expressions _ => FileStore.rereadExpressions expressions = expressions
  | _ => True

def measured? : Write → Option Measurement
  | .sample m => some m
  | _ => none

end Write

def Store.after (store : Store) : Write → Store
  | .check definition => (store.insertCheck definition).toOption.getD store
  | .host clusterId report => (store.upsertHost clusterId report).toOption.getD store
  | .sample m => (store.addSample m.clusterId m.key m.hostname m.created m.value).toOption.getD store
  | .log line => (store.addLog line).toOption.getD store
  | .retention clusterId table days =>
      (store.setRetention clusterId table days).toOption.getD store
  | .record now clusterId checkId failing expressions seconds =>
      match store.create now clusterId checkId failing expressions seconds with
      | some (.ok (_, later)) => later
      | _ => store

/-- The store holds no sign of zero. -/
def Measurement.unsigned (m : Measurement) : Measurement :=
  { m with value := FileStore.valueRow m.value }

theorem MemoryStore.withMetric_known {store : MemoryStore} {clusterId : Int} {key : String}
    {id : Int} (known : store.metrics.lookup (clusterId, key) = some id) :
    store.withMetric clusterId key = (id, store.metrics) := by
  rw [withMetric, metricId?, known]

theorem MemoryStore.withMetric_new {store : MemoryStore} {clusterId : Int} {key : String}
    (new : store.metrics.lookup (clusterId, key) = none) :
    store.withMetric clusterId key =
      ((store.metrics.length : Int) + 1,
        store.metrics ++ [((clusterId, key), (store.metrics.length : Int) + 1)]) := by
  rw [withMetric, metricId?, new]

theorem FileStore.withMetric_known {store : FileStore} {clusterId : Int} {key : String} {id : Int}
    (known : store.metrics.lookup (clusterId, key) = some id) :
    store.withMetric clusterId key = (id, store.metrics) := by
  rw [withMetric, known]

theorem FileStore.withMetric_new {store : FileStore} {clusterId : Int} {key : String}
    (new : store.metrics.lookup (clusterId, key) = none) :
    store.withMetric clusterId key =
      ((store.drawn : Int) + 1,
        store.metrics ++ [((clusterId, key), (store.drawn : Int) + 1)]) := by
  rw [withMetric, new]

/-- A store in memory and one in a file hold the same. -/
structure Alike (memory : MemoryStore) (file : FileStore) (measured : List Measurement) :
    Prop where
  isOpen : file.isOpen = true
  checks : file.checks = memory.checks
  hosts : file.hosts = memory.hosts
  logs : file.logs = memory.logs
  records : file.records = memory.records
  retention : ∀ clusterId table,
    ((file.retention.lookup clusterId).getD []).lookup table =
      memory.retention.lookup (clusterId, table)
  inMemory : Catalogued memory.metrics memory.metrics.length memory.samples measured
  inFile : Catalogued file.metrics file.drawn file.samples (measured.map Measurement.unsigned)

namespace Alike

variable {memory : MemoryStore} {file : FileStore} {measured : List Measurement}

theorem start (path : String) : Alike .empty (.create path) [] where
  isOpen := rfl
  checks := rfl
  hosts := rfl
  logs := rfl
  records := rfl
  retention _ _ := rfl
  inMemory := .nil _
  inFile := .nil _

theorem whenOpen_eq (alike : Alike memory file measured) {α : Type} (answer : α) :
    file.whenOpen answer = .ok answer := by
  rw [FileStore.whenOpen, if_pos alike.isOpen]

theorem insertCheck (alike : Alike memory file measured) (definition : Check) :
    Alike (memory.insertCheck definition)
      { file with checks := putRow file.checks (StoredCheck.ofCheck definition) } measured :=
  { alike with checks := congrArg (putRow · (StoredCheck.ofCheck definition)) alike.checks }

theorem upsertHost (alike : Alike memory file measured) (clusterId : Int) (report : Host) :
    Alike (memory.upsertHost clusterId report)
      { file with hosts := putHost file.hosts clusterId report } measured :=
  { alike with hosts := congrArg (putHost · clusterId report) alike.hosts }

theorem addLog (alike : Alike memory file measured) (line : LogLine) :
    Alike (memory.addLog line) { file with logs := file.logs ++ [line] } measured :=
  { alike with logs := congrArg (· ++ [line]) alike.logs }

theorem addRecord (alike : Alike memory file measured) (record : CycleRecord) :
    Alike (memory.addRecord record) { file with records := file.records ++ [record] } measured :=
  { alike with records := congrArg (· ++ [record]) alike.records }

theorem setRetention (alike : Alike memory file measured) (clusterId : Int) (table : String)
    (days : Nat) :
    ∃ later, file.setRetention clusterId table days = .ok later ∧
      Alike (memory.setRetention clusterId table days) later measured := by
  let all := (file.retention.lookup clusterId).getD []
  refine ⟨{ file with
      retention := (clusterId, FileStore.withDays table days all) ::
        file.retention.filter fun entry => entry.1 != clusterId }, ?_,
    { alike with retention := fun otherCluster otherTable => ?_ }⟩
  · rw [FileStore.setRetention, FileStore.retentionMap, alike.whenOpen_eq]
    exact alike.whenOpen_eq _
  · have former := alike.retention otherCluster otherTable
    change (((_ :: List.filter _ file.retention).lookup otherCluster).getD []).lookup otherTable =
      (_ :: List.filter _ memory.retention).lookup (otherCluster, otherTable)
    rw [IncidentKeys.lookup_put, IncidentKeys.lookup_put]
    by_cases sameCluster : otherCluster = clusterId
    · subst sameCluster
      rw [if_pos rfl, Option.getD_some, FileStore.withDays, IncidentKeys.lookup_put, former]
      simp
    · rw [if_neg sameCluster, if_neg fun same => sameCluster (congrArg Prod.fst same), former]

theorem knows (alike : Alike memory file measured) (metric : Int × String) :
    file.metrics.lookup metric ≠ none ↔ memory.metrics.lookup metric ≠ none := by
  rw [alike.inFile.known, alike.inMemory.known]
  simp [Measurement.unsigned, Measurement.metric]

theorem addSample (alike : Alike memory file measured) (m : Measurement) :
    ∃ later, file.addSample m.clusterId m.key m.hostname m.created m.value = .ok later ∧
      Alike (memory.addSample m.clusterId m.key m.hostname m.created.floorMilli m.value) later
        (measured ++ [{ m with created := m.created.floorMilli }]) := by
  let floored : Measurement := { m with created := m.created.floorMilli }
  cases old : memory.metrics.lookup m.metric with
  | some id =>
      obtain ⟨fileId, oldInFile⟩ := Option.ne_none_iff_exists'.mp
        ((alike.knows m.metric).mpr (by simp [old]))
      rw [FileStore.addSample, MemoryStore.addSample, MemoryStore.withMetric_known old,
        FileStore.withMetric_known oldInFile]
      refine ⟨_, alike.whenOpen_eq _, { alike with inMemory := ?_, inFile := ?_ }⟩
      · exact alike.inMemory.again (Int.le_refl _) floored id old
      · rw [List.map_append]
        exact alike.inFile.again (Int.le_of_lt (Int.lt_succ _)) floored.unsigned fileId oldInFile
  | none =>
      have newInFile : file.metrics.lookup m.metric = none := by
        simpa [old] using alike.knows m.metric
      rw [FileStore.addSample, MemoryStore.addSample, MemoryStore.withMetric_new old,
        FileStore.withMetric_new newInFile]
      refine ⟨_, alike.whenOpen_eq _, { alike with inMemory := ?_, inFile := ?_ }⟩
      · refine alike.inMemory.first floored _ old (Int.lt_succ _) ?_
        rw [List.length_append]
        exact Int.le_refl _
      · rw [List.map_append]
        exact alike.inFile.first floored.unsigned _ newInFile (Int.lt_succ _) (Int.le_refl _)

theorem write (alike : Alike memory file measured) (write : Write) (reads : write.ReadsBack) :
    ∃ memory' file', (Store.memory memory).after write.floored = .memory memory' ∧
      (Store.file file).after write = .file file' ∧
        Alike memory' file' (measured ++ write.floored.measured?.toList) := by
  cases write with
  | sample m =>
      obtain ⟨later, wrote, alike⟩ := alike.addSample m
      refine ⟨_, later, rfl, ?_, alike⟩
      rw [Store.after, Store.addSample, wrote]
      rfl
  | check definition =>
      refine ⟨_, _, rfl, ?_, (List.append_nil measured).symm ▸ alike.insertCheck definition⟩
      rw [Store.after, Store.insertCheck, FileStore.insertCheck, alike.whenOpen_eq]
      rfl
  | host clusterId report =>
      refine ⟨_, _, rfl, ?_, (List.append_nil measured).symm ▸ alike.upsertHost clusterId _⟩
      rw [Store.after, Store.upsertHost, FileStore.upsertHost, alike.whenOpen_eq,
        FileStore.hostRow, show FileStore.rereadData report.data = report.data from reads]
      rfl
  | log line =>
      refine ⟨_, _, rfl, ?_, (List.append_nil measured).symm ▸ alike.addLog _⟩
      rw [Store.after, Store.addLog, FileStore.addLog, alike.whenOpen_eq]
      rfl
  | retention clusterId table days =>
      obtain ⟨later, wrote, alike⟩ := alike.setRetention clusterId table days
      refine ⟨_, later, rfl, ?_, (List.append_nil measured).symm ▸ alike⟩
      rw [Store.after, Store.setRetention, wrote]
      rfl
  | record now clusterId checkId failing expressions seconds =>
      cases ends : now.plus? seconds with
      | none =>
          refine ⟨memory, file, ?_, ?_, (List.append_nil measured).symm ▸ alike⟩
          · simp only [Store.after, Write.floored, Store.create, Instant.plus?_floorMilli, ends]
            rfl
          · simp only [Store.after, Store.create, ends]
            rfl
      | some expires =>
          refine ⟨_, _, ?_, ?_, (List.append_nil measured).symm ▸ alike.addRecord
            ⟨clusterId, checkId, now.floorMilli, failing, expressions, expires.floorMilli⟩⟩
          · simp only [Store.after, Write.floored, Store.create, Instant.plus?_floorMilli, ends]
            rfl
          · simp only [Store.after, Store.create, ends, Option.map_some, Store.addRecord,
              FileStore.addRecord, alike.whenOpen_eq, FileStore.recordRow,
              show FileStore.rereadExpressions expressions = expressions from reads]
            rfl

theorem writes (writes : List Write) (alike : Alike memory file measured)
    (read : ∀ write ∈ writes, write.ReadsBack) :
    ∃ memory' file', (writes.map Write.floored).foldl Store.after (.memory memory) =
        .memory memory' ∧
      writes.foldl Store.after (.file file) = .file file' ∧
        ∃ measured', Alike memory' file' measured' := by
  induction writes generalizing memory file measured with
  | nil => exact ⟨memory, file, rfl, rfl, measured, alike⟩
  | cons write rest ih =>
      obtain ⟨reads, others⟩ := List.forall_mem_cons.mp read
      obtain ⟨memory', file', inMemory, inFile, alike⟩ := alike.write write reads
      rw [List.map_cons, List.foldl_cons, List.foldl_cons, inMemory, inFile]
      exact ih alike others

end Alike

/-! ## Reads -/

/-- Of records of one time one store takes the first and the other the last; their time is
the same. -/
theorem CycleRecord.newest_created (records : List CycleRecord) :
    (newestFirst records).head?.map (·.created) =
      (records.foldl MemoryStore.newer none).map (·.created) := by
  cases records with
  | nil => rw [newestFirst, List.mergeSort_nil, List.foldl_nil, List.head?_nil]
  | cons first rest =>
      obtain ⟨newest, folded, isOne, greatest⟩ := MemoryStore.foldl_newer rest first
      obtain ⟨head, isHead, notOlder⟩ := newestFirst_head _ newest isOne
      have headIsOne : head ∈ first :: rest :=
        List.mem_mergeSort.mp (List.mem_of_mem_head? isHead)
      rw [isHead, List.foldl_cons, MemoryStore.newer, folded]
      exact congrArg some (Instant.eq_of_le_of_le (greatest head headIsOne) notOlder)

def MemoryStore.hostsSince (store : MemoryStore) (clusterId : Int) (query : String)
    (since : Instant) : Except StoreError (List Host) := do
  let query ← (Query.read query).mapError .ofQuery
  pure ((store.hosts.filter fun entry =>
    entry.1.1 == clusterId && decide (since ≤ entry.2.updated) &&
      query.matchesHost entry.2).map (·.2))

def MemoryStore.series (store : MemoryStore) (clusterId metricId : Int) (hostname : String)
    (since : Instant) : List (Instant × Float) :=
  (store.samples.filter fun sample => sample.belongs clusterId metricId hostname since).map
    fun sample => (sample.created, sample.value)

theorem MemoryStore.aggregate_eq (store : MemoryStore) (clusterId metricId : Int)
    (hostname : String) (since : Instant) :
    store.aggregate clusterId metricId hostname since =
      summarize ((store.series clusterId metricId hostname since).map (·.2)) := by
  rw [aggregate, series, List.map_map]
  rfl

theorem MemoryStore.isSome_summarize (values : List Float) :
    (summarize values).isSome = !values.isEmpty := by
  cases values <;> rfl

theorem FileStore.isSome_summarize (values : List Float) :
    (summarize values).isSome = !values.isEmpty := by
  cases values <;> rfl

def inTime (series : List (Instant × Float)) : List (Instant × Float) :=
  series.mergeSort fun a b => decide (a.1 ≤ b.1)

theorem inTime_isEmpty (series : List (Instant × Float)) :
    (inTime series).isEmpty = series.isEmpty := by
  rw [Bool.eq_iff_iff, List.isEmpty_iff_length_eq_zero, List.isEmpty_iff_length_eq_zero, inTime,
    List.length_mergeSort]

/-- A store in memory and one in a file go by ids for the same metric, or both by an id of
none. -/
def SameMetric (memory : MemoryStore) (file : FileStore) (clusterId id fileId : Int) : Prop :=
  ∀ key, memory.metricId? clusterId key = some id ↔ file.metricId? clusterId key = .ok (some fileId)

/-- A store in a file tells what one in memory tells that is asked for times in whole
milliseconds. -/
structure TellSame (memory : MemoryStore) (file : FileStore) : Prop where
  checks : file.allChecks = .ok memory.allChecks
  hosts : ∀ now clusterId query freshness, file.queryHosts now clusterId query freshness =
    memory.hostsSince clusterId query (freshnessBound freshness now).floorMilli
  named : ∀ clusterId names, file.hostsByNames clusterId names =
    .ok (memory.hostsByNames clusterId names)
  metrics : ∀ clusterId key, (file.metricId? clusterId key).map Option.isSome =
    .ok (memory.metricId? clusterId key).isSome
  ids : ∀ clusterId key id fileId, memory.metricId? clusterId key = some id →
    file.metricId? clusterId key = .ok (some fileId) → SameMetric memory file clusterId id fileId
  /-- A file sums up the same samples, in the order of their times. -/
  aggregates : ∀ clusterId id fileId, SameMetric memory file clusterId id fileId →
    ∀ now hostname minutes,
      (Store.memory memory).aggregate now.floorMilli clusterId id hostname minutes =
        (now.minutesBefore? minutes).map (fun since => .ok (MemoryStore.summarize
          ((memory.series clusterId id hostname since.floorMilli).map (·.2)))) ∧
      (Store.file file).aggregate now clusterId fileId hostname minutes =
        (now.minutesBefore? minutes).map (fun since => .ok (FileStore.summarize
          ((inTime (memory.series clusterId id hostname since.floorMilli)).map
            fun taken => FileStore.valueRow taken.2)))
  present : ∀ clusterId id fileId, SameMetric memory file clusterId id fileId →
    ∀ now hostname minutes,
      ((Store.file file).aggregate now clusterId fileId hostname minutes).map
          (·.map Option.isSome) =
        ((Store.memory memory).aggregate now.floorMilli clusterId id hostname minutes).map
          (·.map Option.isSome)
  counts : (∀ line ∈ memory.logs, Text.isAscii line.text = true) →
    ∀ clusterId hostname search since, FileStore.searchDepth search ≤ FileStore.depthLimit →
      file.countMatching clusterId hostname search since =
        .ok (memory.countMatching clusterId hostname search since.floorMilli)
  lastGood : ∀ clusterId checkId, (file.lastGood clusterId checkId).map (·.map (·.created)) =
    .ok ((memory.lastGood clusterId checkId).map (·.created))
  violations : ∀ now clusterId checkId bound,
    file.violationsSince now clusterId checkId bound =
      .ok (memory.violationsSince now.floorMilli clusterId checkId bound.floorMilli)
  retention : ∀ clusterId table, file.retentionDays clusterId table =
    .ok (memory.retentionDays clusterId table)

namespace Alike

variable {memory : MemoryStore} {file : FileStore} {measured : List Measurement}

theorem metricId?_eq (alike : Alike memory file measured) (clusterId : Int) (key : String) :
    file.metricId? clusterId key = .ok (file.metrics.lookup (clusterId, key)) :=
  alike.whenOpen_eq _

theorem queryHosts (alike : Alike memory file measured) (now : Instant) (clusterId : Int)
    (query : String) (freshness : Span) : file.queryHosts now clusterId query freshness =
      memory.hostsSince clusterId query (freshnessBound freshness now).floorMilli := by
  unfold FileStore.queryHosts MemoryStore.hostsSince
  simp only [alike.whenOpen_eq, alike.hosts]
  rfl

theorem hostsByNames (alike : Alike memory file measured) (clusterId : Int)
    (names : List String) :
    file.hostsByNames clusterId names = .ok (memory.hostsByNames clusterId names) := by
  unfold FileStore.hostsByNames MemoryStore.hostsByNames
  split
  · next isEmpty => rw [List.isEmpty_iff.mp isEmpty, List.filterMap_nil]
  · rw [alike.whenOpen_eq, alike.hosts]

theorem metricId? (alike : Alike memory file measured) (clusterId : Int) (key : String) :
    (file.metricId? clusterId key).map Option.isSome =
      .ok (memory.metricId? clusterId key).isSome := by
  rw [alike.metricId?_eq, MemoryStore.metricId?]
  refine congrArg Except.ok (Bool.eq_iff_iff.mpr ?_)
  rw [Option.isSome_iff_ne_none, Option.isSome_iff_ne_none]
  exact alike.knows (clusterId, key)

theorem sameMetric (alike : Alike memory file measured) (clusterId : Int) (key : String)
    (id fileId : Int) (inMemory : memory.metricId? clusterId key = some id)
    (inFile : file.metricId? clusterId key = .ok (some fileId)) :
    SameMetric memory file clusterId id fileId := by
  intro other
  rw [alike.metricId?_eq, Except.ok.injEq] at inFile ⊢
  constructor
  · intro told
    rwa [alike.inMemory.apart _ _ id told inMemory]
  · intro told
    rw [MemoryStore.metricId?, alike.inFile.apart _ _ fileId told inFile]
    exact inMemory

theorem series (alike : Alike memory file measured) (clusterId id fileId : Int)
    (same : SameMetric memory file clusterId id fileId) (hostname : String) (since : Instant) :
    (file.samples.filter (·.belongs clusterId fileId hostname since)).map
        (fun sample => (sample.created, sample.value)) =
      (memory.series clusterId id hostname since).map
        fun taken => (taken.1, FileStore.valueRow taken.2) := by
  have same : ∀ key, memory.metrics.lookup (clusterId, key) = some id ↔
      file.metrics.lookup (clusterId, key) = some fileId := by
    intro key
    rw [← MemoryStore.metricId?, same, alike.metricId?_eq, Except.ok.injEq]
  unfold MemoryStore.series
  by_cases known : ∃ key, memory.metrics.lookup (clusterId, key) = some id
  · obtain ⟨key, known⟩ := known
    rw [alike.inMemory.series clusterId key hostname since id known,
      alike.inFile.series clusterId key hostname since fileId ((same key).mp known),
      seriesOf, seriesOf, List.filter_map, List.map_map, List.map_map]
    rfl
  · rw [alike.inMemory.unfiled clusterId hostname since id fun key own => known ⟨key, own⟩,
      alike.inFile.unfiled clusterId hostname since fileId fun key own =>
        known ⟨key, (same key).mpr own⟩]
    rfl

theorem aggregate (alike : Alike memory file measured) (clusterId id fileId : Int)
    (same : SameMetric memory file clusterId id fileId) (hostname : String) (since : Instant) :
    file.aggregate clusterId fileId hostname since =
      .ok (FileStore.summarize
        ((inTime (memory.series clusterId id hostname since.floorMilli)).map
          fun taken => FileStore.valueRow taken.2)) := by
  have inFile := alike.series clusterId id fileId same hostname since.floorMilli
  unfold FileStore.aggregate
  have inOrder := List.map_mergeSort
    (l := file.samples.filter (·.belongs clusterId fileId hostname since.floorMilli))
    (r := fun a b => decide (a.created ≤ b.created)) (s := fun a b => decide (a.1 ≤ b.1))
    (f := fun sample => (sample.created, sample.value)) fun _ _ _ _ => rfl
  have unsigned := List.map_mergeSort
    (l := memory.series clusterId id hostname since.floorMilli)
    (r := fun a b => decide (a.1 ≤ b.1)) (s := fun a b => decide (a.1 ≤ b.1))
    (f := fun taken => (taken.1, FileStore.valueRow taken.2)) fun _ _ _ _ => rfl
  rw [inFile, ← unsigned] at inOrder
  have values := congrArg (List.map Prod.snd) inOrder
  rw [List.map_map, List.map_map] at values
  rw [alike.whenOpen_eq]
  exact congrArg (fun values => Except.ok (FileStore.summarize values)) values

theorem countMatching (alike : Alike memory file measured)
    (ascii : ∀ line ∈ memory.logs, Text.isAscii line.text = true)
    (clusterId : Int) (hostname search : String) (since : Instant)
    (shallow : FileStore.searchDepth search ≤ FileStore.depthLimit) :
    file.countMatching clusterId hostname search since =
      .ok (memory.countMatching clusterId hostname search since.floorMilli) := by
  have sameLines : (memory.logs.filter fun line =>
      line.belongs clusterId hostname since.floorMilli &&
        LogSearch.holdsInAscii search line.text) =
      memory.logs.filter fun line =>
        line.belongs clusterId hostname since.floorMilli &&
          LogSearch.holdsFully search line.text := by
    refine List.filter_congr fun line member => ?_
    rw [LogSearch.holdsInAscii, LogSearch.holdsFully, LogSearch.holds, LogSearch.holds,
      Text.lower_of_isAscii line.text (ascii line member)]
  rw [FileStore.countMatching, alike.whenOpen_eq, alike.logs, sameLines,
    MemoryStore.countMatching]
  exact if_neg (Nat.not_lt.mpr shallow)

theorem lastGood (alike : Alike memory file measured) (clusterId checkId : Int) :
    (file.lastGood clusterId checkId).map (·.map (·.created)) =
      .ok ((memory.lastGood clusterId checkId).map (·.created)) := by
  rw [FileStore.lastGood, alike.whenOpen_eq, alike.records]
  exact congrArg Except.ok (CycleRecord.newest_created _)

theorem violationsSince (alike : Alike memory file measured) (now : Instant)
    (clusterId checkId : Int) (bound : Instant) :
    file.violationsSince now clusterId checkId bound =
      .ok (memory.violationsSince now.floorMilli clusterId checkId bound.floorMilli) := by
  rw [FileStore.violationsSince, alike.whenOpen_eq, alike.records]
  rfl

theorem retentionDays (alike : Alike memory file measured) (clusterId : Int) (table : String) :
    file.retentionDays clusterId table = .ok (memory.retentionDays clusterId table) := by
  rw [FileStore.retentionDays, FileStore.retentionMap, alike.whenOpen_eq,
    MemoryStore.retentionDays, ← alike.retention]
  rfl

theorem tellSame (alike : Alike memory file measured) : TellSame memory file where
  checks := by
    rw [FileStore.allChecks, alike.whenOpen_eq, alike.checks]
    rfl
  hosts := alike.queryHosts
  named := alike.hostsByNames
  metrics := alike.metricId?
  ids := alike.sameMetric
  aggregates clusterId id fileId same now hostname minutes := by
    simp only [Store.aggregate, Instant.minutesBefore?_floorMilli, Option.map_map,
      MemoryStore.aggregate_eq, alike.aggregate clusterId id fileId same]
    exact ⟨rfl, trivial⟩
  present clusterId id fileId same now hostname minutes := by
    simp only [Store.aggregate, Instant.minutesBefore?_floorMilli, Option.map_map,
      MemoryStore.aggregate_eq, alike.aggregate clusterId id fileId same]
    refine Option.map_congr fun since _ => congrArg Except.ok ?_
    rw [FileStore.isSome_summarize, MemoryStore.isSome_summarize, List.isEmpty_map,
      List.isEmpty_map, inTime_isEmpty]
  counts := alike.countMatching
  lastGood := alike.lastGood
  violations := alike.violationsSince
  retention := alike.retentionDays

end Alike

/-- After any writes a store in a file tells what a store in memory tells that was given the
same with all times in whole milliseconds. -/
theorem file_tells_as_memory (path : String) (writes : List Write)
    (read : ∀ write ∈ writes, write.ReadsBack) :
    ∃ memory file, (writes.map Write.floored).foldl Store.after (.memory .empty) =
        .memory memory ∧
      writes.foldl Store.after (.file (.create path)) = .file file ∧ TellSame memory file := by
  obtain ⟨memory, file, inMemory, inFile, _, alike⟩ := (Alike.start path).writes writes read
  exact ⟨memory, file, inMemory, inFile, alike.tellSame⟩

def threeSamples : List Write :=
  ["load", "load", "disk"].map fun key => .sample ⟨1, key, "web-1", ⟨0⟩, 1⟩

/-- The second metric has the second id in memory and the third one in a file, so a series
that one of them has under an id the other has not. -/
theorem second_metric_under_third_id :
    ((threeSamples.map Write.floored).foldl Store.after (.memory .empty)).aggregate
        ⟨0⟩ 1 3 "web-1" 1 = some (.ok none) ∧
      ∃ summary, (threeSamples.foldl Store.after (.file (.create "fleet.db"))).aggregate
        ⟨0⟩ 1 3 "web-1" 1 = some (.ok (some summary)) := by
  let total := ([FileStore.valueRow 1].foldl FileStore.Balanced.add ⟨0, 0⟩).total
  refine ⟨rfl, ⟨total / (1 : Nat).toFloat, FileStore.valueRow 1, FileStore.valueRow 1, total⟩, ?_⟩
  change some (Except.ok (FileStore.summarize
    (([(⟨1, 3, "web-1", ⟨0⟩, FileStore.valueRow 1⟩ : Sample)].mergeSort _).map (·.value)))) = _
  rw [List.mergeSort_singleton]
  rfl

def isWhole (path : String) (n : Int) : List (String × Json) → Bool
  | [(key, .number (.whole m))] => key == path && m == n
  | _ => false

theorem eq_of_isWhole {path : String} {n : Int} {data : List (String × Json)}
    (whole : isWhole path n data = true) : data = [(path, .int n)] := by
  unfold isWhole at whole
  split at whole
  · obtain ⟨rfl, rfl⟩ := by simpa using whole
    rfl
  · cases whole

def threeWrites : List Write :=
  [.host 1 ⟨"web-1", ⟨1500⟩, [("load", .int 9)], [("role", "frontend")]⟩,
   .sample ⟨1, "load", "web-1", ⟨1500⟩, 9⟩,
   .record ⟨2500⟩ 1 7 true [.ofKind (.ping ⟨1⟩)] 86400]

theorem three_writes_told :
    (∀ write ∈ threeWrites, write.ReadsBack) ∧
      ∃ memory file, (threeWrites.map Write.floored).foldl Store.after (.memory .empty) =
          .memory memory ∧
        threeWrites.foldl Store.after (.file (.create "fleet.db")) = .file file ∧
          TellSame memory file := by
  have read : ∀ write ∈ threeWrites, write.ReadsBack := by
    have data : FileStore.rereadData [("load", .int 9)] = [("load", .int 9)] :=
      eq_of_isWhole (by decide +kernel)
    have expressions :
        FileStore.rereadExpressions [.ofKind (.ping ⟨1⟩)] = [.ofKind (.ping ⟨1⟩)] := by
      decide +kernel
    simp [threeWrites, Write.ReadsBack, data, expressions]
  exact ⟨read, file_tells_as_memory "fleet.db" threeWrites read⟩

end FleetMonitor
