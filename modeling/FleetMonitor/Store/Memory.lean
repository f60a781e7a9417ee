import FleetMonitor.LogSearch
import FleetMonitor.Store.Basic

/-!
# The store in memory

Everything is kept as it was given, with times to the microsecond.  Reads and
writes never fail.
-/

set_option autoImplicit false

namespace FleetMonitor

structure MemoryStore where
  checks : List (Int × StoredCheck)
  hosts : List ((Int × String) × Host)
  /-- The ids of metrics, in the order of their first samples. -/
  metrics : List ((Int × String) × Int)
  samples : List Sample
  logs : List LogLine
  records : List CycleRecord
  retention : List ((Int × String) × Nat)
deriving Inhabited

namespace MemoryStore

def empty : MemoryStore :=
  ⟨[], [], [], [], [], [], []⟩

def insertCheck (store : MemoryStore) (check : Check) : MemoryStore :=
  { store with checks := putRow store.checks (StoredCheck.ofCheck check) }

def removeCheck (store : MemoryStore) (id : Int) : MemoryStore :=
  { store with checks := store.checks.filter fun row => row.1 != id }

def upsertHost (store : MemoryStore) (clusterId : Int) (host : Host) : MemoryStore :=
  { store with hosts := putHost store.hosts clusterId host }

def metricId? (store : MemoryStore) (clusterId : Int) (key : String) : Option Int :=
  store.metrics.lookup (clusterId, key)

/-- The metrics with one among them, and its id.  Ids count the metrics. -/
def withMetric (store : MemoryStore) (clusterId : Int) (key : String) :
    Int × List ((Int × String) × Int) :=
  match store.metricId? clusterId key with
  | some id => (id, store.metrics)
  | none =>
      let id : Int := store.metrics.length + 1
      (id, store.metrics ++ [((clusterId, key), id)])

def addSample (store : MemoryStore) (clusterId : Int) (key hostname : String)
    (created : Instant) (value : Float) : MemoryStore :=
  let (metricId, metrics) := store.withMetric clusterId key
  { store with
    metrics
    samples := store.samples ++ [⟨clusterId, metricId, hostname, created, value⟩] }

def addLog (store : MemoryStore) (line : LogLine) : MemoryStore :=
  { store with logs := store.logs ++ [line] }

def setRetention (store : MemoryStore) (clusterId : Int) (table : String) (days : Nat) :
    MemoryStore :=
  { store with
    retention :=
      ((clusterId, table), days) ::
        store.retention.filter fun entry => entry.1 != (clusterId, table) }

def addRecord (store : MemoryStore) (record : CycleRecord) : MemoryStore :=
  { store with records := store.records ++ [record] }

def allChecks (store : MemoryStore) : List StoredCheck :=
  store.checks.map (·.2)

def queryHosts (store : MemoryStore) (now : Instant) (clusterId : Int) (query : String)
    (freshness : Span) : Except StoreError (List Host) := do
  let query ← (Query.read query).mapError .ofQuery
  let bound := freshnessBound freshness now
  pure ((store.hosts.filter fun entry =>
    entry.1.1 == clusterId && decide (bound ≤ entry.2.updated) &&
      query.matchesHost entry.2).map (·.2))

def hostsByNames (store : MemoryStore) (clusterId : Int) (names : List String) : List Host :=
  names.filterMap fun name => store.hosts.lookup (clusterId, name)

def lowest : Float := .ofBits 0xffefffffffffffff

def highest : Float := .ofBits 0x7fefffffffffffff

/-- The summary of the values of a series.  Sums run from left to right, and the extremes are
sought from the ends of the finite doubles on. -/
def summarize : List Float → Option Summary
  | [] => none
  | first :: rest =>
      let total := (first :: rest).foldl (· + ·) (-0.0)
      some
        { average := total / (rest.length + 1).toFloat
          greatest := Summary.greatestOf lowest (first :: rest)
          least := Summary.leastOf highest (first :: rest)
          total }

def aggregate (store : MemoryStore) (clusterId metricId : Int) (hostname : String)
    (since : Instant) : Option Summary :=
  summarize ((store.samples.filter fun sample =>
    sample.belongs clusterId metricId hostname since).map (·.value))

def countMatching (store : MemoryStore) (clusterId : Int) (hostname search : String)
    (since : Instant) : Nat :=
  (store.logs.filter fun line =>
    line.belongs clusterId hostname since && LogSearch.holdsFully search line.text).length

/-- The newest passing record of a check; of one time, the one written last. -/
def lastGood (store : MemoryStore) (clusterId checkId : Int) : Option CycleRecord :=
  (store.records.filter fun record =>
    record.belongs clusterId checkId && !record.failing).foldl
      (fun best record =>
        match best with
        | none => some record
        | some other => if other.created ≤ record.created then some record else some other)
      none

def violationsSince (store : MemoryStore) (now : Instant) (clusterId checkId : Int)
    (bound : Instant) : List CycleRecord :=
  CycleRecord.newestFirst (store.records.filter fun record =>
    record.belongs clusterId checkId && record.violatesAfter bound now)

def retentionDays (store : MemoryStore) (clusterId : Int) (table : String) : Option Nat :=
  store.retention.lookup (clusterId, table)

def history (store : MemoryStore) (checkId : Int) : List CycleRecord :=
  store.records.filter fun record => record.checkId == checkId

def health (store : MemoryStore) : Health :=
  { message := "in-memory backend operational"
    details :=
      [("checks", toString store.checks.length), ("hosts", toString store.hosts.length),
       ("violations", toString store.records.length)] }

end MemoryStore

end FleetMonitor
