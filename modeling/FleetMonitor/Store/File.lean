import FleetMonitor.LogSearch
import FleetMonitor.Store.Basic

/-!
# The store in a file

Times are kept in whole milliseconds, and data and expressions as texts that are
read anew.  A store that was closed answers nothing; opened again it has kept
all rows.
-/

set_option autoImplicit false

namespace FleetMonitor

/-- A store whose rows outlive its daemon. -/
structure FileStore where
  path : String
  isOpen : Bool
  checks : List (Int × StoredCheck)
  hosts : List ((Int × String) × Host)
  metrics : List ((Int × String) × Int)
  /-- How many ids of metrics were drawn; every sample draws one. -/
  drawn : Nat
  samples : List Sample
  logs : List LogLine
  records : List CycleRecord
  retention : List (Int × List (String × Nat))
deriving Inhabited

namespace FileStore

def create (path : String) : FileStore :=
  ⟨path, true, [], [], [], 0, [], [], [], []⟩

def openAt (path : String) (usable : Bool) : Except StoreError FileStore :=
  if usable then .ok (create path)
  else
    .error (.unreachable
      "error returned from database: (code: 14) unable to open database file")

def close (store : FileStore) : FileStore :=
  { store with isOpen := false }

def reopen (store : FileStore) : FileStore :=
  { store with isOpen := true }

def closedReason : String :=
  "attempted to acquire a connection on a closed pool"

def whenOpen {α : Type} (store : FileStore) (answer : α) : Except StoreError α :=
  if store.isOpen then .ok answer else .error (.unreachable closedReason)

/-- Data as it is read back from the text that was written. -/
def rereadData (data : List (String × Json)) : List (String × Json) :=
  match Json.read? (Json.object data).text with
  | some (.object members) => members
  | _ => data

def rereadExpressions (expressions : List Expression) : List Expression :=
  match Decoder.ofText (Decoder.list Expression.decode)
      (Json.array (expressions.map Expression.encode)).text with
  | .ok expressions => expressions
  | .error _ => expressions

def hostRow (host : Host) : Host :=
  { host with updated := host.updated.floorMilli, data := rereadData host.data }

def recordRow (record : CycleRecord) : CycleRecord :=
  { record with
    created := record.created.floorMilli
    expires := record.expires.floorMilli
    expressions := rereadExpressions record.expressions }

def insertCheck (store : FileStore) (check : Check) : Except StoreError FileStore :=
  store.whenOpen { store with checks := putRow store.checks (StoredCheck.ofCheck check) }

def upsertHost (store : FileStore) (clusterId : Int) (host : Host) :
    Except StoreError FileStore :=
  store.whenOpen { store with hosts := putHost store.hosts clusterId (hostRow host) }

def withMetric (store : FileStore) (clusterId : Int) (key : String) :
    Int × List ((Int × String) × Int) :=
  match store.metrics.lookup (clusterId, key) with
  | some id => (id, store.metrics)
  | none =>
      let id : Int := store.drawn + 1
      (id, store.metrics ++ [((clusterId, key), id)])

/-- A value as a row holds it: zero has no sign. -/
def valueRow (value : Float) : Float :=
  if value == 0 then 0 else value

def addSample (store : FileStore) (clusterId : Int) (key hostname : String)
    (created : Instant) (value : Float) : Except StoreError FileStore :=
  let (metricId, metrics) := store.withMetric clusterId key
  store.whenOpen
    { store with
      metrics
      drawn := store.drawn + 1
      samples :=
        store.samples ++
          [⟨clusterId, metricId, hostname, created.floorMilli, valueRow value⟩] }

def addLog (store : FileStore) (line : LogLine) : Except StoreError FileStore :=
  store.whenOpen
    { store with logs := store.logs ++ [{ line with created := line.created.floorMilli }] }

def retentionMap (store : FileStore) (clusterId : Int) :
    Except StoreError (List (String × Nat)) :=
  store.whenOpen ((store.retention.lookup clusterId).getD [])

def putRetentionMap (store : FileStore) (clusterId : Int) (days : List (String × Nat)) :
    Except StoreError FileStore :=
  store.whenOpen
    { store with
      retention :=
        (clusterId, days) :: store.retention.filter fun entry => entry.1 != clusterId }

def withDays (table : String) (days : Nat) (all : List (String × Nat)) : List (String × Nat) :=
  (table, days) :: all.filter fun entry => entry.1 != table

/-- Sets the days of retention of a table: the days of the cluster are read,
changed and written as a whole. -/
def setRetention (store : FileStore) (clusterId : Int) (table : String) (days : Nat) :
    Except StoreError FileStore := do
  let all ← store.retentionMap clusterId
  store.putRetentionMap clusterId (withDays table days all)

def addRecord (store : FileStore) (record : CycleRecord) : Except StoreError FileStore :=
  store.whenOpen { store with records := store.records ++ [recordRow record] }

def allChecks (store : FileStore) : Except StoreError (List StoredCheck) :=
  store.whenOpen (store.checks.map (·.2))

def queryHosts (store : FileStore) (now : Instant) (clusterId : Int) (query : String)
    (freshness : Span) : Except StoreError (List Host) := do
  let query ← (Query.read query).mapError .ofQuery
  let bound := (freshnessBound freshness now).floorMilli
  store.whenOpen ((store.hosts.filter fun entry =>
    entry.1.1 == clusterId && decide (bound ≤ entry.2.updated) &&
      query.matchesHost entry.2).map (·.2))

/-- The hosts of the given names, in their order.  For no names nothing is
read. -/
def hostsByNames (store : FileStore) (clusterId : Int) (names : List String) :
    Except StoreError (List Host) :=
  if names.isEmpty then .ok []
  else store.whenOpen (names.filterMap fun name => store.hosts.lookup (clusterId, name))

def metricId? (store : FileStore) (clusterId : Int) (key : String) :
    Except StoreError (Option Int) :=
  store.whenOpen (store.metrics.lookup (clusterId, key))

/-- A sum that carries the error of its roundings along. -/
structure Balanced where
  sum : Float
  error : Float

def Balanced.add (balanced : Balanced) (value : Float) : Balanced :=
  let next := balanced.sum + value
  let lost :=
    if value.abs < balanced.sum.abs then (balanced.sum - next) + value
    else (value - next) + balanced.sum
  ⟨next, balanced.error + lost⟩

/-- The sum, corrected if the collected error is a number. -/
def Balanced.total (balanced : Balanced) : Float :=
  if balanced.error.isFinite then balanced.sum + balanced.error else balanced.sum

def summarize : List Float → Option Summary
  | [] => none
  | first :: rest =>
      let total := ((first :: rest).foldl Balanced.add ⟨0, 0⟩).total
      some
        { average := total / (rest.length + 1).toFloat
          greatest := Summary.greatestOf first rest
          least := Summary.leastOf first rest
          total }

def aggregate (store : FileStore) (clusterId metricId : Int) (hostname : String)
    (since : Instant) : Except StoreError (Option Summary) :=
  let series := store.samples.filter fun sample =>
    sample.belongs clusterId metricId hostname since.floorMilli
  store.whenOpen (summarize
    ((series.mergeSort fun a b => decide (a.created ≤ b.created)).map (·.value)))

def depthLimit : Nat := 1000

/-- How deep the conditions of a search are nested: one for each term, and four for the
place and the time of a line. -/
def searchDepth (search : String) : Nat :=
  (LogSearch.terms search).length + 4

def depthReason : String :=
  "error returned from database: (code: 1) Expression tree is too large (maximum depth " ++
    toString depthLimit ++ ")"

def countMatching (store : FileStore) (clusterId : Int) (hostname search : String)
    (since : Instant) : Except StoreError Nat := do
  let count ← store.whenOpen (store.logs.filter fun line =>
    line.belongs clusterId hostname since.floorMilli &&
      LogSearch.holdsInAscii search line.text).length
  if depthLimit < searchDepth search then .error (.failed depthReason) else .ok count

/-- The newest passing record of a check; of one time, the one written first. -/
def lastGood (store : FileStore) (clusterId checkId : Int) :
    Except StoreError (Option CycleRecord) :=
  store.whenOpen (CycleRecord.newestFirst (store.records.filter fun record =>
    record.belongs clusterId checkId && !record.failing)).head?

def violationsSince (store : FileStore) (now : Instant) (clusterId checkId : Int)
    (bound : Instant) : Except StoreError (List CycleRecord) :=
  store.whenOpen (CycleRecord.newestFirst (store.records.filter fun record =>
    record.belongs clusterId checkId &&
      record.violatesAfter bound.floorMilli now.floorMilli))

def retentionDays (store : FileStore) (clusterId : Int) (table : String) :
    Except StoreError (Option Nat) := do
  pure ((← store.retentionMap clusterId).lookup table)

def health (store : FileStore) : Except StoreError Health :=
  store.whenOpen
    { message := "SQLite backend operational"
      details := [("checks", toString store.checks.length), ("path", store.path)] }

end FileStore

end FleetMonitor
