import FleetMonitor.Routine
import FleetMonitor.Store.File
import FleetMonitor.Store.Memory

/-!
# One store or the other

The operations that both stores have, with the failures of the one in a file.
-/

set_option autoImplicit false

namespace FleetMonitor

inductive Store where
  | memory (store : MemoryStore)
  | file (store : FileStore)

namespace Store

def insertCheck (check : Check) : Store → Except StoreError Store
  | memory store => .ok (memory (store.insertCheck check))
  | file store => (store.insertCheck check).map file

/-- Drops a check; a file keeps it. -/
def removeCheck (id : Int) : Store → Store
  | memory store => memory (store.removeCheck id)
  | file store => file store

def upsertHost (clusterId : Int) (host : Host) : Store → Except StoreError Store
  | memory store => .ok (memory (store.upsertHost clusterId host))
  | file store => (store.upsertHost clusterId host).map file

def addSample (clusterId : Int) (key hostname : String) (created : Instant) (value : Float) :
    Store → Except StoreError Store
  | memory store => .ok (memory (store.addSample clusterId key hostname created value))
  | file store => (store.addSample clusterId key hostname created value).map file

def addLog (line : LogLine) : Store → Except StoreError Store
  | memory store => .ok (memory (store.addLog line))
  | file store => (store.addLog line).map file

def setRetention (clusterId : Int) (table : String) (days : Nat) :
    Store → Except StoreError Store
  | memory store => .ok (memory (store.setRetention clusterId table days))
  | file store => (store.setRetention clusterId table days).map file

def addRecord (record : CycleRecord) : Store → Except StoreError Store
  | memory store => .ok (memory (store.addRecord record))
  | file store => (store.addRecord record).map file

def allChecks : Store → Except StoreError (List StoredCheck)
  | memory store => .ok store.allChecks
  | file store => store.allChecks

def queryHosts (now : Instant) (clusterId : Int) (query : String) (freshness : Span) :
    Store → Except StoreError (List Host)
  | memory store => store.queryHosts now clusterId query freshness
  | file store => store.queryHosts now clusterId query freshness

def hostsByNames (clusterId : Int) (names : List String) :
    Store → Except StoreError (List Host)
  | memory store => .ok (store.hostsByNames clusterId names)
  | file store => store.hostsByNames clusterId names

def metricId? (clusterId : Int) (key : String) : Store → Except StoreError (Option Int)
  | memory store => .ok (store.metricId? clusterId key)
  | file store => store.metricId? clusterId key

def aggregate (now : Instant) (clusterId metricId : Int) (hostname : String) (minutes : Int)
    (store : Store) : Timely (Option Summary) :=
  (now.minutesBefore? minutes).map fun since =>
    match store with
    | memory store => .ok (store.aggregate clusterId metricId hostname since)
    | file store => store.aggregate clusterId metricId hostname since

def countMatching (clusterId : Int) (hostname search : String) (since : Instant) :
    Store → Except StoreError Nat
  | memory store => .ok (store.countMatching clusterId hostname search since)
  | file store => store.countMatching clusterId hostname search since

/-- Writes a record that is created now and lives for a number of seconds.  The
answer is the record as it was meant, with its times uncut. -/
def create (now : Instant) (clusterId checkId : Int) (failing : Bool)
    (expressions : List Expression) (seconds : Int) (store : Store) :
    Timely (CycleRecord × Store) :=
  (now.plus? seconds).map fun expires => do
    let record : CycleRecord := ⟨clusterId, checkId, now, failing, expressions, expires⟩
    pure (record, ← store.addRecord record)

def lastGood (clusterId checkId : Int) : Store → Except StoreError (Option CycleRecord)
  | memory store => .ok (store.lastGood clusterId checkId)
  | file store => store.lastGood clusterId checkId

def violationsSince (now : Instant) (clusterId checkId : Int) (bound : Instant) :
    Store → Except StoreError (List CycleRecord)
  | memory store => .ok (store.violationsSince now clusterId checkId bound)
  | file store => store.violationsSince now clusterId checkId bound

def retentionDays (clusterId : Int) (table : String) : Store → Except StoreError (Option Nat)
  | memory store => .ok (store.retentionDays clusterId table)
  | file store => store.retentionDays clusterId table

def health : Store → Except StoreError Health
  | memory store => .ok store.health
  | file store => store.health

def close : Store → Store
  | memory store => memory store
  | file store => file store.close

def reopen : Store → Store
  | memory store => memory store
  | file store => file store.reopen

end Store

end FleetMonitor
