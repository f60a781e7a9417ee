import FleetMonitor.Check.Definition
import FleetMonitor.CycleRecord
import FleetMonitor.Host
import FleetMonitor.Query
import FleetMonitor.Span

/-!
# Stores

What all stores have in common: the ways they fail, the summary of a series of
samples, and the oldest report of a host that still counts.
-/

set_option autoImplicit false

namespace FleetMonitor

inductive StoreError where
  | unreachable (reason : String)
  | failed (reason : String)
  | notFound
  | migration (reason : String)
  | invalidQuery (reason : String)
  | malformedColumn (reason : String)
  | io (reason : String)
deriving DecidableEq, Repr

namespace StoreError

def message : StoreError → String
  | unreachable reason => "cannot open check store: " ++ reason
  | failed reason => "check store query failed: " ++ reason
  | notFound => "record not found"
  | migration reason => "schema migration failed: " ++ reason
  | invalidQuery reason => "invalid host query: " ++ reason
  | malformedColumn reason => "malformed JSON column in check store: " ++ reason
  | io reason => "check store I/O error: " ++ reason

/-- Whether the cause lies outside of the store, in the file system. -/
def isExternal : StoreError → Bool
  | io _ => true
  | _ => false

def ofQuery (e : QueryError) : StoreError :=
  invalidQuery e.message

def ofDecode (e : DecodeError) : StoreError :=
  malformedColumn e.message

end StoreError

structure Summary where
  average : Float
  greatest : Float
  least : Float
  total : Float
deriving Repr, Inhabited

namespace Summary

def greatestOf (first : Float) (values : List Float) : Float :=
  values.foldl (fun a b => if a < b then b else a) first

def leastOf (first : Float) (values : List Float) : Float :=
  values.foldl (fun a b => if b < a then b else a) first

def value (summary : Summary) : Aggregate → Float
  | .avg => summary.average
  | .max => summary.greatest
  | .min => summary.least
  | .sum => summary.total

end Summary

structure Sample where
  clusterId : Int
  metricId : Int
  hostname : String
  created : Instant
  value : Float
deriving Repr, Inhabited

def Sample.belongs (sample : Sample) (clusterId metricId : Int) (hostname : String)
    (since : Instant) : Bool :=
  sample.clusterId == clusterId && sample.metricId == metricId &&
    sample.hostname == hostname && decide (since ≤ sample.created)

structure LogLine where
  clusterId : Int
  hostname : String
  created : Instant
  text : String
deriving Repr, Inhabited

def LogLine.belongs (line : LogLine) (clusterId : Int) (hostname : String) (since : Instant) :
    Bool :=
  line.clusterId == clusterId && line.hostname == hostname && decide (since ≤ line.created)

structure Health where
  message : String
  details : List (String × String)
deriving DecidableEq, Repr

/-- Hosts that were silent for longer than a span do not count.  A span that
reaches back before all time excludes nobody. -/
def freshnessBound (freshness : Span) (now : Instant) : Instant :=
  if freshness.nanos / 1000000 ≤ 0x7fffffffffffffff then
    let bound : Instant := ⟨now.micros - freshness.micros⟩
    if bound.inRange then bound else .first
  else .first

def putSorted {κ α : Type} [BEq κ] (before : κ → κ → Bool) (key : κ) (value : α) :
    List (κ × α) → List (κ × α)
  | [] => [(key, value)]
  | entry :: rest =>
      if entry.1 == key then (key, value) :: rest
      else if before entry.1 key then entry :: putSorted before key value rest
      else (key, value) :: entry :: rest

def putRow (rows : List (Int × StoredCheck)) (row : StoredCheck) : List (Int × StoredCheck) :=
  putSorted (fun a b => decide (a < b)) row.id row rows

def putHost (hosts : List ((Int × String) × Host)) (clusterId : Int) (host : Host) :
    List ((Int × String) × Host) :=
  putSorted (fun a b => decide (a.1 < b.1) || a.1 == b.1 && decide (a.2 < b.2))
    (clusterId, host.name) host hosts

end FleetMonitor
