import FleetMonitor.Cycle
import FleetMonitor.IncidentKeys
import FleetMonitor.Store

/-!
# Surroundings

All that routines act upon: the clock, the store, the hosts, the ways out, and
the keys of open incidents.  Every operation of the store can be made to fail.
-/

set_option autoImplicit false

namespace FleetMonitor

inductive StoreMethod where
  | allChecks | queryHosts | hostsByNames | metricId | aggregate | countMatching | create
  | lastGood | violationsSince | retentionDays | healthCheck
deriving DecidableEq, Repr

structure Silence where
  ping : List String
  ssh : List String
  http : List String
deriving Repr, Inhabited

def Silence.reach (silence : Silence) (probe : Probe) (hostname : String) : Reach :=
  let down :=
    match probe with
    | .ping _ => silence.ping
    | .ssh _ => silence.ssh
    | .http _ => silence.http
  if down.contains hostname then .unreachable "down" else .reachable

/-- What went out: the mails that were taken and the calls to the pager service
that were made, in order. -/
structure Outbox where
  mails : List Mail
  pages : List Page

structure Surroundings where
  now : Instant
  store : Store
  /-- Rows of checks that others wrote. -/
  foreignRows : List StoredCheck
  faults : List StoreMethod
  silence : Silence
  probeDelay : Span
  mailReply : Mail → Except String Unit
  /-- The answer to a call to the pager service, after so many calls. -/
  pageReply : Nat → Page → Except String String
  outbox : Outbox
  keys : IncidentKeys

namespace Surroundings

def injected : StoreError :=
  .failed "injected"

def guarded {α : Type} (s : Surroundings) (method : StoreMethod)
    (answer : Except StoreError α) : Except StoreError α :=
  if s.faults.contains method then .error injected else answer

def guardedTimely {α : Type} (s : Surroundings) (method : StoreMethod) (answer : Timely α) :
    Timely α :=
  if s.faults.contains method then some (.error injected) else answer

def rows (s : Surroundings) : Except StoreError (List StoredCheck) :=
  s.guarded .allChecks (s.store.allChecks.map (· ++ s.foreignRows))

def create (s : Surroundings) (clusterId checkId : Int) (failing : Bool)
    (expressions : List Expression) (seconds : Int) : Timely CycleRecord × Surroundings :=
  match s.guardedTimely .create
      (s.store.create s.now clusterId checkId failing expressions seconds) with
  | none => (none, s)
  | some (.error e) => (some (.error e), s)
  | some (.ok (record, store)) => (some (.ok record), { s with store })

def takeMail (s : Surroundings) (mail : Mail) : Except String Unit × Surroundings :=
  match s.mailReply mail with
  | .ok () => (.ok (), { s with outbox.mails := s.outbox.mails ++ [mail] })
  | .error reason => (.error reason, s)

def takePage (s : Surroundings) (page : Page) : Except String String × Surroundings :=
  (s.pageReply s.outbox.pages.length page,
    { s with outbox.pages := s.outbox.pages ++ [page] })

def answer : (request : Request) → Surroundings → request.Answer × Surroundings
  | .now, s => (s.now, s)
  | .queryHosts clusterId query freshness, s =>
      (s.guarded .queryHosts (s.store.queryHosts s.now clusterId query freshness), s)
  | .hostsByNames clusterId names, s =>
      (s.guarded .hostsByNames (s.store.hostsByNames clusterId names), s)
  | .metricId clusterId key, s => (s.guarded .metricId (s.store.metricId? clusterId key), s)
  | .aggregate clusterId metricId hostname minutes, s =>
      (s.guardedTimely .aggregate (s.store.aggregate s.now clusterId metricId hostname minutes), s)
  | .countMatching clusterId hostname search since, s =>
      (s.guarded .countMatching (s.store.countMatching clusterId hostname search since), s)
  | .probe probe targets, s => (fun i => s.silence.reach probe (targets.get i), s)
  | .retentionDays clusterId table, s =>
      (s.guarded .retentionDays (s.store.retentionDays clusterId table), s)
  | .create clusterId checkId failing expressions seconds, s =>
      s.create clusterId checkId failing expressions seconds
  | .lastGood clusterId checkId, s =>
      (s.guarded .lastGood (s.store.lastGood clusterId checkId), s)
  | .violationsSince clusterId checkId bound, s =>
      (s.guarded .violationsSince (s.store.violationsSince s.now clusterId checkId bound), s)
  | .incidentKey checkId triggerId, s => (s.keys.get? checkId triggerId, s)
  | .holdKey checkId triggerId key, s => ((), { s with keys := s.keys.hold checkId triggerId key })
  | .dropKey checkId triggerId, s => ((), { s with keys := s.keys.drop checkId triggerId })
  | .mail mail, s => s.takeMail mail
  | .page page, s => s.takePage page

def health (s : Surroundings) : Except StoreError Health :=
  s.guarded .healthCheck s.store.health

end Surroundings

/-- A moment later: what happens then is recorded with a later time. -/
def Surroundings.later (s : Surroundings) : Surroundings :=
  { s with now := ⟨s.now.micros + 1⟩ }

def Routine.runIn {α : Type} (routine : Routine α) (s : Surroundings) :
    Option α × Surroundings :=
  routine.run Surroundings.answer s

inductive Progress (α : Type) where
  | finished (value : Option α)
  | waiting (rest : Routine α)

def Request.isProbe : Request → Bool
  | probe _ _ => true
  | _ => false

/-- Runs a routine to its end or, if probes take time, through the next probe.
What a probe finds is settled when it begins. -/
def Routine.proceed {α : Type} : Routine α → Surroundings → Progress α × Surroundings
  | done value, s => (.finished (some value), s)
  | broken, s => (.finished none, s)
  | ask request next, s =>
      let (given, after) := s.answer request
      if request.isProbe && !s.probeDelay.isZero then (.waiting (next given), after)
      else proceed (next given) after

end FleetMonitor
