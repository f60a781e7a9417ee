import FleetMonitor.Delivery
import FleetMonitor.Store.Basic

/-!
# Routines

A routine is what a worker does, told as the requests that it makes of its
surroundings and what it does with each answer.  Nothing is said here of how
requests are answered, how long that takes, or what happens in between; so the
same routine can be run alone, among others, and against any pattern of failures.
-/

set_option autoImplicit false

namespace FleetMonitor

inductive Probe where
  | ping (probe : PingProbe)
  | ssh (probe : SshProbe)
  | http (probe : HttpProbe)

def Probe.minHost : Probe → Nat
  | ping probe => probe.minHost
  | ssh probe => probe.minHost
  | http probe => probe.minHost

inductive Reach where
  | reachable
  | unreachable (reason : String)
deriving DecidableEq, Repr, Inhabited

def Reach.isBad : Reach → Bool
  | reachable => false
  | unreachable _ => true

inductive Request where
  | now
  | queryHosts (clusterId : Int) (query : String) (freshness : Span)
  | hostsByNames (clusterId : Int) (names : List String)
  | metricId (clusterId : Int) (key : String)
  | aggregate (clusterId metricId : Int) (hostname : String) (minutes : Int)
  | countMatching (clusterId : Int) (hostname search : String) (since : Instant)
  /-- All targets are tried at once. -/
  | probe (probe : Probe) (targets : List String)
  | retentionDays (clusterId : Int) (table : String)
  /-- A record is to live for a number of seconds from its creation. -/
  | create (clusterId checkId : Int) (failing : Bool) (expressions : List Expression)
      (seconds : Int)
  | lastGood (clusterId checkId : Int)
  | violationsSince (clusterId checkId : Int) (bound : Instant)
  | incidentKey (checkId triggerId : Int)
  | holdKey (checkId triggerId : Int) (key : String)
  | dropKey (checkId triggerId : Int)
  | mail (mail : Mail)
  | page (page : Page)

/-- An answer of a store, or nothing if a time that it needs is out of range. -/
abbrev Timely (α : Type) := Option (Except StoreError α)

@[reducible] def Request.Answer : Request → Type
  | now => Instant
  | queryHosts _ _ _ => Except StoreError (List Host)
  | hostsByNames _ _ => Except StoreError (List Host)
  | metricId _ _ => Except StoreError (Option Int)
  | aggregate _ _ _ _ => Timely (Option Summary)
  | countMatching _ _ _ _ => Except StoreError Nat
  | probe _ targets => Fin targets.length → Reach
  | retentionDays _ _ => Except StoreError (Option Nat)
  | create _ _ _ _ _ => Timely CycleRecord
  | lastGood _ _ => Except StoreError (Option CycleRecord)
  | violationsSince _ _ _ => Except StoreError (List CycleRecord)
  | incidentKey _ _ => Option String
  | holdKey _ _ _ => Unit
  | dropKey _ _ => Unit
  | mail _ => Except String Unit
  | page _ => Except String String

/-- A course of requests that ends with a value, or that breaks off because a
time it needs is out of range. -/
inductive Routine (α : Type) where
  | done (value : α)
  | broken
  | ask (request : Request) (next : request.Answer → Routine α)

namespace Routine

variable {α β : Type}

def bind : Routine α → (α → Routine β) → Routine β
  | done value, next => next value
  | broken, _ => broken
  | ask request rest, next => ask request fun answer => bind (rest answer) next

instance : Monad Routine where
  pure := done
  bind := bind

def request (request : Request) : Routine request.Answer :=
  ask request done

def within : Option α → Routine α
  | some value => done value
  | none => broken

/-- Runs a routine against surroundings that answer every request at once.
There is no value if the routine broke off. -/
def run {σ : Type} (answer : (request : Request) → σ → request.Answer × σ) :
    Routine α → σ → Option α × σ
  | done value, s => (some value, s)
  | broken, s => (none, s)
  | ask request next, s =>
      let (given, s) := answer request s
      run answer (next given) s

theorem run_bind {σ : Type} (answer : (request : Request) → σ → request.Answer × σ)
    (routine : Routine α) (next : α → Routine β) (s : σ) :
    (routine.bind next).run answer s =
      match routine.run answer s with
      | (some value, s) => (next value).run answer s
      | (none, s) => (none, s) := by
  induction routine generalizing s with
  | done value => rfl
  | broken => rfl
  | ask request rest ih => exact ih _ _

end Routine

end FleetMonitor
