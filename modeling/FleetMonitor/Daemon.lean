import FleetMonitor.Bus
import FleetMonitor.Crew
import FleetMonitor.Dealing
import FleetMonitor.Peers
import FleetMonitor.Settings

/-!
# Daemons

A daemon announces itself on the bus, listens for others, and keeps its crew in
line with its share of the checks.  Three parts of it run by themselves: the
publisher of heartbeats, their receiver, and the steward of the checks.  A part
that cannot go on ends for good, and the others go on without it.
-/

set_option autoImplicit false

namespace FleetMonitor

def heartbeatTopic : String := "peers-heartbeat"

def refetchTopic : String := "checks-refetch"

/-- What a steward may be told.  An answer goes under the number of the asker. -/
inductive Errand where
  | refetch (asker : Option Nat)
  | assigned (asker : Nat)
  | shutdown
deriving DecidableEq, Repr

/-- The part of a daemon that keeps its crew in line with its share of the
checks. -/
structure Steward where
  ticker : Ticker
  calls : Reader
  queue : List Errand
  /-- It takes no errands any more and waits for the crew to end. -/
  closing : Bool
deriving DecidableEq, Repr

structure RefetchError where
  cause : StoreError
deriving DecidableEq, Repr

def RefetchError.message (e : RefetchError) : String :=
  "failed to load check definitions: " ++ e.cause.message

inductive StewardAnswer where
  | checks (asker : Nat) (result : Except RefetchError (List Int))
  | lost (asker : Nat) (cause : AskError)

def StewardAnswer.asker : StewardAnswer → Nat
  | checks asker _ => asker
  | lost asker _ => asker

/-- A daemon.  Parts that ended are missing. -/
structure Daemon where
  settings : Settings
  peers : Peers
  publisher : Option Ticker
  receiver : Option Reader
  steward : Option Steward
  crew : Crew

namespace Daemon

def address (daemon : Daemon) : String :=
  daemon.settings.address

def pipeline (settings : Settings) (dispatcher : Dispatcher) : Pipeline where
  freshness := settings.checks.freshness
  retentionDays := settings.checks.retentionDays
  dispatcher := dispatcher

/-- A daemon that starts.  A part whose ticker would have no period does not. -/
def spawn (settings : Settings) (dispatcher : Dispatcher) (bus : Bus) (now : Span) : Daemon where
  settings := settings
  peers := .empty
  publisher := Ticker.start? now settings.peers.heartbeatInterval
  receiver := some (bus.subscribe heartbeatTopic)
  steward :=
    (Ticker.start? now settings.checks.listInterval).map fun ticker =>
      ⟨ticker, bus.subscribe refetchTopic, [], false⟩
  crew := .empty (pipeline settings dispatcher)

def tell? (daemon : Daemon) (errand : Errand) : Option Daemon :=
  daemon.steward.map fun steward =>
    { daemon with steward := some { steward with queue := steward.queue ++ [errand] } }

/-- Notes that a daemon was heard of.  There is no time so late that its presence
could not be told: otherwise nothing is noted. -/
def hear? (daemon : Daemon) (now : Span) (address : String) : Option (Bool × Daemon) :=
  (now.after? daemon.settings.peers.lifetime).map fun _ =>
    let (absent, peers) := daemon.peers.hear now address daemon.settings.peers.lifetime
    (absent, { daemon with peers })

def endPublisher (daemon : Daemon) : Daemon :=
  { daemon with publisher := none }

def endReceiver (daemon : Daemon) : Daemon :=
  { daemon with receiver := none }

/-- The publisher takes a tick: the daemon counts as present to itself, announces
itself, and drops the peers that fell silent.  If there were any, the checks are to
be dealt anew. -/
def beat (daemon : Daemon) (bus : Bus) (now : Span) (ticker : Ticker) : Daemon × Bus :=
  match ticker.next? now, daemon.hear? now daemon.address with
  | some ticker, some (_, daemon) =>
      let (gone, peers) := daemon.peers.purge now
      let daemon := { daemon with peers, publisher := some ticker }
      (if gone = 0 then daemon else (daemon.tell? (.refetch none)).getD daemon.endPublisher,
        bus.publish heartbeatTopic daemon.address)
  | _, _ => (daemon.endPublisher, bus)

def publish (daemon : Daemon) (bus : Bus) (now : Span) : Daemon × Bus :=
  match daemon.publisher with
  | some ticker => if ticker.due now then daemon.beat bus now ticker else (daemon, bus)
  | none => (daemon, bus)

/-- The receiver takes a heartbeat.  If it is another daemon's that was absent, the
checks are to be dealt anew. -/
def takeHeartbeat (daemon : Daemon) (now : Span) (address : String) : Daemon :=
  match daemon.hear? now address with
  | some (absent, daemon) =>
      if absent && address != daemon.address then
        (daemon.tell? (.refetch none)).getD daemon.endReceiver
      else daemon
  | none => daemon.endReceiver

/-- The receiver takes the heartbeats that wait for it; `fuel` bounds their number.
Heartbeats that it missed are lost. -/
def receive (daemon : Daemon) (bus : Bus) (now : Span) : Nat → Daemon
  | 0 => daemon
  | fuel + 1 =>
      match daemon.receiver with
      | none => daemon
      | some reader =>
          match bus.receive reader with
          | (.nothing, _) => daemon
          | (.lagged _, reader) => receive { daemon with receiver := some reader } bus now fuel
          | (.message address, reader) =>
              receive ({ daemon with receiver := some reader }.takeHeartbeat now address) bus now
                fuel

def share (daemon : Daemon) (now : Span) (rows : List StoredCheck) : List Check :=
  Dealing.hand (Dealing.readable rows) (daemon.peers.daemons now daemon.address) daemon.address

def unanswered : List Errand → List StewardAnswer
  | [] => []
  | .refetch (some asker) :: rest =>
      .lost asker (.unanswered "refetch result") :: unanswered rest
  | .assigned asker :: rest => .lost asker (.unanswered "assigned checks") :: unanswered rest
  | _ :: rest => unanswered rest

/-- The steward breaks off: its errands, and the one it was at, get no answer, and
the crew ends. -/
def breakOff (daemon : Daemon) (current : List Errand) : Daemon × List StewardAnswer :=
  ({ daemon with steward := none, crew := daemon.crew.dismiss },
    unanswered (current ++ (daemon.steward.map (·.queue)).getD []))

/-- Lists the checks and brings the crew in line with the daemon's share.  The answer
says whether that came to its end. -/
def refetch (daemon : Daemon) (now : Span) (s : Surroundings) :
    Except RefetchError (Bool × Daemon) :=
  match s.rows with
  | .error cause => .error ⟨cause⟩
  | .ok rows =>
      let (report, crew) := daemon.crew.apply now (daemon.share now rows)
      .ok (report.isSome, { daemon with crew })

def refetched (daemon : Daemon) (now : Span) (s : Surroundings) : Daemon × List StewardAnswer :=
  match daemon.refetch now s with
  | .error _ => (daemon, [])
  | .ok (true, daemon) => (daemon, [])
  | .ok (false, daemon) => daemon.breakOff []

def answerRefetch (asker : Option Nat) (result : Except RefetchError (List Int)) :
    List StewardAnswer :=
  (asker.map fun asker => StewardAnswer.checks asker result).toList

def handle (daemon : Daemon) (steward : Steward) (now : Span) (s : Surroundings) :
    Errand → Daemon × List StewardAnswer
  | .refetch asker =>
      match daemon.refetch now s with
      | .error e => (daemon, answerRefetch asker (.error e))
      | .ok (true, daemon) => (daemon, answerRefetch asker (.ok daemon.crew.schedule.running))
      | .ok (false, daemon) => daemon.breakOff [.refetch asker]
  | .assigned asker => (daemon, [.checks asker (.ok daemon.crew.schedule.running)])
  | .shutdown =>
      ({ daemon with
         steward := some { steward with closing := true }, crew := daemon.crew.dismiss }, [])

/-- The next thing that the steward does, if there is any: a tick that is due goes
first, then a call on the bus, then an errand. -/
def attend? (daemon : Daemon) (bus : Bus) (now : Span) (s : Surroundings) :
    Option (Daemon × List StewardAnswer) := do
  let steward ← daemon.steward
  if steward.closing then none
  else if steward.ticker.due now then
    match steward.ticker.next? now with
    | some ticker => some ({ daemon with steward := some { steward with ticker } }.refetched now s)
    | none => some (daemon.breakOff [])
  else
    match bus.receive steward.calls, steward.queue with
    | (.nothing, _), [] => none
    | (.nothing, _), errand :: queue =>
        let steward := { steward with queue }
        some ({ daemon with steward := some steward }.handle steward now s errand)
    | (_, calls), _ =>
        some ({ daemon with steward := some { steward with calls } }.refetched now s)

/-- All that the steward does at an instant; `fuel` bounds the number of things. -/
def attend (daemon : Daemon) (bus : Bus) (now : Span) (s : Surroundings) :
    Nat → Daemon × List StewardAnswer
  | 0 => (daemon, [])
  | fuel + 1 =>
      match daemon.attend? bus now s with
      | none => (daemon, [])
      | some (daemon, answers) =>
          let (daemon, more) := attend daemon bus now s fuel
          (daemon, answers ++ more)

/-- How many things the steward can do at an instant: every tick that is due, every
message that waits and a notice of missed ones, and every errand. -/
def load (daemon : Daemon) (now : Span) : Nat :=
  match daemon.steward with
  | some steward => steward.ticker.backlog now + steward.queue.length + Bus.capacity + 1
  | none => 0

def close (daemon : Daemon) : Daemon × List StewardAnswer :=
  match daemon.steward with
  | some steward =>
      if steward.closing && daemon.crew.isIdle then
        ({ daemon with steward := none }, unanswered steward.queue)
      else (daemon, [])
  | none => (daemon, [])

def stewardWake? (daemon : Daemon) : Option Span :=
  match daemon.steward with
  | some steward => if steward.closing then none else some steward.ticker.deadline.ceilMilli
  | none => none

def wake? (daemon : Daemon) : Option Span :=
  Span.earliest
    [daemon.publisher.map fun ticker => ticker.deadline.ceilMilli, daemon.stewardWake?,
      daemon.crew.wake?].reduceOption

/-- Tells the daemon to end: it announces itself no more, listens no more, and lets
its crew end. -/
def dismiss (daemon : Daemon) : Daemon :=
  let silent := daemon.endPublisher.endReceiver
  (silent.tell? .shutdown).getD silent

def hasEnded (daemon : Daemon) : Bool :=
  daemon.steward.isNone

end Daemon

end FleetMonitor
