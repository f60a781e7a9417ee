import FleetMonitor.Daemon

/-!
# Fleets

Daemons at work in common surroundings: they share the bus, the store and the ways
out, and nothing else.  At an instant all publishers go first, then all receivers,
then the stewards, then the crews.
-/

set_option autoImplicit false

namespace FleetMonitor

/-- Daemons and what they share, with the answers that were given and the number of
the next asker. -/
structure Fleet where
  daemons : List Daemon
  bus : Bus
  s : Surroundings
  answers : List StewardAnswer
  nextAsker : Nat

namespace Fleet

def start (s : Surroundings) : Fleet :=
  ⟨[], .empty, s, [], 0⟩

def publish (now : Span) : List Daemon → Bus → List Daemon × Bus
  | [], bus => ([], bus)
  | daemon :: rest, bus =>
      let (daemon, bus) := daemon.publish bus now
      let (rest, bus) := publish now rest bus
      (daemon :: rest, bus)

def work (now : Span) : List Daemon → Surroundings → List Daemon × Surroundings
  | [], s => ([], s)
  | daemon :: rest, s =>
      let (crew, _, s) := daemon.crew.settle now s
      let (rest, s) := work now rest s
      ({ daemon with crew } :: rest, s)

def settle (now : Span) (fleet : Fleet) : Fleet :=
  let (daemons, bus) := publish now fleet.daemons fleet.bus
  let daemons := daemons.map fun daemon => daemon.receive bus now (Bus.capacity + 1)
  let attended := daemons.map fun daemon => daemon.attend bus now fleet.s (daemon.load now)
  let (daemons, s) := work now (attended.map (·.1)) fleet.s
  let closed := daemons.map Daemon.close
  { fleet with
    daemons := closed.map (·.1), bus, s
    answers := fleet.answers ++ attended.flatMap (·.2) ++ closed.flatMap (·.2) }

def timed : Timed Fleet where
  settle := settle
  wake? fleet := Span.earliest (fleet.daemons.filterMap Daemon.wake?)

def spawn (fleet : Fleet) (settings : Settings) (dispatcher : Dispatcher) (now : Span) : Fleet :=
  { fleet with daemons := fleet.daemons ++ [.spawn settings dispatcher fleet.bus now] }

def broadcast (fleet : Fleet) (topic message : String) : Fleet :=
  { fleet with bus := fleet.bus.publish topic message }

def replace (fleet : Fleet) (place : Nat) (daemon : Daemon) : Fleet :=
  { fleet with daemons := fleet.daemons.set place daemon }

def answerFor? (fleet : Fleet) (asker : Nat) : Option StewardAnswer :=
  fleet.answers.find? fun answer => answer.asker == asker

/-- Asks the steward of a daemon something and waits for the answer.  `patience`
bounds the instants at which the fleet acts until then. -/
def ask (patience : Nat) (moment : Moment Fleet) (place : Nat) (name : String)
    (question : Nat → Errand) : Except AskError (Option StewardAnswer × Moment Fleet) :=
  let asker := moment.state.nextAsker
  match (moment.state.daemons[place]?).bind fun daemon => daemon.tell? (question asker) with
  | none => .error (.unheard name)
  | some daemon =>
      let fleet := { moment.state.replace place daemon with nextAsker := asker + 1 }
      let later := timed.await (fun fleet => (fleet.answerFor? asker).isSome) patience
        { moment with state := fleet }
      .ok (later.state.answerFor? asker, later)

def shutdown (patience : Nat) (moment : Moment Fleet) (place : Nat) : Moment Fleet :=
  match moment.state.daemons[place]? with
  | none => moment
  | some daemon =>
      timed.await
        (fun fleet => (fleet.daemons[place]?).all Daemon.hasEnded)
        patience { moment with state := moment.state.replace place daemon.dismiss }

end Fleet

end FleetMonitor
