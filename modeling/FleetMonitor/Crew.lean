import FleetMonitor.Schedule
import FleetMonitor.Surroundings
import FleetMonitor.Timeline

/-!
# Crews

The workers of one daemon at work: each goes on as far as it can, in the order in
which they started.  They share the store and the keys of open incidents.
-/

set_option autoImplicit false

namespace FleetMonitor

structure Crew where
  pipeline : Pipeline
  schedule : Schedule
  keys : IncidentKeys

/-- A cycle in flight goes on until it ends or waits again. -/
def Worker.resume (worker : Worker) (asker : Option Nat) (rest : CycleRoutine) (now : Span)
    (s : Surroundings) : Worker × List Answer × Surroundings :=
  match rest.proceed s.later with
  | (.finished (some result), s) =>
      let (worker, answers) := worker.finish asker result
      (worker, answers, s)
  | (.finished none, s) =>
      let (worker, answers) := worker.breakOff asker
      (worker, answers, s)
  | (.waiting rest, s) =>
      ({ worker with stage := .busy asker rest ⟨now.nanos + s.probeDelay.nanos⟩ }, [], s)

def Worker.step? (pipeline : Pipeline) (now : Span) (worker : Worker) (s : Surroundings) :
    Option (Worker × List Answer × Surroundings) :=
  match worker.stage with
  | .ended => none
  | .busy asker rest wake =>
      if wake.nanos ≤ now.nanos then some (worker.resume asker rest now s) else none
  | .ready =>
      (worker.act? pipeline now).map fun (worker, answers) => (worker, answers, s)

/-- All that a worker does at an instant; `fuel` bounds the number of things. -/
def Worker.run (pipeline : Pipeline) (now : Span) :
    Nat → Worker → Surroundings → Worker × List Answer × Surroundings
  | 0, worker, s => (worker, [], s)
  | fuel + 1, worker, s =>
      match worker.step? pipeline now s with
      | none => (worker, [], s)
      | some (worker, answers, s) =>
          let (worker, more, s) := run pipeline now fuel worker s
          (worker, answers ++ more, s)

/-- How many things a worker can do at an instant: every tick that is due and
every command may begin a cycle, and a cycle may end. -/
def Worker.load (worker : Worker) (now : Span) : Nat :=
  2 * (worker.queue.length + worker.ticker.backlog now) + 2

namespace Crew

def empty (pipeline : Pipeline) : Crew :=
  ⟨pipeline, .empty, .empty⟩

def runAll (pipeline : Pipeline) (now : Span) :
    List (Int × Scheduled) → Surroundings →
      List (Int × Scheduled) × List Answer × Surroundings
  | [], s => ([], [], s)
  | (id, scheduled) :: rest, s =>
      let (worker, answers, s) :=
        scheduled.worker.run pipeline now (scheduled.worker.load now) s
      let (rest, more, s) := runAll pipeline now rest s
      ((id, { scheduled with worker }) :: rest, answers ++ more, s)

def settle (crew : Crew) (now : Span) (s : Surroundings) : Crew × List Answer × Surroundings :=
  let (workers, answers, s) :=
    runAll crew.pipeline now crew.schedule.workers { s with keys := crew.keys }
  ({ crew with schedule := ⟨workers⟩, keys := s.keys }, answers, s)

def wake? (crew : Crew) : Option Span :=
  Span.earliest (crew.schedule.workers.filterMap fun entry => entry.2.worker.wake?)

def reconciled (crew : Crew) (r : Reconciliation) : Crew :=
  { crew with schedule := r.schedule, keys := r.keys }

/-- Brings the crew in line with a list of checks.  There is no report if it broke
off. -/
def apply (crew : Crew) (now : Span) (checks : List Check) : Option ScheduleReport × Crew :=
  let r := crew.schedule.apply crew.keys now checks
  (r.report?, crew.reconciled r)

def tell? (crew : Crew) (id : Int) (command : Command) : Option Crew := do
  let scheduled ← crew.schedule.find? id
  let worker ← scheduled.worker.tell? command
  some { crew with schedule := crew.schedule.replace id { scheduled with worker } }

def dismiss (crew : Crew) : Crew :=
  { crew with
    schedule :=
      ⟨crew.schedule.workers.map fun (id, scheduled) =>
        (id, { scheduled with worker := (scheduled.worker.tell? .shutdown).getD scheduled.worker })⟩ }

def isIdle (crew : Crew) : Bool :=
  crew.schedule.workers.all fun entry => entry.2.worker.hasEnded

end Crew

/-- A crew in its surroundings, with the answers that were given and the number of
the next asker. -/
structure CrewWorld where
  crew : Crew
  s : Surroundings
  answers : List Answer
  nextAsker : Nat

namespace CrewWorld

def start (pipeline : Pipeline) (s : Surroundings) : CrewWorld :=
  ⟨.empty pipeline, s, [], 0⟩

def timed : Timed CrewWorld where
  settle now world :=
    let (crew, answers, s) := world.crew.settle now world.s
    { world with crew, s, answers := world.answers ++ answers }
  wake? world := world.crew.wake?

def answerFor? (world : CrewWorld) (asker : Nat) : Option Answer :=
  world.answers.find? fun answer => answer.asker == asker

def hasRoom (id : Int) (world : CrewWorld) : Bool :=
  (world.crew.schedule.find? id).all fun scheduled => !scheduled.worker.isFull

/-- Waits until a worker has room for a command or listens no more.  `patience` bounds
the instants at which the crew acts until then. -/
def awaitRoom (patience : Nat) (moment : Moment CrewWorld) (id : Int) : Moment CrewWorld :=
  if moment.state.hasRoom id then moment else timed.await (hasRoom id) patience moment

def tell (patience : Nat) (moment : Moment CrewWorld) (id : Int) (command : Command) :
    Except AskError Unit × Moment CrewWorld :=
  let later := awaitRoom patience moment id
  match later.state.crew.tell? id command with
  | some crew => (.ok (), { later with state := { later.state with crew } })
  | none => (.error (.unheard command.name), later)

def ask (patience : Nat) (moment : Moment CrewWorld) (id : Int) (question : Nat → Command) :
    Except AskError (Option Answer) × Moment CrewWorld :=
  let asker := moment.state.nextAsker
  match tell patience moment id (question asker) with
  | (.error e, later) => (.error e, later)
  | (.ok (), told) =>
      let later := timed.await (fun world => (world.answerFor? asker).isSome) patience
        { told with state := { told.state with nextAsker := asker + 1 } }
      (.ok (later.state.answerFor? asker), later)

/-- Brings one check in line; a worker that has to be told of it is waited for. -/
def assign (patience : Nat) (r : Reconciliation) (moment : Moment CrewWorld) (check : Check) :
    Reconciliation × Moment CrewWorld :=
  let put (r : Reconciliation) (moment : Moment CrewWorld) : Moment CrewWorld :=
    { moment with state := { moment.state with crew := moment.state.crew.reconciled r } }
  match check.period? with
  | some (.ok period) =>
      if !r.broken && r.blocks check then
        let r := r.forgetRemoved check
        let later := awaitRoom patience (put r moment) check.id
        let crew := later.state.crew
        let r := ({ r with schedule := crew.schedule, keys := crew.keys }).tell check period later.now
        (r, put r later)
      else
        let r := r.assign moment.now check
        (r, put r moment)
  | _ =>
      let r := r.assign moment.now check
      (r, put r moment)

def apply (patience : Nat) (moment : Moment CrewWorld) (checks : List Check) :
    Option ScheduleReport × Moment CrewWorld :=
  let crew := moment.state.crew
  let (r, later) :=
    checks.foldl (fun (r, moment) check => assign patience r moment check)
      (crew.schedule.retire crew.keys checks, moment)
  (r.report?, { later with state := { later.state with crew := later.state.crew.reconciled r } })

def shutdown (patience : Nat) (moment : Moment CrewWorld) : Moment CrewWorld :=
  let dismissed := { moment.state with crew := moment.state.crew.dismiss }
  let later := timed.await (fun world => world.crew.isIdle) patience
    { moment with state := dismissed }
  { later with state := { later.state with crew := { later.state.crew with schedule := .empty } } }

end CrewWorld

end FleetMonitor
