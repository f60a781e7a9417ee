import FleetMonitor.Cycle
import FleetMonitor.Ticker

/-!
# Workers

A worker runs the cycle of one check: at every tick, and when it is told to.
Between cycles it takes commands, one at a time.  What it shows of itself is a
value of its own: a worker that broke off shows what it last showed.
-/

set_option autoImplicit false

namespace FleetMonitor

inductive Showing where
  | idle
  | running
  | stopped
deriving DecidableEq, Repr, Inhabited

def Showing.name : Showing → String
  | idle => "Idle"
  | running => "Running"
  | stopped => "Stopped"

structure WorkerStatus where
  checkId : Int
  showing : Showing
  cycles : Nat
  lastVerdict : Option Bool
deriving DecidableEq, Repr, Inhabited

inductive Command where
  | evaluate (asker : Nat)
  | update (check : Check)
  | status (asker : Nat)
  | shutdown

/-- The cycle of a check, or what is left of it. -/
abbrev CycleRoutine := Routine (Except CycleError CycleReport)

inductive Stage where
  | ready
  /-- A cycle is in flight; it goes on at a time.  Somebody may wait for its
  report. -/
  | busy (asker : Option Nat) (rest : CycleRoutine) (wake : Span)
  | ended

inductive AskError where
  | unheard (command : String)
  /-- Who listened ended before it came to the answer. -/
  | unanswered (answer : String)
deriving DecidableEq, Repr

def AskError.message : AskError → String
  | unheard command => "failed to send " ++ command ++ " command: channel closed"
  | unanswered answer => "failed to receive " ++ answer ++ ": channel closed"

inductive Answer where
  | report (asker : Nat) (result : Except CycleError CycleReport)
  | status (asker : Nat) (status : WorkerStatus)
  | lost (asker : Nat) (cause : AskError)

def Answer.asker : Answer → Nat
  | report asker _ => asker
  | status asker _ => asker
  | lost asker _ => asker

def Answer.noReport (asker : Nat) : Answer :=
  .lost asker (.unanswered "cycle report")

def Answer.noStatus (asker : Nat) : Answer :=
  .lost asker (.unanswered "status")

def Command.name : Command → String
  | evaluate _ => "EvaluateNow"
  | update _ => "UpdateDefinition"
  | status _ => "GetStatus"
  | shutdown => "Shutdown"

structure Worker where
  check : Check
  ticker : Ticker
  queue : List Command
  showing : Showing
  cycles : Nat
  lastVerdict : Option Bool
  stage : Stage

namespace Worker

def start (check : Check) (period now : Span) : Worker :=
  { check, ticker := .start now period, queue := [], showing := .idle, cycles := 0,
    lastVerdict := none, stage := .ready }

def hasEnded (worker : Worker) : Bool :=
  match worker.stage with
  | .ended => true
  | _ => false

def queueLimit : Nat := 32

def isFull (worker : Worker) : Bool :=
  !worker.hasEnded && queueLimit ≤ worker.queue.length

def tell? (worker : Worker) (command : Command) : Option Worker :=
  if worker.hasEnded then none else some { worker with queue := worker.queue ++ [command] }

def status (worker : Worker) : WorkerStatus :=
  ⟨worker.check.id, worker.showing, worker.cycles, worker.lastVerdict⟩

def unanswered : List Command → List Answer
  | [] => []
  | .evaluate asker :: rest => .noReport asker :: unanswered rest
  | .status asker :: rest => .noStatus asker :: unanswered rest
  | _ :: rest => unanswered rest

def begin (pipeline : Pipeline) (now : Span) (asker : Option Nat) (worker : Worker) : Worker :=
  { worker with showing := .running, stage := .busy asker (pipeline.cycle worker.check) now }

def finish (worker : Worker) (asker : Option Nat) (result : Except CycleError CycleReport) :
    Worker × List Answer :=
  let verdict :=
    match result with
    | .ok report => some report.failing
    | .error _ => worker.lastVerdict
  ({ worker with
     showing := .idle, cycles := worker.cycles + 1, lastVerdict := verdict, stage := .ready },
   (asker.map fun asker => Answer.report asker result).toList)

/-- The worker breaks off and shows what it last showed. -/
def breakOff (worker : Worker) (asker : Option Nat) : Worker × List Answer :=
  ({ worker with queue := [], stage := .ended },
   (asker.map Answer.noReport).toList ++ unanswered worker.queue)

def stop (worker : Worker) : Worker × List Answer :=
  ({ worker with queue := [], showing := .stopped, stage := .ended }, unanswered worker.queue)

/-- Takes a new definition.  One without a valid interval is ignored; a new period
starts the ticker anew, from now on. -/
def update (worker : Worker) (check : Check) (now : Span) : Worker × List Answer :=
  match check.period? with
  | none => worker.breakOff none
  | some (.error _) => (worker, [])
  | some (.ok period) =>
      let worker := { worker with check }
      if period = worker.ticker.period then (worker, [])
      else
        match Ticker.restart? now period with
        | some ticker => ({ worker with ticker }, [])
        | none => worker.breakOff none

def handle (pipeline : Pipeline) (now : Span) (worker : Worker) : Command →
    Worker × List Answer
  | .evaluate asker => (worker.begin pipeline now (some asker), [])
  | .update check => worker.update check now
  | .status asker => (worker, [.status asker worker.status])
  | .shutdown => worker.stop

def tick (pipeline : Pipeline) (now : Span) (worker : Worker) : Worker × List Answer :=
  match worker.ticker.next? now with
  | some ticker => ({ worker with ticker }.begin pipeline now none, [])
  | none => worker.breakOff none

/-- The next thing that a waiting worker does, if there is any: a tick that is
due goes before commands. -/
def act? (pipeline : Pipeline) (now : Span) (worker : Worker) : Option (Worker × List Answer) :=
  if worker.ticker.due now then some (worker.tick pipeline now)
  else
    match worker.queue with
    | [] => none
    | command :: queue => some ({ worker with queue }.handle pipeline now command)

def wake? (worker : Worker) : Option Span :=
  match worker.stage with
  | .ready => some worker.ticker.deadline.ceilMilli
  | .busy _ _ wake => some wake.ceilMilli
  | .ended => none

end Worker

end FleetMonitor
