import Mathlib.Data.List.Induction
import FleetMonitor.Proofs.Muster

/-!
# The diary of a worker

What happens to one worker, with the time of each thing: ticks and commands in any order,
cycles that take any time and end in any way.  From the diary one can tell how many cycles
came to an end, with which definition each of them began, and how many a ticker may begin.
-/

set_option autoImplicit false

namespace FleetMonitor

open Routine

/-! ## Tickers -/

namespace Check

theorem period?_pos {check : Check} {period : Span} (read : check.period? = some (.ok period)) :
    0 < period.nanos := by
  unfold period? at read
  split at read
  · cases read
  · cases read
  · rename_i span _
    have inner := Option.some.inj read
    split at inner
    · cases inner
    · rename_i notZero
      obtain rfl := Except.ok.inj inner
      simp only [Span.isZero, decide_eq_true_eq] at notZero
      omega

end Check

namespace Ticker

/-- What is as good as never lies so many nanoseconds ahead. -/
def horizon : Nat := 30 * 365 * 86400 * Span.second

def stride (ticker : Ticker) : Nat :=
  min ticker.period.nanos horizon

theorem after?_nanos {now span later : Span} (reached : now.after? span = some later) :
    later.nanos = now.nanos + span.nanos := by
  unfold Span.after? at reached
  split at reached
  · rw [← Option.some.inj reached]
  · cases reached

/-- The next tick of a ticker that is late lies on its grid, behind the present. -/
theorem next?_late {ticker later : Ticker} {now : Span}
    (late : tolerance < now.nanos - ticker.deadline.nanos)
    (next : ticker.next? now = some later) :
    later.period = ticker.period ∧
      later.deadline.nanos = now.nanos + ticker.period.nanos -
        (now.nanos - ticker.deadline.nanos) % ticker.period.nanos := by
  rw [next?, if_pos late] at next
  obtain ⟨ahead, reached, same⟩ := Option.map_eq_some_iff.mp next
  rw [← same, ← after?_nanos reached]
  exact ⟨rfl, rfl⟩

theorem next?_inTime {ticker later : Ticker} {now : Span}
    (inTime : ¬ tolerance < now.nanos - ticker.deadline.nanos)
    (next : ticker.next? now = some later) :
    later.period = ticker.period ∧
      (later.deadline.nanos = ticker.deadline.nanos + ticker.period.nanos ∨
        later.deadline.nanos = now.nanos + horizon) := by
  rw [next?, if_neg inTime] at next
  rw [← Option.some.inj next]
  refine ⟨rfl, ?_⟩
  cases reached : ticker.deadline.after? ticker.period with
  | none => exact Or.inr rfl
  | some ahead => exact Or.inl (after?_nanos reached)

theorem next?_period {ticker later : Ticker} {now : Span}
    (next : ticker.next? now = some later) : later.period = ticker.period := by
  by_cases late : tolerance < now.nanos - ticker.deadline.nanos
  · exact (next?_late late next).1
  · exact (next?_inTime late next).1

theorem next?_stride {ticker later : Ticker} {now : Span} (due : ticker.due now = true)
    (next : ticker.next? now = some later) :
    ticker.deadline.nanos + ticker.stride ≤ later.deadline.nanos := by
  have reached : ticker.deadline.nanos ≤ now.nanos := by simpa [Ticker.due] using due
  have short : ticker.stride ≤ ticker.period.nanos := Nat.min_le_left _ _
  have near : ticker.stride ≤ horizon := Nat.min_le_right _ _
  by_cases late : tolerance < now.nanos - ticker.deadline.nanos
  · have ahead := (next?_late late next).2
    have grid : (now.nanos - ticker.deadline.nanos) % ticker.period.nanos ≤
        now.nanos - ticker.deadline.nanos := Nat.mod_le _ _
    omega
  · rcases (next?_inTime late next).2 with ahead | remote <;> omega

/-- After a tick the next one is still to come, unless the tick was hardly late and the
period is no longer than that. -/
theorem next?_ahead {ticker later : Ticker} {now : Span} (lasting : 0 < ticker.period.nanos)
    (next : ticker.next? now = some later) :
    now.nanos < later.deadline.nanos ∨
      now.nanos ≤ ticker.deadline.nanos + tolerance ∧
        later.deadline.nanos = ticker.deadline.nanos + ticker.period.nanos := by
  by_cases late : tolerance < now.nanos - ticker.deadline.nanos
  · have ahead := (next?_late late next).2
    have grid : (now.nanos - ticker.deadline.nanos) % ticker.period.nanos <
        ticker.period.nanos := Nat.mod_lt _ lasting
    left
    omega
  · rcases (next?_inTime late next).2 with ahead | remote
    · right
      exact ⟨by omega, ahead⟩
    · left
      have far : 0 < horizon := by decide
      omega

end Ticker

namespace Worker

/-! ## What happens to a worker -/

inductive Act where
  | tell (command : Command)
  | tick
  | take (command : Command)
  | exchange (exchange : Exchange)
  | finish (result : Except CycleError CycleReport)
  | breakOff

namespace Act

def ticks : Act → Bool
  | tick => true
  | _ => false

def begins : Act → Bool
  | tick => true
  | take (.evaluate _) => true
  | _ => false

def finishes : Act → Bool
  | finish _ => true
  | _ => false

def verdict? : Act → Option Bool
  | finish (.ok report) => some report.failing
  | _ => none

def accepted? : Act → Option Check
  | take (.update check) =>
      match check.period? with
      | some (.ok _) => some check
      | _ => none
  | _ => none

end Act

/-- What can happen to a worker at a time, with the answers that it gives.  Where a tick is
due and a command waits, either may come first. -/
inductive Does (pipeline : Pipeline) (now : Span) (worker : Worker) :
    Act → Worker → List Answer → Prop
  | tell (command : Command) (later : Worker) (heard : worker.tell? command = some later) :
      Does pipeline now worker (.tell command) later []
  | tick (ticker : Ticker) (ready : worker.stage = .ready) (due : worker.ticker.due now = true)
      (goesOn : worker.ticker.next? now = some ticker) :
      Does pipeline now worker .tick (({ worker with ticker } : Worker).begin pipeline now none) []
  | take (command : Command) (rest : List Command) (ready : worker.stage = .ready)
      (queue : worker.queue = command :: rest) :
      Does pipeline now worker (.take command)
        (({ worker with queue := rest } : Worker).handle pipeline now command).1
        (({ worker with queue := rest } : Worker).handle pipeline now command).2
  | exchange (asker : Option Nat) (request : Request) (next : request.Answer → CycleRoutine)
      (wake later : Span) (answer : request.Answer)
      (busy : worker.stage = .busy asker (.ask request next) wake) :
      Does pipeline now worker (.exchange ⟨request, answer⟩)
        { worker with stage := .busy asker (next answer) later } []
  | finish (asker : Option Nat) (result : Except CycleError CycleReport) (wake : Span)
      (busy : worker.stage = .busy asker (.done result) wake) :
      Does pipeline now worker (.finish result) (worker.finish asker result).1
        (worker.finish asker result).2
  | breakOff (asker : Option Nat) (goesOn : worker.hasEnded = false) :
      Does pipeline now worker .breakOff (worker.breakOff asker).1 (worker.breakOff asker).2

structure Deed where
  before : Worker
  time : Span
  act : Act
  after : Worker
  answers : List Answer

def Deed.restarts (deed : Deed) : Bool :=
  deed.after.ticker.period ≠ deed.before.ticker.period

inductive Lives (pipeline : Pipeline) (origin : Worker) (born : Span) :
    List Deed → Worker → Span → Prop
  | start : Lives pipeline origin born [] origin born
  | step {past : List Deed} {present later : Worker} {clock : Span} {act : Act}
      {answers : List Answer} (former : Lives pipeline origin born past present clock)
      (now : Span) (onward : clock.nanos ≤ now.nanos)
      (does : Does pipeline now present act later answers) :
      Lives pipeline origin born (past ++ [⟨present, now, act, later, answers⟩]) later now

namespace Lives

variable {pipeline : Pipeline} {origin : Worker} {born : Span}

theorem append {middle later : Worker} {clock now : Span} {past more : List Deed}
    (early : Lives pipeline origin born past middle clock)
    (late : Lives pipeline middle clock more later now) :
    Lives pipeline origin born (past ++ more) later now := by
  induction late with
  | start => simpa using early
  | step _ now onward does ih =>
      rw [← List.append_assoc]
      exact ih.step now onward does

theorem single {worker later : Worker} {now : Span} {act : Act} {answers : List Answer}
    (does : Does pipeline now worker act later answers) :
    Lives pipeline worker now [⟨worker, now, act, later, answers⟩] later now :=
  Lives.start.step now (Nat.le_refl _) does

theorem last {past : List Deed} {deed : Deed} {later : Worker} {now : Span}
    (lives : Lives pipeline origin born (past ++ [deed]) later now) :
    ∃ clock, Lives pipeline origin born past deed.before clock ∧
      clock.nanos ≤ deed.time.nanos ∧
      Does pipeline deed.time deed.before deed.act deed.after deed.answers ∧
      later = deed.after ∧ now = deed.time := by
  generalize whole : past ++ [deed] = all at lives
  cases lives with
  | start => simp at whole
  | step former now onward does =>
      obtain ⟨rfl, single⟩ := List.append_inj' whole rfl
      obtain rfl := (List.cons.inj single).1
      exact ⟨_, former, onward, does, rfl, rfl⟩

theorem split {before after : List Deed} {later : Worker} {now : Span}
    (lives : Lives pipeline origin born (before ++ after) later now) :
    ∃ middle clock, Lives pipeline origin born before middle clock ∧
      Lives pipeline middle clock after later now := by
  induction after using List.reverseRecOn generalizing later now with
  | nil =>
      rw [List.append_nil] at lives
      exact ⟨later, now, lives, .start⟩
  | append_singleton init deed ih =>
      rw [← List.append_assoc] at lives
      obtain ⟨clock, former, onward, does, rfl, rfl⟩ := lives.last
      obtain ⟨middle, between, early, late⟩ := ih former
      exact ⟨middle, between, early, late.step _ onward does⟩

theorem at_entry {before after : List Deed} {deed : Deed} {later : Worker} {now : Span}
    (lives : Lives pipeline origin born (before ++ deed :: after) later now) :
    ∃ clock, Lives pipeline origin born before deed.before clock ∧
      Does pipeline deed.time deed.before deed.act deed.after deed.answers := by
  have parts : before ++ deed :: after = (before ++ [deed]) ++ after := by simp
  rw [parts] at lives
  obtain ⟨middle, clock, early, _⟩ := lives.split
  obtain ⟨between, former, _, does, _, _⟩ := early.last
  exact ⟨between, former, does⟩

end Lives

/-! ## The workers of a crew -/

namespace Lives

variable {pipeline : Pipeline}

/-- How far a worker gets that goes on with its cycle. -/
def Gets (pipeline : Pipeline) (former worker : Worker) (now : Span) (asker : Option Nat) :
    Progress (Except CycleError CycleReport) → Prop
  | .finished (some result) =>
      ∃ more, Lives pipeline former now more (worker.finish asker result).1 now
  | .finished none => ∃ more, Lives pipeline former now more (worker.breakOff asker).1 now
  | .waiting rest =>
      ∀ wake, ∃ more, Lives pipeline former now more
        { worker with stage := .busy asker rest wake } now

theorem Gets.after {former between worker : Worker} {now : Span} {asker : Option Nat}
    {more : List Deed} {progress : Progress (Except CycleError CycleReport)}
    (lives : Lives pipeline former now more between now)
    (gets : Gets pipeline between worker now asker progress) :
    Gets pipeline former worker now asker progress := by
  match progress, gets with
  | .finished (some _), ⟨_, late⟩ => exact ⟨_, lives.append late⟩
  | .finished none, ⟨_, late⟩ => exact ⟨_, lives.append late⟩
  | .waiting _, gets =>
      intro wake
      obtain ⟨_, late⟩ := gets wake
      exact ⟨_, lives.append late⟩

theorem of_proceed (worker : Worker) (asker : Option Nat) (rest : CycleRoutine) (wake now : Span)
    (s : Surroundings) :
    Gets pipeline { worker with stage := .busy asker rest wake } worker now asker
      (rest.proceed s).1 := by
  induction rest generalizing s wake with
  | done result => exact ⟨_, single (.finish asker result wake rfl)⟩
  | broken => exact ⟨_, single (.breakOff asker rfl)⟩
  | ask request next ih =>
      have asked : ∀ later, Lives pipeline
          { worker with stage := .busy asker (.ask request next) wake } now _
          { worker with stage := .busy asker (next (s.answer request).1) later } now :=
        fun later => single (.exchange asker request next wake later (s.answer request).1 rfl)
      unfold Routine.proceed
      simp only
      split
      · intro later
        exact ⟨_, asked later⟩
      · exact (ih (s.answer request).1 wake _).after (asked wake)

theorem of_resume (worker : Worker) (asker : Option Nat) (rest : CycleRoutine) (wake now : Span)
    (s : Surroundings) (busy : worker.stage = .busy asker rest wake) :
    ∃ more, Lives pipeline worker now more (worker.resume asker rest now s).1 now := by
  have same : { worker with stage := .busy asker rest wake } = worker := by rw [← busy]
  have gets : Gets pipeline _ worker now asker (rest.proceed s.later).1 :=
    of_proceed worker asker rest wake now s.later
  rw [same] at gets
  unfold resume
  match rest.proceed s.later, gets with
  | (.finished (some _), _), gets => exact gets
  | (.finished none, _), gets => exact gets
  | (.waiting _, _), gets => exact gets _

theorem of_step? (worker later : Worker) (now : Span) (s after : Surroundings)
    (answers : List Answer)
    (stepped : worker.step? pipeline now s = some (later, answers, after)) :
    ∃ more, Lives pipeline worker now more later now := by
  unfold step? at stepped
  cases stage : worker.stage with
  | ended => simp [stage] at stepped
  | busy asker rest wake =>
      simp only [stage] at stepped
      split at stepped
      · have resumed : ∃ more, Lives pipeline worker now more _ now :=
          of_resume worker asker rest wake now s stage
        rw [Option.some.inj stepped] at resumed
        exact resumed
      · cases stepped
  | ready =>
      simp only [stage] at stepped
      obtain ⟨acted, act, same⟩ := Option.map_eq_some_iff.mp stepped
      have laterEq : acted.1 = later := congrArg Prod.fst same
      subst laterEq
      unfold act? at act
      split at act
      · rename_i due
        obtain rfl := Option.some.inj act
        unfold tick
        cases next : worker.ticker.next? now with
        | none => exact ⟨_, single (.breakOff none (by simp [hasEnded, stage]))⟩
        | some ticker => exact ⟨_, single (.tick ticker stage due next)⟩
      · cases queue : worker.queue with
        | nil => simp [queue] at act
        | cons command rest =>
            rw [queue] at act
            obtain rfl := Option.some.inj act
            exact ⟨_, single (.take command rest stage queue)⟩

theorem of_run (worker : Worker) (now : Span) (fuel : Nat) (s : Surroundings) :
    ∃ more, Lives pipeline worker now more (worker.run pipeline now fuel s).1 now := by
  induction fuel generalizing worker s with
  | zero => exact ⟨[], .start⟩
  | succ fuel ih =>
      unfold run
      cases stepped : worker.step? pipeline now s with
      | none => exact ⟨[], .start⟩
      | some went =>
          obtain ⟨later, answers, after⟩ := went
          obtain ⟨early, first⟩ := of_step? worker later now s after answers stepped
          obtain ⟨late, others⟩ := ih later after
          exact ⟨early ++ late, first.append others⟩

end Lives

/-! ## What one thing changes -/

def inFlight (worker : Worker) : Nat :=
  match worker.stage with
  | .busy _ _ _ => 1
  | _ => 0

def Resets (worker later : Worker) (now : Span) : Prop :=
  later.ticker = worker.ticker ∨
    later.ticker.period ≠ worker.ticker.period ∧ now.nanos ≤ later.ticker.deadline.nanos

/-- What an act makes of the counters, the definition and the ticker of a worker. -/
structure Effect (now : Span) (worker : Worker) (act : Act) (later : Worker) : Prop where
  cycles : later.cycles = worker.cycles + act.finishes.toNat
  verdict : later.lastVerdict = act.verdict?.or worker.lastVerdict
  check : later.check = act.accepted?.getD worker.check
  goesOn : later.hasEnded = false → worker.hasEnded = false
  flight : later.hasEnded = false →
    worker.inFlight + act.begins.toNat = later.inFlight + act.finishes.toNat
  period : later.hasEnded = false →
    worker.check.period? = some (.ok worker.ticker.period) →
      later.check.period? = some (.ok later.ticker.period)
  lasting : 0 < worker.ticker.period.nanos → 0 < later.ticker.period.nanos
  ticker : act.ticks = false → worker.Resets later now

theorem Effect.of_same {now : Span} {worker later : Worker} {act : Act}
    (check : later.check = worker.check) (ticker : later.ticker = worker.ticker)
    (cycles : later.cycles = worker.cycles) (verdict : later.lastVerdict = worker.lastVerdict)
    (noFinish : act.finishes = false) (noVerdict : act.verdict? = none)
    (noUpdate : act.accepted? = none)
    (goesOn : later.hasEnded = false → worker.hasEnded = false)
    (flight : later.hasEnded = false →
      worker.inFlight + act.begins.toNat = later.inFlight) :
    Effect now worker act later where
  cycles := by simp [cycles, noFinish]
  verdict := by simp [verdict, noVerdict]
  check := by simp [check, noUpdate]
  goesOn := goesOn
  flight := by simpa [noFinish] using flight
  period _ read := by rw [check, ticker]; exact read
  lasting long := by rw [ticker]; exact long
  ticker _ := Or.inl ticker

variable {pipeline : Pipeline} {now : Span} {worker later : Worker}

theorem update_effect (worker : Worker) (check : Check) (rest : List Command)
    (ready : worker.stage = .ready) :
    Effect now worker (.take (.update check))
      (({ worker with queue := rest } : Worker).update check now).1 := by
  have waiting : worker.hasEnded = false := by simp [hasEnded, ready]
  unfold update
  cases read : check.period? with
  | none =>
      apply Effect.of_same <;> simp [breakOff, Act.finishes, Act.verdict?, Act.accepted?, read,
        hasEnded]
  | some reading =>
      cases reading with
      | error cause =>
          apply Effect.of_same <;> simp [Act.finishes, Act.verdict?, Act.accepted?, read,
            inFlight, Act.begins, hasEnded, ready]
      | ok period =>
          have accepted : (Act.take (.update check)).accepted? = some check := by
            simp [Act.accepted?, read]
          simp only
          split
          · rename_i same
            exact
              { cycles := rfl
                verdict := rfl
                check := by rw [accepted]; rfl
                goesOn := fun _ => waiting
                flight := fun _ => by simp [inFlight, ready, Act.begins, Act.finishes]
                period := fun _ _ => by rw [read, same]
                lasting := id
                ticker := fun _ => Or.inl rfl }
          · rename_i changed
            cases restarted : Ticker.restart? now period with
            | none =>
                exact
                  { cycles := rfl
                    verdict := rfl
                    check := by rw [accepted]; rfl
                    goesOn := fun _ => waiting
                    flight := fun stillOn => by simp [breakOff, hasEnded] at stillOn
                    period := fun stillOn => by simp [breakOff, hasEnded] at stillOn
                    lasting := id
                    ticker := fun _ => Or.inl rfl }
            | some ticker =>
                obtain ⟨deadline, reached, same⟩ := Option.map_eq_some_iff.mp restarted
                have ahead := Ticker.after?_nanos reached
                subst same
                exact
                  { cycles := rfl
                    verdict := rfl
                    check := by rw [accepted]; rfl
                    goesOn := fun _ => waiting
                    flight := fun _ => by simp [inFlight, ready, Act.begins, Act.finishes]
                    period := fun _ _ => read
                    lasting := fun _ => Check.period?_pos read
                    ticker := fun _ => Or.inr ⟨changed, by simp only; omega⟩ }

theorem Does.effect {act : Act} {answers : List Answer}
    (does : Does pipeline now worker act later answers) : Effect now worker act later := by
  cases does with
  | tell command _ heard =>
      have on : worker.hasEnded = false := tell?_goesOn worker later command heard
      obtain rfl := tell?_eq heard
      apply Effect.of_same <;> simp [Act.finishes, Act.verdict?, Act.accepted?, Act.begins, on,
        inFlight]
  | tick ticker ready due goesOn =>
      have kept := Ticker.next?_period goesOn
      exact
        { cycles := rfl
          verdict := rfl
          check := rfl
          goesOn := fun _ => by simp [hasEnded, ready]
          flight := fun _ => by simp [inFlight, ready, begin, Act.begins, Act.finishes]
          period := fun _ read => by simpa [begin, kept] using read
          lasting := fun long => by simpa [begin, kept] using long
          ticker := fun noTick => by cases noTick }
  | take command rest ready queue =>
      cases command with
      | evaluate asker =>
          apply Effect.of_same <;> simp [handle, begin, Act.finishes, Act.verdict?, Act.accepted?,
            Act.begins, inFlight, hasEnded, ready]
      | update check => exact update_effect worker check rest ready
      | status asker =>
          apply Effect.of_same <;> simp [handle, Act.finishes, Act.verdict?, Act.accepted?,
            Act.begins, inFlight, hasEnded, ready]
      | shutdown =>
          apply Effect.of_same <;> simp [handle, stop, Act.finishes, Act.verdict?, Act.accepted?,
            hasEnded]
  | exchange asker request next wake later answer busy =>
      apply Effect.of_same <;> simp [Act.finishes, Act.verdict?, Act.accepted?, Act.begins,
        inFlight, hasEnded, busy]
  | finish asker result wake busy =>
      exact
        { cycles := rfl
          verdict := by cases result <;> simp [Worker.finish, Act.verdict?]
          check := rfl
          goesOn := fun _ => by simp [hasEnded, busy]
          flight := fun _ => by simp [inFlight, busy, Worker.finish, Act.begins, Act.finishes]
          period := fun _ read => read
          lasting := id
          ticker := fun _ => Or.inl rfl }
  | breakOff asker goesOn =>
      apply Effect.of_same <;> simp [Worker.breakOff, Act.finishes, Act.verdict?, Act.accepted?,
        hasEnded]

theorem Does.begins_ready {act : Act} {answers : List Answer}
    (does : Does pipeline now worker act later answers) (begins : act.begins = true) :
    worker.stage = .ready ∧
      ∃ asker, later.stage = .busy asker (pipeline.cycle worker.check) now := by
  cases does with
  | tell command _ heard => cases begins
  | tick ticker ready due goesOn => exact ⟨ready, none, rfl⟩
  | take command rest ready queue =>
      cases command with
      | evaluate asker => exact ⟨ready, some asker, rfl⟩
      | update check => cases begins
      | status asker => cases begins
      | shutdown => cases begins
  | exchange asker request next wake later answer busy => cases begins
  | finish asker result wake busy => cases begins
  | breakOff asker goesOn => cases begins

theorem status_not_unanswered (asker : Nat) (status : WorkerStatus) (queue : List Command) :
    Answer.status asker status ∉ unanswered queue := by
  induction queue with
  | nil => simp [unanswered]
  | cons command rest ih =>
      cases command <;> simp [unanswered, Answer.noReport, Answer.noStatus, ih]

theorem status_not_update (asker : Nat) (status : WorkerStatus) (check : Check)
    (worker : Worker) (now : Span) :
    Answer.status asker status ∉ (worker.update check now).2 := by
  have silent := status_not_unanswered asker status worker.queue
  unfold update
  split
  · simpa [breakOff] using silent
  · simp
  · simp only
    split
    · simp
    · split
      · simp
      · simpa [breakOff] using silent

theorem Does.status_told {act : Act} {answers : List Answer}
    (does : Does pipeline now worker act later answers) {asker : Nat} {status : WorkerStatus}
    (told : Answer.status asker status ∈ answers) : status = worker.status := by
  cases does with
  | tell command _ heard => simp at told
  | tick ticker ready due goesOn => simp at told
  | take command rest ready queue =>
      cases command with
      | evaluate asker => simp [handle] at told
      | update check =>
          have silent := status_not_update asker status check { worker with queue := rest } now
          exact absurd told silent
      | status other =>
          simp only [handle, List.mem_singleton, Answer.status.injEq] at told
          exact told.2
      | shutdown => exact absurd told (status_not_unanswered asker status rest)
  | exchange asker request next wake later answer busy => simp at told
  | finish other result wake busy => cases other <;> simp [Worker.finish] at told
  | breakOff other goesOn =>
      have silent := status_not_unanswered asker status worker.queue
      cases other <;> simp [Worker.breakOff, Answer.noReport, silent] at told

theorem Does.tick_next {answers : List Answer}
    (does : Does pipeline now worker .tick later answers) :
    worker.ticker.due now = true ∧ worker.ticker.next? now = some later.ticker := by
  cases does with
  | tick ticker ready due goesOn => exact ⟨due, goesOn⟩

/-! ## What a diary tells -/

def begun (past : List Deed) : Nat :=
  past.countP fun deed => deed.act.begins

def finished (past : List Deed) : Nat :=
  past.countP fun deed => deed.act.finishes

def latestVerdict (past : List Deed) : Option Bool :=
  (past.filterMap fun deed => deed.act.verdict?).getLast?

def definition (check : Check) (past : List Deed) : Check :=
  (past.filterMap fun deed => deed.act.accepted?).getLast?.getD check

def tickTimes (past : List Deed) : List Nat :=
  (past.filter fun deed => deed.act.ticks).map fun deed => deed.time.nanos

theorem tickTimes_append (past more : List Deed) :
    tickTimes (past ++ more) = tickTimes past ++ tickTimes more := by
  simp [tickTimes]

def ticksUntil (past : List Deed) (time : Nat) : Nat :=
  (tickTimes past).countP fun tick => tick ≤ time

/-- The ticker was started for the last time: with the worker, or by an update. -/
inductive SetGoing (born : Span) : List Deed → Span → Prop
  | birth : SetGoing born [] born
  | restart (before : List Deed) (deed : Deed) (restarts : deed.restarts = true) :
      SetGoing born (before ++ [deed]) deed.time

theorem filterMap_snoc {α β : Type} (f : α → Option β) (past : List α) (item : α) :
    ((past ++ [item]).filterMap f).getLast? = (f item).or (past.filterMap f).getLast? := by
  rw [List.filterMap_append, List.getLast?_append]
  cases found : f item with
  | none => simp [found]
  | some value => simp [found]

theorem countP_snoc {α : Type} (p : α → Bool) (past : List α) (item : α) :
    (past ++ [item]).countP p = past.countP p + (p item).toNat := by
  rw [List.countP_append, List.countP_singleton]
  cases p item <;> rfl

structure Accounts (check : Check) (past : List Deed) (present : Worker) : Prop where
  cycles : present.cycles = finished past
  verdict : present.lastVerdict = latestVerdict past
  check : present.check = definition check past
  period : present.hasEnded = false →
    present.check.period? = some (.ok present.ticker.period)
  flight : present.hasEnded = false → begun past = finished past + present.inFlight
  alone : begun past ≤ finished past + 1
  lasting : 0 < present.ticker.period.nanos

theorem Accounts.step {check : Check} {past : List Deed} {act : Act} {answers : List Answer}
    (accounts : Accounts check past worker) (does : Does pipeline now worker act later answers) :
    Accounts check (past ++ [⟨worker, now, act, later, answers⟩]) later := by
  have effect := does.effect
  have ended : finished (past ++ [⟨worker, now, act, later, answers⟩]) =
      finished past + act.finishes.toNat := countP_snoc _ past _
  have started : begun (past ++ [⟨worker, now, act, later, answers⟩]) =
      begun past + act.begins.toNat := countP_snoc _ past _
  refine
    { cycles := ?cycles
      verdict := ?verdict
      check := ?check
      period := ?period
      flight := ?flight
      alone := ?alone
      lasting := effect.lasting accounts.lasting }
  case cycles => rw [effect.cycles, ended, accounts.cycles]
  case verdict => rw [effect.verdict, latestVerdict, filterMap_snoc, accounts.verdict]; rfl
  case check =>
    rw [effect.check, definition, filterMap_snoc, accounts.check]
    cases act.accepted? <;> rfl
  case period =>
    intro stillOn
    exact effect.period stillOn (accounts.period (effect.goesOn stillOn))
  case flight =>
    intro stillOn
    have before := accounts.flight (effect.goesOn stillOn)
    have turned := effect.flight stillOn
    omega
  case alone =>
    cases begins : act.begins with
    | false =>
        have before := accounts.alone
        simp only [begins, Bool.toNat_false] at started
        omega
    | true =>
        -- Nothing is in flight where a cycle begins.
        have ready := (does.begins_ready begins).1
        have before := accounts.flight (by simp [hasEnded, ready])
        simp only [inFlight, ready] at before
        simp only [begins, Bool.toNat_true] at started
        omega

theorem Lives.accounts {check : Check} {period born : Span} {past : List Deed}
    (read : check.period? = some (.ok period))
    (lives : Lives pipeline (Worker.start check period born) born past later now) :
    Accounts check past later := by
  induction lives with
  | start =>
      exact
        { cycles := rfl
          verdict := rfl
          check := rfl
          period := fun _ => read
          flight := fun _ => rfl
          alone := Nat.zero_le _
          lasting := Check.period?_pos read }
  | step _ now onward does ih => exact ih.step does

/-! ## How many cycles ticks begin -/

/-- While a ticker is kept, its deadline runs ahead by a stride with every tick. -/
structure Paced (since : Nat) (ticker : Ticker) (past : List Deed) (present : Worker) : Prop where
  period : present.ticker.period = ticker.period
  ahead : since + (tickTimes past).length * ticker.stride ≤ present.ticker.deadline.nanos
  bounded : ∀ span, ticksUntil past (since + span) ≤ span / ticker.stride + 1

theorem Ticker.stride_pos {ticker : Ticker} (lasting : 0 < ticker.period.nanos) :
    0 < ticker.stride :=
  Nat.lt_min.mpr ⟨lasting, by decide⟩

theorem Paced.step {since : Nat} {ticker : Ticker} {past : List Deed} {act : Act}
    {answers : List Answer} (lasting : 0 < ticker.period.nanos)
    (paced : Paced since ticker past worker)
    (does : Does pipeline now worker act later answers)
    (kept : later.ticker.period = worker.ticker.period) :
    Paced since ticker (past ++ [⟨worker, now, act, later, answers⟩]) later := by
  have period : later.ticker.period = ticker.period := kept.trans paced.period
  have times := tickTimes_append past [⟨worker, now, act, later, answers⟩]
  cases ticks : act.ticks with
  | false =>
      have same : later.ticker = worker.ticker := by
        rcases does.effect.ticker ticks with same | ⟨changed, _⟩
        · exact same
        · exact absurd kept changed
      have noTick : tickTimes [⟨worker, now, act, later, answers⟩] = [] := by
        simp [tickTimes, ticks]
      rw [noTick, List.append_nil] at times
      refine ⟨period, ?_, ?_⟩
      · rw [times, same]
        exact paced.ahead
      · intro span
        rw [ticksUntil, times]
        exact paced.bounded span
  | true =>
      have isTick : act = .tick := by
        cases act <;> first | rfl | cases ticks
      subst isTick
      obtain ⟨due, next⟩ := does.tick_next
      have stride : worker.ticker.stride = ticker.stride := by
        unfold Ticker.stride
        rw [paced.period]
      have reached : worker.ticker.deadline.nanos ≤ now.nanos := by
        simpa [Ticker.due] using due
      have onward := Ticker.next?_stride due next
      have ahead := paced.ahead
      have tick : tickTimes [⟨worker, now, .tick, later, answers⟩] = [now.nanos] := rfl
      rw [tick] at times
      refine ⟨period, ?_, ?_⟩
      · rw [times, List.length_append, List.length_singleton, Nat.add_mul, Nat.one_mul]
        omega
      · intro span
        have former := paced.bounded span
        unfold ticksUntil at former
        rw [ticksUntil, times, countP_snoc]
        by_cases within : now.nanos ≤ since + span
        · -- The ticks before this one fill strides that lie within the span.
          have filled : (tickTimes past).length * ticker.stride ≤ span := by omega
          have counted := (Nat.le_div_iff_mul_le (Ticker.stride_pos lasting)).mpr filled
          have few := (tickTimes past).countP_le_length (p := fun tick => tick ≤ since + span)
          simp only [within, decide_true, Bool.toNat_true]
          omega
        · simp only [within, decide_false, Bool.toNat_false]
          omega

theorem Lives.paced {origin : Worker} {born : Span} {past : List Deed} {since : Nat}
    (lasting : 0 < origin.ticker.period.nanos) (ahead : since ≤ origin.ticker.deadline.nanos)
    (lives : Lives pipeline origin born past later now)
    (steady : ∀ deed ∈ past, deed.restarts = false) :
    Paced since origin.ticker past later := by
  induction lives with
  | start => exact ⟨rfl, by simpa [tickTimes] using ahead, fun span => by simp [ticksUntil, tickTimes]⟩
  | step _ now onward does ih =>
      have before := ih fun deed member => steady deed (List.mem_append_left _ member)
      have last := steady _ (List.mem_append_right _ (List.mem_singleton.mpr rfl))
      have kept := of_decide_eq_false last
      exact before.step lasting does (not_not.mp kept)

theorem SetGoing.ahead {check : Check} {period born since : Span} {before : List Deed}
    {clock : Span} (going : SetGoing born before since)
    (lives : Lives pipeline (Worker.start check period born) born before later clock) :
    since.nanos ≤ later.ticker.deadline.nanos := by
  cases going with
  | birth =>
      generalize whole : ([] : List Deed) = all at lives
      cases lives with
      | start => exact Nat.le_refl _
      | step => simp at whole
  | restart before deed restarts =>
      obtain ⟨between, former, onward, does, rfl, rfl⟩ := lives.last
      have changed := of_decide_eq_true restarts
      cases ticks : deed.act.ticks with
      | false =>
          rcases does.effect.ticker ticks with same | ⟨_, ahead⟩
          · exact absurd (congrArg Ticker.period same) changed
          · exact ahead
      | true =>
          have isTick : deed.act = .tick := by
            cases act : deed.act <;> first | rfl | simp [act, Act.ticks] at ticks
          rw [isTick] at does
          exact absurd (Ticker.next?_period does.tick_next.2) changed

/-! ## A worker keeps order -/

/-- What can be told of a worker after any past. -/
structure Orderly (pipeline : Pipeline) (check : Check) (born : Span) (past : List Deed)
    (present : Worker) : Prop where
  oneAtATime : begun past ≤ finished past + 1
  noneInProgress : ∀ before deed after, past = before ++ deed :: after →
    deed.act.begins = true → begun before = finished before
  count : present.status.cycles = finished past
  verdict : present.status.lastVerdict = latestVerdict past
  reported : ∀ before deed after asker status, past = before ++ deed :: after →
    Answer.status asker status ∈ deed.answers →
      status.cycles = finished before ∧ status.lastVerdict = latestVerdict before
  /-- Every cycle uses the definition of the latest accepted update before it. -/
  uses : ∀ before deed after, past = before ++ deed :: after → deed.act.begins = true →
    ∃ asker, deed.after.stage =
      .busy asker (pipeline.cycle (definition check before)) deed.time
  period : present.hasEnded = false →
    (definition check past).period? = some (.ok present.ticker.period)
  /-- Within a span after the ticker was last started ticks begin a cycle for each period,
  and one.  A period beyond thirty years counts as thirty years. -/
  paced : ∀ before after since, past = before ++ after → SetGoing born before since →
    (∀ deed ∈ after, deed.restarts = false) →
      ∀ span, ticksUntil after (since.nanos + span) ≤
        span / min present.ticker.period.nanos Ticker.horizon + 1
  /-- A tick makes up for no other, unless it was late by at most five milliseconds and the
  period is no longer than that. -/
  skips : ∀ deed ∈ past, deed.act = .tick →
    deed.time.nanos < deed.after.ticker.deadline.nanos ∨
      deed.before.ticker.period.nanos ≤ Ticker.tolerance ∧
        deed.time.nanos ≤ deed.before.ticker.deadline.nanos + Ticker.tolerance ∧
          deed.after.ticker.deadline.nanos =
            deed.before.ticker.deadline.nanos + deed.before.ticker.period.nanos

/-- However a worker lives, it keeps order. -/
theorem Lives.keeps_order {check : Check} {period born : Span} {past : List Deed} {present : Worker}
    (read : check.period? = some (.ok period))
    (lives : Lives pipeline (Worker.start check period born) born past present now) :
    Orderly pipeline check born past present := by
  have accounts := lives.accounts read
  refine
    { oneAtATime := accounts.alone
      noneInProgress := ?noneInProgress
      count := accounts.cycles
      verdict := accounts.verdict
      reported := ?reported
      uses := ?uses
      period := ?period
      paced := ?paced
      skips := ?skips }
  case noneInProgress =>
    intro before deed after parts begins
    subst parts
    obtain ⟨clock, former, does⟩ := lives.at_entry
    have ready := (does.begins_ready begins).1
    have flight := (former.accounts read).flight (by simp [hasEnded, ready])
    simpa [inFlight, ready] using flight
  case reported =>
    intro before deed after asker status parts told
    subst parts
    obtain ⟨clock, former, does⟩ := lives.at_entry
    obtain rfl := does.status_told told
    exact ⟨(former.accounts read).cycles, (former.accounts read).verdict⟩
  case uses =>
    intro before deed after parts begins
    subst parts
    obtain ⟨clock, former, does⟩ := lives.at_entry
    obtain ⟨_, asker, busy⟩ := does.begins_ready begins
    rw [(former.accounts read).check] at busy
    exact ⟨asker, busy⟩
  case period =>
    intro stillOn
    rw [← accounts.check]
    exact accounts.period stillOn
  case paced =>
    intro before after since parts going steady span
    subst parts
    obtain ⟨middle, clock, early, late⟩ := lives.split
    have paced := late.paced (early.accounts read).lasting (going.ahead early) steady
    have bounded := paced.bounded span
    unfold Ticker.stride at bounded
    rwa [← paced.period] at bounded
  case skips =>
    intro deed member ticks
    obtain ⟨before, after, rfl⟩ := List.append_of_mem member
    obtain ⟨clock, former, does⟩ := lives.at_entry
    rw [ticks] at does
    have lasting := (former.accounts read).lasting
    by_cases ahead : deed.time.nanos < deed.after.ticker.deadline.nanos
    · exact Or.inl ahead
    · rcases Ticker.next?_ahead lasting does.tick_next.2 with further | ⟨inTime, next⟩
      · exact Or.inl further
      · exact Or.inr ⟨by omega, inTime, next⟩

/-! ## Ticks that are made up for -/

def bareCheck (interval : String) : Check :=
  ⟨1, 1, "bare", interval, .list [], [], [], false⟩

def bareWorker (interval : String) (ticker : Ticker) (cycles : Nat) : Worker :=
  { Worker.start (bareCheck interval) ticker.period ticker.deadline with
    ticker, cycles, lastVerdict := if cycles = 0 then none else some false }

theorem bare_cycle (pipeline : Pipeline) (interval : String) (ticker : Ticker) {next : Ticker}
    (cycles : Nat) (now later : Span) (due : ticker.due now = true)
    (goesOn : ticker.next? now = some next) (onward : now.nanos ≤ later.nanos) :
    ∃ past, Lives pipeline (bareWorker interval ticker cycles) now past
      (bareWorker interval next (cycles + 1)) later ∧ tickTimes past = [now.nanos] := by
  have tick : Does pipeline now (bareWorker interval ticker cycles) .tick _ _ :=
    .tick next rfl due goesOn
  have asked := (Lives.single tick).step now (Nat.le_refl _)
    (.exchange none (.hostsByNames 1 []) _ now now (.ok []) rfl)
  have ended := asked.step later onward (.finish none (.ok ⟨false, false, 0⟩) now rfl)
  exact ⟨_, ended, rfl⟩

def barePipeline : Pipeline :=
  ⟨⟨300 * Span.second⟩, 1, ⟨[], false, "daemon"⟩⟩

/-- A worker with a period of a minute whose first cycle takes three minutes: the ticks after
one and two minutes are lost. -/
theorem long_cycle_loses_ticks :
    ∃ past, Lives barePipeline (Worker.start (bareCheck "1m") ⟨60000000000⟩ ⟨0⟩) ⟨0⟩ past
        (bareWorker "1m" ⟨⟨240000000000⟩, ⟨60000000000⟩⟩ 2) ⟨180000000000⟩ ∧
      tickTimes past = [0, 180000000000] ∧
      Orderly barePipeline (bareCheck "1m") ⟨0⟩ past
        (bareWorker "1m" ⟨⟨240000000000⟩, ⟨60000000000⟩⟩ 2) := by
  have read : (bareCheck "1m").period? = some (.ok ⟨60000000000⟩) := by decide +kernel
  obtain ⟨first, early, one⟩ := bare_cycle barePipeline "1m" ⟨⟨0⟩, ⟨60000000000⟩⟩ 0 ⟨0⟩
    ⟨180000000000⟩ rfl rfl (by decide)
  obtain ⟨second, late, other⟩ := bare_cycle barePipeline "1m" ⟨⟨60000000000⟩, ⟨60000000000⟩⟩ 1
    ⟨180000000000⟩ ⟨180000000000⟩ rfl rfl (by decide)
  have lives := early.append late
  exact ⟨first ++ second, lives, by rw [tickTimes_append, one, other]; rfl, lives.keeps_order read⟩

/-- Ticks that are at most five milliseconds late are made up for: after a first cycle of four
milliseconds there are four cycles at once.  And a period that the clock cannot reach ends
after thirty years. -/
theorem hardly_late_ticks_are_made_up :
    (bareCheck "1ms").period? = some (.ok ⟨1000000⟩) ∧
      (∃ past present, Lives barePipeline (Worker.start (bareCheck "1ms") ⟨1000000⟩ ⟨0⟩) ⟨0⟩
          past present ⟨4000000⟩ ∧
        tickTimes past = [0, 4000000, 4000000, 4000000, 4000000]) ∧
      (bareCheck "18446744073709551615s").period? =
        some (.ok ⟨18446744073709551615000000000⟩) ∧
      ∃ past present, Lives barePipeline (Worker.start (bareCheck "18446744073709551615s")
          ⟨18446744073709551615000000000⟩ ⟨0⟩) ⟨0⟩ past present ⟨Ticker.horizon⟩ ∧
        Ticker.horizon / 18446744073709551615000000000 + 1 < ticksUntil past Ticker.horizon := by
  refine ⟨by decide +kernel, ?_, by decide +kernel, ?_⟩
  · obtain ⟨first, one, atFirst⟩ := bare_cycle barePipeline "1ms" ⟨⟨0⟩, ⟨1000000⟩⟩ 0 ⟨0⟩
      ⟨4000000⟩ rfl rfl (by decide)
    -- What is due at one, two, three and four milliseconds comes at four.
    have inTime : ∀ cycles < 4, Ticker.next? ⟨⟨(cycles + 1) * 1000000⟩, ⟨1000000⟩⟩ ⟨4000000⟩ =
        some ⟨⟨(cycles + 2) * 1000000⟩, ⟨1000000⟩⟩ := by decide
    have made : ∀ cycles < 4, ∃ past, Lives barePipeline
        (bareWorker "1ms" ⟨⟨(cycles + 1) * 1000000⟩, ⟨1000000⟩⟩ (cycles + 1)) ⟨4000000⟩ past
        (bareWorker "1ms" ⟨⟨(cycles + 2) * 1000000⟩, ⟨1000000⟩⟩ (cycles + 2)) ⟨4000000⟩ ∧
          tickTimes past = [4000000] := by
      intro cycles few
      refine bare_cycle barePipeline "1ms" _ (cycles + 1) _ _ ?_ (inTime cycles few)
        (Nat.le_refl _)
      simp only [Ticker.due, decide_eq_true_eq]
      omega
    obtain ⟨second, two, atSecond⟩ := made 0 (by decide)
    obtain ⟨third, three, atThird⟩ := made 1 (by decide)
    obtain ⟨fourth, four, atFourth⟩ := made 2 (by decide)
    obtain ⟨fifth, five, atFifth⟩ := made 3 (by decide)
    refine ⟨_, _, (((one.append two).append three).append four).append five, ?_⟩
    simp only [tickTimes_append, atFirst, atSecond, atThird, atFourth, atFifth]
    rfl
  · obtain ⟨first, one, atFirst⟩ := bare_cycle barePipeline "18446744073709551615s"
      ⟨⟨0⟩, ⟨18446744073709551615000000000⟩⟩ 0 ⟨0⟩ ⟨Ticker.horizon⟩ rfl rfl (by decide)
    obtain ⟨second, two, atSecond⟩ := bare_cycle barePipeline "18446744073709551615s"
      ⟨⟨Ticker.horizon⟩, ⟨18446744073709551615000000000⟩⟩ 1 ⟨Ticker.horizon⟩ ⟨Ticker.horizon⟩
      rfl rfl (by decide)
    refine ⟨_, _, one.append two, ?_⟩
    rw [ticksUntil, tickTimes_append, atFirst, atSecond]
    decide

end Worker

end FleetMonitor
