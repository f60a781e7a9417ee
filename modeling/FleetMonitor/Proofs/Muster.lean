import FleetMonitor.Proofs.InLine
import FleetMonitor.Proofs.Keys

/-!
# Workers and new definitions, interleaved

A worker may be anywhere in its cycle while checks are brought in line, and checks may be
brought in line while a worker goes on: between any two things that happen to one of them
anything may happen to the others.  Whatever the workers of a crew do, and whatever is
done with them, is such a run.
-/

set_option autoImplicit false

namespace FleetMonitor

open Routine

def IncidentKeys.Follows (keys : IncidentKeys) : Option Exchange → IncidentKeys → Prop
  | none, later => later = keys
  | some exchange, later => keys.Responds exchange later

namespace Worker

/-- One thing that happens to a worker, and what it asked and was answered in it.  It may
break off at any time, for whatever reason. -/
inductive Moves (pipeline : Pipeline) : Worker → Option Exchange → Worker → Prop
  | tick (worker : Worker) (now : Span) (ready : worker.stage = .ready)
      (due : worker.ticker.due now = true) :
      Moves pipeline worker none (worker.tick pipeline now).1
  | take (worker : Worker) (now : Span) (command : Command) (rest : List Command)
      (ready : worker.stage = .ready) (queue : worker.queue = command :: rest) :
      Moves pipeline worker none
        (({ worker with queue := rest } : Worker).handle pipeline now command).1
  | ask (worker : Worker) (asker : Option Nat) (request : Request)
      (next : request.Answer → CycleRoutine) (wake later : Span) (answer : request.Answer)
      (busy : worker.stage = .busy asker (.ask request next) wake) :
      Moves pipeline worker (some ⟨request, answer⟩)
        { worker with stage := .busy asker (next answer) later }
  | finish (worker : Worker) (asker : Option Nat) (result : Except CycleError CycleReport)
      (wake : Span) (busy : worker.stage = .busy asker (.done result) wake) :
      Moves pipeline worker none (worker.finish asker result).1
  | breakOff (worker : Worker) (asker : Option Nat) (goesOn : worker.hasEnded = false) :
      Moves pipeline worker none (worker.breakOff asker).1

theorem Moves.goesOn {pipeline : Pipeline} {worker later : Worker} {exchange : Option Exchange}
    (moves : Moves pipeline worker exchange later) : worker.hasEnded = false := by
  unfold hasEnded
  cases moves with
  | tick now ready => rw [ready]
  | take now command rest ready => rw [ready]
  | ask asker request next wake later answer busy => rw [busy]
  | finish asker result wake busy => rw [busy]
  | breakOff asker goesOn => exact goesOn

theorem tell?_eq {worker told : Worker} {command : Command}
    (heard : worker.tell? command = some told) :
    told = { worker with queue := worker.queue ++ [command] } := by
  rw [tell?, if_neg (by simp [tell?_goesOn worker told command heard])] at heard
  exact (Option.some.inj heard).symm

theorem tell?_stillOn {worker told : Worker} {command : Command}
    (heard : worker.tell? command = some told) : told.hasEnded = false := by
  rw [tell?_eq heard]
  exact tell?_goesOn worker told command heard

inductive Goes (pipeline : Pipeline) : Worker → IncidentKeys → Worker → IncidentKeys → Prop
  | still (worker : Worker) (keys : IncidentKeys) : Goes pipeline worker keys worker keys
  | move {worker middle later : Worker} {keys between after : IncidentKeys}
      {exchange : Option Exchange} (moves : Moves pipeline worker exchange middle)
      (follows : keys.Follows exchange between) (goes : Goes pipeline middle between later after) :
      Goes pipeline worker keys later after

namespace Goes

variable {pipeline : Pipeline}

theorem trans {first second third : Worker} {keys between after : IncidentKeys}
    (early : Goes pipeline first keys second between)
    (late : Goes pipeline second between third after) : Goes pipeline first keys third after := by
  induction early with
  | still worker keys => exact late
  | move moves follows _ ih => exact .move moves follows (ih late)

theorem single {worker later : Worker} (keys : IncidentKeys)
    (moves : Moves pipeline worker none later) : Goes pipeline worker keys later keys :=
  .move moves rfl (.still later keys)

def Reaches (pipeline : Pipeline) (former worker : Worker) (keys : IncidentKeys)
    (asker : Option Nat) : Progress (Except CycleError CycleReport) → IncidentKeys → Prop
  | .finished (some result), after =>
      Goes pipeline former keys (worker.finish asker result).1 after
  | .finished none, after => Goes pipeline former keys (worker.breakOff asker).1 after
  | .waiting rest, after =>
      ∀ wake, Goes pipeline former keys { worker with stage := .busy asker rest wake } after

theorem Reaches.after {former between worker : Worker} {keys middle later : IncidentKeys}
    {asker : Option Nat} {progress : Progress (Except CycleError CycleReport)}
    (goes : Goes pipeline former keys between middle)
    (reaches : Reaches pipeline between worker middle asker progress later) :
    Reaches pipeline former worker keys asker progress later := by
  match progress, reaches with
  | .finished (some _), reaches => exact goes.trans reaches
  | .finished none, reaches => exact goes.trans reaches
  | .waiting _, reaches => exact fun wake => goes.trans (reaches wake)

theorem of_proceed (worker : Worker) (asker : Option Nat) (rest : CycleRoutine) (wake : Span)
    (s : Surroundings) :
    Reaches pipeline { worker with stage := .busy asker rest wake } worker s.keys asker
      (rest.proceed s).1 (rest.proceed s).2.keys := by
  -- By induction on the routine: after any request the worker may be left waiting.
  induction rest generalizing s wake with
  | done result => exact single s.keys (.finish _ asker result wake rfl)
  | broken => exact single s.keys (.breakOff _ asker rfl)
  | ask request next ih =>
      have asked : ∀ later, Goes pipeline
          { worker with stage := .busy asker (.ask request next) wake } s.keys
          { worker with stage := .busy asker (next (s.answer request).1) later }
          (s.answer request).2.keys := fun later =>
        .move (.ask _ asker request next wake later (s.answer request).1 rfl)
          (s.answer_responds request) (.still _ _)
      have unrolled : (Routine.ask request next).proceed s =
          if request.isProbe && !s.probeDelay.isZero then
            (.waiting (next (s.answer request).1), (s.answer request).2)
          else (next (s.answer request).1).proceed (s.answer request).2 := rfl
      rw [unrolled]
      split
      · exact asked
      · exact .after (asked wake) (ih _ wake _)

theorem of_resume (worker : Worker) (asker : Option Nat) (rest : CycleRoutine) (wake now : Span)
    (s : Surroundings) (busy : worker.stage = .busy asker rest wake) :
    Goes pipeline worker s.keys (worker.resume asker rest now s).1
      (worker.resume asker rest now s).2.2.keys := by
  have reaches : Reaches pipeline _ worker s.keys asker _ _ :=
    of_proceed worker asker rest wake s.later
  have same : { worker with stage := .busy asker rest wake } = worker := by rw [← busy]
  rw [same] at reaches
  unfold resume
  match rest.proceed s.later, reaches with
  | (.finished (some _), _), reaches => exact reaches
  | (.finished none, _), reaches => exact reaches
  | (.waiting _, _), reaches => exact reaches _

theorem of_step? (worker next : Worker) (now : Span) (s after : Surroundings)
    (answers : List Answer) (stepped : worker.step? pipeline now s = some (next, answers, after)) :
    Goes pipeline worker s.keys next after.keys := by
  unfold step? at stepped
  cases stage : worker.stage with
  | ended => simp [stage] at stepped
  | busy asker rest wake =>
      simp only [stage] at stepped
      split at stepped
      · have resumed : Goes pipeline worker s.keys _ _ :=
          of_resume worker asker rest wake now s stage
        rw [Option.some.inj stepped] at resumed
        exact resumed
      · cases stepped
  | ready =>
      simp only [stage] at stepped
      obtain ⟨acted, act, same⟩ := Option.map_eq_some_iff.mp stepped
      obtain ⟨rfl, _, rfl⟩ := Prod.mk.inj same |>.imp id Prod.mk.inj
      unfold act? at act
      split at act
      · obtain rfl := Option.some.inj act
        exact single s.keys (.tick worker now stage ‹_›)
      · cases queue : worker.queue with
        | nil => simp [queue] at act
        | cons command rest =>
            rw [queue] at act
            obtain rfl := Option.some.inj act
            exact single s.keys (.take worker now command rest stage queue)

theorem of_run (worker : Worker) (now : Span) (fuel : Nat) (s : Surroundings) :
    Goes pipeline worker s.keys (worker.run pipeline now fuel s).1
      (worker.run pipeline now fuel s).2.2.keys := by
  induction fuel generalizing worker s with
  | zero => exact .still worker s.keys
  | succ fuel ih =>
      unfold run
      cases stepped : worker.step? pipeline now s with
      | none => exact .still worker s.keys
      | some went =>
          obtain ⟨next, answers, after⟩ := went
          exact (of_step? worker next now s after answers stepped).trans (ih next after)

end Goes

end Worker

/-! ## A crew in the middle of its work -/

/-- A crew that may be in the middle of being brought in line with a list of checks. -/
structure Muster where
  r : Reconciliation
  leaving : List Int
  ahead : List Check
  /-- A new definition, with its period, that waits to be put into the queue of a worker. -/
  handing : Option (Check × Span)

namespace Muster

def empty : Muster :=
  ⟨⟨.empty, .empty, ⟨[], [], [], []⟩, false⟩, [], [], none⟩

structure Idle (m : Muster) : Prop where
  leaving : m.leaving = []
  ahead : m.ahead = []
  handing : m.handing = none

structure Next (m : Muster) (check : Check) (rest : List Check) : Prop where
  leaving : m.leaving = []
  ahead : m.ahead = check :: rest
  handing : m.handing = none

def placed (m : Muster) (id : Int) (scheduled : Scheduled) (keys : IncidentKeys) : Muster :=
  { m with r := { m.r with schedule := m.r.schedule.replace id scheduled, keys } }

def summoned (m : Muster) (checks : List Check) : Muster where
  r := ⟨m.r.schedule, m.r.keys, ⟨[], [], [], []⟩, false⟩
  leaving := m.r.schedule.gone checks
  ahead := checks
  handing := none

inductive Act where
  | work (id : Int) (exchange : Option Exchange)
  | tell (id : Int) (command : Command)
  | summon (checks : List Check)
  | arrange

def Act.Works : Act → Prop
  | work _ _ => True
  | _ => False

/-- What can happen in a muster: something to one worker, or something that is done to
bring it in line.  A new definition is announced first, which drops the keys of triggers
that it has no more, and then handed to its worker. -/
inductive Step (pipeline : Pipeline) : Muster → Act → Muster → Prop
  | work {m : Muster} {id : Int} {scheduled : Scheduled} {exchange : Option Exchange}
      {worker : Worker} {keys : IncidentKeys} (found : m.r.schedule.find? id = some scheduled)
      (moves : scheduled.worker.Moves pipeline exchange worker)
      (follows : m.r.keys.Follows exchange keys) :
      Step pipeline m (.work id exchange) (m.placed id { scheduled with worker } keys)
  | tell {m : Muster} {id : Int} {scheduled : Scheduled} {worker : Worker} (command : Command)
      (noUpdate : Crew.asks command = true) (found : m.r.schedule.find? id = some scheduled)
      (told : scheduled.worker.tell? command = some worker) :
      Step pipeline m (.tell id command) (m.placed id { scheduled with worker } m.r.keys)
  | summon {m : Muster} (checks : List Check) (idle : m.Idle) :
      Step pipeline m (.summon checks) (m.summoned checks)
  | forget {m : Muster} {id : Int} {rest : List Int} (leaving : m.leaving = id :: rest) :
      Step pipeline m .arrange { m with r := m.r.forget id, leaving := rest }
  | unread {m : Muster} {check : Check} {rest : List Check} (next : m.Next check rest)
      (endless : check.period? = none) :
      Step pipeline m .arrange { m with r := { m.r with broken := true }, ahead := [] }
  | refuse {m : Muster} {check : Check} {rest : List Check} {cause : IntervalError}
      (next : m.Next check rest) (refused : check.period? = some (.error cause)) :
      Step pipeline m .arrange { m with r := m.r.reject check.id, ahead := rest }
  | start {m : Muster} {check : Check} {rest : List Check} {period : Span} (now : Span)
      (next : m.Next check rest) (read : check.period? = some (.ok period))
      (vacant : ∀ scheduled, m.r.schedule.find? check.id = some scheduled →
        scheduled.worker.showing = .stopped) :
      Step pipeline m .arrange { m with r := m.r.start check period now, ahead := rest }
  | leave {m : Muster} {check : Check} {rest : List Check} {period : Span}
      {scheduled : Scheduled} (next : m.Next check rest)
      (read : check.period? = some (.ok period))
      (found : m.r.schedule.find? check.id = some scheduled)
      (shown : scheduled.worker.showing ≠ .stopped)
      (same : (scheduled.definition == check) = true) :
      Step pipeline m .arrange { m with ahead := rest }
  | announce {m : Muster} {check : Check} {rest : List Check} {period : Span}
      {scheduled : Scheduled} (next : m.Next check rest)
      (read : check.period? = some (.ok period))
      (found : m.r.schedule.find? check.id = some scheduled)
      (shown : scheduled.worker.showing ≠ .stopped)
      (changed : (scheduled.definition == check) = false) :
      Step pipeline m .arrange
        { m with r := m.r.forgetRemoved check, ahead := rest, handing := some (check, period) }
  | hand {m : Muster} {check : Check} {period : Span} (now : Span)
      (handing : m.handing = some (check, period)) :
      Step pipeline m .arrange { m with r := m.r.tell check period now, handing := none }

/-- What happened on the way from one muster to another, each time with the muster in which
it happened. -/
inductive Path (pipeline : Pipeline) (origin : Muster) : List (Muster × Act) → Muster → Prop
  | start : Path pipeline origin [] origin
  | step {past : List (Muster × Act)} {m later : Muster} {act : Act}
      (former : Path pipeline origin past m) (step : Step pipeline m act later) :
      Path pipeline origin (past ++ [(m, act)]) later

theorem Path.append {pipeline : Pipeline} {origin m later : Muster}
    {past more : List (Muster × Act)} (early : Path pipeline origin past m)
    (late : Path pipeline m more later) : Path pipeline origin (past ++ more) later := by
  induction late with
  | start => rwa [List.append_nil]
  | step _ step ih =>
      rw [← List.append_assoc]
      exact ih.step step

end Muster

/-! ## What becomes of a worker -/

namespace Reconciliation

theorem reject_find? (r : Reconciliation) (id other : Int) :
    (r.reject id).schedule.find? other =
      if other = id then none else r.schedule.find? other :=
  forget_find? r id other

theorem start_find? (r : Reconciliation) (check : Check) (period now : Span) (id : Int) :
    (r.start check period now).schedule.find? id =
      if id = check.id then some ⟨check, .start check period now⟩ else r.schedule.find? id :=
  Schedule.find?_start r.schedule check period now id

theorem tell_find? (r : Reconciliation) (check : Check) (period now : Span) (id : Int) :
    (r.tell check period now).schedule.find? id =
      if id = check.id then
        some ⟨check,
          ((r.schedule.find? check.id).bind fun scheduled =>
            scheduled.worker.tell? (.update check)).getD (.start check period now)⟩
      else r.schedule.find? id := by
  unfold tell
  cases heard : (r.schedule.find? check.id).bind fun scheduled =>
      scheduled.worker.tell? (.update check) with
  | none => exact Schedule.find?_start r.schedule check period now id
  | some worker =>
      obtain ⟨scheduled, found, _⟩ := Option.bind_eq_some_iff.mp heard
      refine (Schedule.find?_replace r.schedule check.id id ⟨check, worker⟩).trans ?_
      rw [found, Option.map_some, Option.getD_some]

end Reconciliation

namespace Muster

variable {pipeline : Pipeline} {m later : Muster} {act : Act}

open Reconciliation

theorem placed_find? (m : Muster) (id other : Int) (scheduled : Scheduled)
    (keys : IncidentKeys) (former : Scheduled)
    (found : m.r.schedule.find? id = some former) :
    (m.placed id scheduled keys).r.schedule.find? other =
      if other = id then some scheduled else m.r.schedule.find? other := by
  refine (Schedule.find?_replace m.r.schedule id other scheduled).trans ?_
  rw [found, Option.map_some]

inductive Fate (pipeline : Pipeline) (m : Muster) (id : Int) : Act → Option Scheduled → Prop
  | same {act : Act} {found : Option Scheduled} (stood : m.r.schedule.find? id = found) :
      Fate pipeline m id act found
  | moved {scheduled : Scheduled} {exchange : Option Exchange} {worker : Worker}
      (stood : m.r.schedule.find? id = some scheduled)
      (moves : scheduled.worker.Moves pipeline exchange worker) :
      Fate pipeline m id (.work id exchange) (some { scheduled with worker })
  | told {scheduled : Scheduled} {command : Command} {worker : Worker}
      (noUpdate : Crew.asks command = true) (stood : m.r.schedule.find? id = some scheduled)
      (told : scheduled.worker.tell? command = some worker) :
      Fate pipeline m id (.tell id command) (some { scheduled with worker })
  | forgotten (leaving : id ∈ m.leaving) : Fate pipeline m id .arrange none
  | refused {check : Check} {rest : List Check} {cause : IntervalError}
      (next : m.Next check rest) (own : check.id = id)
      (refused : check.period? = some (.error cause)) : Fate pipeline m id .arrange none
  | started {check : Check} {rest : List Check} {period : Span} (now : Span)
      (next : m.Next check rest) (own : check.id = id)
      (vacant : ∀ scheduled, m.r.schedule.find? id = some scheduled →
        scheduled.worker.showing = .stopped) :
      Fate pipeline m id .arrange (some ⟨check, .start check period now⟩)
  | updated {check : Check} {period : Span} {scheduled : Scheduled} {worker : Worker}
      (handing : m.handing = some (check, period)) (own : check.id = id)
      (stood : m.r.schedule.find? id = some scheduled)
      (told : scheduled.worker.tell? (.update check) = some worker) :
      Fate pipeline m id .arrange (some ⟨check, worker⟩)
  /-- Nobody listened any more. -/
  | restarted {check : Check} {period : Span} (now : Span)
      (handing : m.handing = some (check, period)) (own : check.id = id) :
      Fate pipeline m id .arrange (some ⟨check, .start check period now⟩)

theorem Step.fate (step : Step pipeline m act later) (id : Int) :
    Fate pipeline m id act (later.r.schedule.find? id) := by
  cases step with
  | @work other scheduled exchange worker keys found moves follows =>
      rw [m.placed_find? other id { scheduled with worker } keys scheduled found]
      split
      · rename_i own
        subst own
        exact .moved found moves
      · exact .same rfl
  | @tell other scheduled worker command noUpdate found told =>
      rw [m.placed_find? other id { scheduled with worker } m.r.keys scheduled found]
      split
      · rename_i own
        subst own
        exact .told noUpdate found told
      · exact .same rfl
  | summon checks idle => exact .same rfl
  | @forget other rest leaving =>
      rw [forget_find? m.r other id]
      split
      · rename_i own
        exact .forgotten (by rw [leaving, own]; exact List.mem_cons_self)
      · exact .same rfl
  | unread next endless => exact .same rfl
  | @refuse check rest cause next refused =>
      rw [reject_find? m.r check.id id]
      split
      · rename_i own
        exact .refused next own.symm refused
      · exact .same rfl
  | @start check rest period now next read vacant =>
      rw [start_find? m.r check period now id]
      split
      · rename_i own
        exact .started now next own.symm (own ▸ vacant)
      · exact .same rfl
  | leave next read found shown same => exact .same rfl
  | announce next read found shown changed => exact .same rfl
  | @hand check period now handing =>
      rw [tell_find? m.r check period now id]
      split
      · rename_i own
        cases heard : (m.r.schedule.find? check.id).bind fun scheduled =>
            scheduled.worker.tell? (.update check) with
        | none => exact .restarted now handing own.symm
        | some worker =>
            obtain ⟨scheduled, stood, heard⟩ := Option.bind_eq_some_iff.mp heard
            exact .updated handing own.symm (own ▸ stood) heard
      · exact .same rfl

end Muster

/-! ## What a crew does is such a run -/

theorem Schedule.replace_at (before after : List (Int × Scheduled)) (id : Int)
    (former scheduled : Scheduled)
    (fresh : id ∉ (before ++ after).map (·.1)) :
    Schedule.replace ⟨before ++ (id, former) :: after⟩ id scheduled =
      ⟨before ++ (id, scheduled) :: after⟩ := by
  have others : ∀ list : List (Int × Scheduled), id ∉ list.map (·.1) →
      (list.map fun entry => if entry.1 == id then (id, scheduled) else entry) = list := by
    intro list absent
    refine (List.map_congr_left fun entry member => ?_).trans (List.map_id' list)
    exact if_neg fun same => absent (List.mem_map.mpr ⟨entry, member, eq_of_beq same⟩)
  rw [List.map_append, List.mem_append, not_or] at fresh
  rw [Schedule.replace, List.map_append, List.map_cons, others before fresh.1,
    others after fresh.2]
  simp

theorem Schedule.find?_at (before after : List (Int × Scheduled)) (id : Int)
    (scheduled : Scheduled) (fresh : id ∉ before.map (·.1)) :
    Schedule.find? ⟨before ++ (id, scheduled) :: after⟩ id = some scheduled := by
  refine List.lookup_eq_some_iff.mpr ⟨before, after, rfl, fun entry member => ?_⟩
  have apart : id ≠ entry.1 := fun same => fresh (List.mem_map.mpr ⟨entry, member, same.symm⟩)
  exact bne_iff_ne.mpr apart

theorem Reconciliation.fold_of_broken (now : Span) (checks : List Check) (r : Reconciliation)
    (broken : r.broken = true) : checks.foldl (assign now) r = r := by
  induction checks with
  | nil => rfl
  | cons check rest ih => rw [List.foldl_cons, assign, if_pos broken, ih]

namespace Muster

variable {pipeline : Pipeline}

def resting (schedule : Schedule) (keys : IncidentKeys) (report : ScheduleReport)
    (broken : Bool) : Muster :=
  ⟨⟨schedule, keys, report, broken⟩, [], [], none⟩

theorem resting_at (before others : List (Int × Scheduled)) (id : Int) (scheduled : Scheduled)
    (fresh : id ∉ (before ++ others).map (·.1)) (keys : IncidentKeys) (report : ScheduleReport)
    (broken : Bool) :
    (resting ⟨before ++ (id, scheduled) :: others⟩ keys report broken).r.schedule.find? id =
        some scheduled ∧
      ∀ other after, (resting ⟨before ++ (id, scheduled) :: others⟩ keys report broken).placed id
          other after =
        resting ⟨before ++ (id, other) :: others⟩ after report broken := by
  constructor
  · refine Schedule.find?_at before others id scheduled fun member => fresh ?_
    rw [List.map_append]
    exact List.mem_append_left _ member
  · intro other after
    rw [placed, resting, Schedule.replace_at before others id scheduled other fresh]
    rfl

namespace Path

theorem of_goes {worker later : Worker} {keys after : IncidentKeys}
    (goes : worker.Goes pipeline keys later after) (before others : List (Int × Scheduled))
    (id : Int) (definition : Check) (fresh : id ∉ (before ++ others).map (·.1))
    (report : ScheduleReport) (broken : Bool) :
    ∃ past, Path pipeline
      (resting ⟨before ++ (id, ⟨definition, worker⟩) :: others⟩ keys report broken) past
      (resting ⟨before ++ (id, ⟨definition, later⟩) :: others⟩ after report broken) ∧
        ∀ entry ∈ past, entry.2.Works := by
  induction goes with
  | still worker keys => exact ⟨[], .start, List.forall_mem_nil _⟩
  | @move worker middle later keys between after exchange moves follows _ ih =>
      obtain ⟨past, path, works⟩ := ih
      obtain ⟨found, placed⟩ :=
        resting_at before others id ⟨definition, worker⟩ fresh keys report broken
      have step := Step.work found moves follows
      rw [placed] at step
      exact ⟨_, (Path.start.step step).append path, List.forall_mem_cons.mpr ⟨trivial, works⟩⟩

variable (pipeline)

theorem of_runAll (now : Span) (workers before : List (Int × Scheduled)) (s : Surroundings)
    (distinct : ((before ++ workers).map (·.1)).Nodup) (report : ScheduleReport) (broken : Bool) :
    ∃ past, Path pipeline (resting ⟨before ++ workers⟩ s.keys report broken) past
      (resting ⟨before ++ (Crew.runAll pipeline now workers s).1⟩
        (Crew.runAll pipeline now workers s).2.2.keys report broken) ∧
        ∀ entry ∈ past, entry.2.Works := by
  induction workers generalizing before s with
  | nil => exact ⟨[], .start, List.forall_mem_nil _⟩
  | cons entry rest ih =>
      obtain ⟨id, scheduled⟩ := entry
      have fresh : id ∉ (before ++ rest).map (·.1) := by
        simp only [List.map_append, List.map_cons] at distinct ⊢
        rw [List.nodup_middle] at distinct
        exact (List.nodup_cons.mp distinct).1
      have goes : scheduled.worker.Goes pipeline s.keys _ _ :=
        .of_run scheduled.worker now (scheduled.worker.load now) s
      obtain ⟨went, early, first⟩ :=
        of_goes goes before rest id scheduled.definition fresh report broken
      obtain ⟨others, late, second⟩ := ih
        (before ++ [(id, ⟨scheduled.definition,
          (scheduled.worker.run pipeline now (scheduled.worker.load now) s).1⟩)])
        (scheduled.worker.run pipeline now (scheduled.worker.load now) s).2.2
        (by simpa using distinct)
      rw [List.append_assoc] at late
      have joined := early.append late
      exact ⟨went ++ others, by simpa [Crew.runAll] using joined,
        List.forall_mem_append.mpr ⟨first, second⟩⟩

theorem of_forgetAll (leaving : List Int) (r : Reconciliation) (ahead : List Check)
    (handing : Option (Check × Span)) :
    ∃ past, Path pipeline ⟨r, leaving, ahead, handing⟩ past
      ⟨leaving.foldl Reconciliation.forget r, [], ahead, handing⟩ ∧
        ∀ entry ∈ past, entry.2 = .arrange := by
  induction leaving generalizing r with
  | nil => exact ⟨[], .start, List.forall_mem_nil _⟩
  | cons id rest ih =>
      obtain ⟨past, path, arranges⟩ := ih (r.forget id)
      have step : Step pipeline ⟨r, id :: rest, ahead, handing⟩ .arrange
          ⟨r.forget id, rest, ahead, handing⟩ := .forget rfl
      exact ⟨_, (Path.start.step step).append path, List.forall_mem_cons.mpr ⟨rfl, arranges⟩⟩

theorem of_assign (now : Span) (check : Check) (rest : List Check) (r : Reconciliation)
    (whole : r.broken = false) :
    ∃ past, Path pipeline ⟨r, [], check :: rest, none⟩ past
      ⟨r.assign now check, [], if check.period? = none then [] else rest, none⟩ ∧
        ∀ entry ∈ past, entry.2 = .arrange := by
  have next : Next ⟨r, [], check :: rest, none⟩ check rest := ⟨rfl, rfl, rfl⟩
  have one : ∀ {later : Muster}, Step pipeline ⟨r, [], check :: rest, none⟩ .arrange later →
      ∃ past, Path pipeline ⟨r, [], check :: rest, none⟩ past later ∧
        ∀ entry ∈ past, entry.2 = .arrange :=
    fun step => ⟨_, .step .start step, by simp⟩
  rw [Reconciliation.assign, if_neg (by simp [whole])]
  cases read : check.period? with
  | none => simpa using one (.unread next read)
  | some read' =>
      rw [if_neg (by simp)]
      cases read' with
      | error cause => exact one (.refuse next read)
      | ok period =>
          simp only [Reconciliation.place]
          cases found : r.schedule.find? check.id with
          | none => exact one (.start now next read (by simp [found]))
          | some scheduled =>
              simp only
              by_cases stopped : scheduled.worker.showing = .stopped
              · rw [if_pos stopped]
                exact one (.start now next read (by simpa [found] using stopped))
              · rw [if_neg stopped]
                cases same : scheduled.definition == check with
                | true => exact one (.leave next read found stopped same)
                | false =>
                    -- Two steps: in between, workers may go on with the former definition.
                    have announced : Step pipeline _ .arrange _ :=
                      .announce next read found stopped same
                    have handed : Step pipeline
                        ⟨r.forgetRemoved check, [], rest, some (check, period)⟩ .arrange _ :=
                      .hand now rfl
                    exact ⟨_, (Path.start.step announced).step handed, by simp⟩

theorem of_fold (now : Span) (checks : List Check) (r : Reconciliation)
    (whole : r.broken = false) :
    ∃ past, Path pipeline ⟨r, [], checks, none⟩ past
      ⟨checks.foldl (Reconciliation.assign now) r, [], [], none⟩ ∧
        ∀ entry ∈ past, entry.2 = .arrange := by
  induction checks generalizing r with
  | nil => exact ⟨[], .start, List.forall_mem_nil _⟩
  | cons check rest ih =>
      obtain ⟨past, path, first⟩ := of_assign pipeline now check rest r whole
      rw [List.foldl_cons]
      by_cases endless : check.period? = none
      · rw [if_pos endless] at path
        have broken := (Reconciliation.assign_broken now r check).mpr (Or.inr endless)
        rw [Reconciliation.fold_of_broken now rest _ broken]
        exact ⟨past, path, first⟩
      · rw [if_neg endless] at path
        obtain ⟨others, late, second⟩ := ih (r.assign now check)
          (Reconciliation.assign_whole now r whole check endless)
        exact ⟨past ++ others, path.append late, List.forall_mem_append.mpr ⟨first, second⟩⟩

theorem of_summoned (schedule : Schedule) (keys : IncidentKeys) (report : ScheduleReport)
    (broken : Bool) (now : Span) (checks : List Check) :
    ∃ past, Path pipeline ((resting schedule keys report broken).summoned checks) past
      ⟨schedule.apply keys now checks, [], [], none⟩ ∧ ∀ entry ∈ past, entry.2 = .arrange := by
  obtain ⟨forgotten, early, first⟩ := of_forgetAll pipeline (schedule.gone checks)
    ⟨schedule, keys, ⟨[], [], [], []⟩, false⟩ checks none
  obtain ⟨brought, late, second⟩ := of_fold pipeline now checks (schedule.retire keys checks)
    (Schedule.retire_whole schedule keys checks)
  exact ⟨_, early.append late, List.forall_mem_append.mpr ⟨first, second⟩⟩

theorem of_apply (schedule : Schedule) (keys : IncidentKeys) (report : ScheduleReport)
    (broken : Bool) (now : Span) (checks : List Check) :
    ∃ past, Path pipeline (resting schedule keys report broken) past
      ⟨schedule.apply keys now checks, [], [], none⟩ := by
  have summoned : Step pipeline (resting schedule keys report broken) (.summon checks) _ :=
    .summon checks ⟨rfl, rfl, rfl⟩
  obtain ⟨arranged, path, _⟩ := of_summoned pipeline schedule keys report broken now checks
  exact ⟨_, (Path.start.step summoned).append path⟩

theorem of_dismiss (workers before : List (Int × Scheduled)) (keys : IncidentKeys)
    (distinct : ((before ++ workers).map (·.1)).Nodup) (report : ScheduleReport) (broken : Bool) :
    ∃ past, Path pipeline (resting ⟨before ++ workers⟩ keys report broken) past
      (resting ⟨before ++ workers.map fun (id, scheduled) =>
        (id, { scheduled with
          worker := (scheduled.worker.tell? .shutdown).getD scheduled.worker })⟩
        keys report broken) ∧ ∀ entry ∈ past, ∃ id, entry.2 = .tell id .shutdown := by
  induction workers generalizing before with
  | nil => exact ⟨[], .start, List.forall_mem_nil _⟩
  | cons entry rest ih =>
      obtain ⟨id, scheduled⟩ := entry
      have fresh : id ∉ (before ++ rest).map (·.1) := by
        simp only [List.map_append, List.map_cons] at distinct ⊢
        rw [List.nodup_middle] at distinct
        exact (List.nodup_cons.mp distinct).1
      obtain ⟨others, late, tells⟩ := ih
        (before ++ [(id, ⟨scheduled.definition,
          (scheduled.worker.tell? .shutdown).getD scheduled.worker⟩)]) (by simpa using distinct)
      rw [List.append_assoc, List.append_assoc] at late
      cases told : scheduled.worker.tell? .shutdown with
      | none =>
          rw [told] at late
          exact ⟨others, by simpa [told] using late, tells⟩
      | some worker =>
          obtain ⟨found, placed⟩ := resting_at before rest id scheduled fresh keys report broken
          have step : Step pipeline _ (.tell id .shutdown) _ := .tell .shutdown rfl found told
          rw [placed] at step
          rw [told] at late
          exact ⟨_, by simpa [told] using (Path.start.step step).append late,
            List.forall_mem_cons.mpr ⟨⟨id, rfl⟩, tells⟩⟩

variable {pipeline}

/-- Every state that a crew can come to is reached so. -/
theorem of_reachable {crew : Crew} (reachable : Crew.Reachable pipeline crew) :
    crew.pipeline = pipeline ∧ ∃ past report broken,
      Path pipeline .empty past (resting crew.schedule crew.keys report broken) := by
  induction reachable with
  | empty => exact ⟨rfl, [], _, _, .start⟩
  | settle crew now s before ih =>
      obtain ⟨rfl, past, report, broken, path⟩ := ih
      have distinct := (Crew.reachable_kept _ crew before).distinct
      obtain ⟨worked, late, _⟩ := of_runAll crew.pipeline now crew.schedule.workers []
        { s with keys := crew.keys } distinct report broken
      exact ⟨rfl, _, report, broken, path.append late⟩
  | apply crew now checks _ ih =>
      obtain ⟨same, past, report, broken, path⟩ := ih
      obtain ⟨applied, late⟩ := of_apply pipeline crew.schedule crew.keys report broken now checks
      exact ⟨same, _, _, _, path.append late⟩
  | tell crew later id command noUpdate told _ ih =>
      obtain ⟨same, past, report, broken, path⟩ := ih
      unfold Crew.tell? at told
      obtain ⟨scheduled, found, told⟩ := Option.bind_eq_some_iff.mp told
      obtain ⟨worker, heard, told⟩ := Option.bind_eq_some_iff.mp told
      obtain rfl := Option.some.inj told
      exact ⟨same, _, report, broken, path.step (.tell command noUpdate found heard)⟩
  | dismiss crew before ih =>
      obtain ⟨same, past, report, broken, path⟩ := ih
      have distinct := (Crew.reachable_kept _ crew before).distinct
      obtain ⟨told, late, _⟩ := of_dismiss pipeline crew.schedule.workers [] crew.keys distinct
        report broken
      exact ⟨same, _, report, broken, path.append late⟩

end Path

end Muster

end FleetMonitor
