import FleetMonitor.Proofs.Holding
import FleetMonitor.Proofs.Replacement

/-!
# Keys of triggers that are gone

A new definition of a check drops the keys of the triggers that it has no more.  A cycle
that is in flight then still goes by the former definition, and a key that it takes is not
dropped when its worker takes the new one.  Every other key belongs to a trigger of the
definition that its worker goes by.
-/

set_option autoImplicit false

namespace FleetMonitor

open Routine

theorem IncidentKeys.Follows.held {keys later : IncidentKeys} {exchange : Option Exchange}
    (follows : keys.Follows exchange later) {checkId triggerId : Int} {key : String}
    (held : later.get? checkId triggerId = some key) :
    exchange = some ⟨.holdKey checkId triggerId key, ()⟩ ∨
      keys.get? checkId triggerId = some key ∧
        ∀ other, exchange ≠ some ⟨.holdKey checkId triggerId other, ()⟩ := by
  match exchange, follows with
  | none, follows =>
      rw [follows] at held
      exact Or.inr ⟨held, nofun⟩
  | some ⟨request, answer⟩, ⟨_, after⟩ =>
      rw [after] at held
      cases request with
      | holdKey c t taken =>
          rw [show keys.after ⟨.holdKey c t taken, answer⟩ = keys.hold c t taken from rfl,
            get?_hold] at held
          split at held
          · rename_i same
            obtain ⟨rfl, rfl⟩ := Prod.mk.inj same
            obtain rfl := Option.some.inj held
            exact Or.inl rfl
          · rename_i apart
            refine Or.inr ⟨held, fun other same => apart ?_⟩
            cases same
            rfl
      | dropKey c t =>
          rw [show keys.after ⟨.dropKey c t, answer⟩ = keys.drop c t from rfl, get?_drop] at held
          split at held
          · cases held
          · exact Or.inr ⟨held, nofun⟩
      | _ => exact Or.inr ⟨held, nofun⟩

/-! ## Workers -/

namespace Worker

/-- All that a worker goes by, now or later, it went by before or found in its queue. -/
structure Narrows (former later : Worker) : Prop where
  check : later.check = former.check ∨ Command.update later.check ∈ former.queue
  queue : ∀ update, Command.update update ∈ later.queue → Command.update update ∈ former.queue

/-- The worker of a check: it goes by definitions of that check, and takes keys only for
triggers of the one that it goes by. -/
structure Sound (id : Int) (worker : Worker) : Prop where
  own : worker.check.id = id
  queue : ∀ update, Command.update update ∈ worker.queue → update.id = id
  cycle : ∀ asker rest wake, worker.stage = .busy asker rest wake →
    Asks (Request.HoldsOwn worker.check) rest

theorem start_sound (check : Check) (period now : Span) :
    (start check period now).Sound check.id :=
  ⟨rfl, nofun, nofun⟩

theorem handle_narrows (pipeline : Pipeline) (now : Span) (worker : Worker) (command : Command)
    (rest : List Command) (queue : worker.queue = command :: rest) :
    worker.Narrows (({ worker with queue := rest } : Worker).handle pipeline now command).1 := by
  have later : ∀ update, Command.update update ∈ rest → Command.update update ∈ worker.queue := by
    intro update member
    rw [queue]
    exact List.mem_cons_of_mem command member
  have cleared : ∀ update, Command.update update ∈ ([] : List Command) →
      Command.update update ∈ worker.queue := by
    intro update member
    cases member
  cases command with
  | evaluate asker => exact ⟨Or.inl rfl, later⟩
  | status asker => exact ⟨Or.inl rfl, later⟩
  | shutdown => exact ⟨Or.inl rfl, cleared⟩
  | update check =>
      have taken : Command.update check ∈ worker.queue := queue ▸ List.mem_cons_self
      simp only [handle, update]
      split
      · exact ⟨Or.inl rfl, cleared⟩
      · exact ⟨Or.inl rfl, later⟩
      · split
        · exact ⟨Or.inr taken, later⟩
        · split
          · exact ⟨Or.inr taken, later⟩
          · exact ⟨Or.inr taken, cleared⟩

theorem Moves.narrows {pipeline : Pipeline} {worker later : Worker} {exchange : Option Exchange}
    (moves : Moves pipeline worker exchange later) : worker.Narrows later := by
  cases moves with
  | tick now ready due =>
      unfold Worker.tick
      split
      · exact ⟨Or.inl rfl, fun _ member => member⟩
      · exact ⟨Or.inl rfl, nofun⟩
  | take now command rest ready queue =>
      exact handle_narrows pipeline now worker command rest queue
  | ask asker request next wake after answer busy => exact ⟨Or.inl rfl, fun _ member => member⟩
  | finish asker result wake busy => exact ⟨Or.inl rfl, fun _ member => member⟩
  | breakOff asker goesOn => exact ⟨Or.inl rfl, nofun⟩

theorem begin_cycle (pipeline : Pipeline) (now : Span) (starter : Option Nat) (worker : Worker) :
    ∀ asker rest wake, (worker.begin pipeline now starter).stage = .busy asker rest wake →
      Asks (Request.HoldsOwn (worker.begin pipeline now starter).check) rest := by
  intro asker rest wake busy
  obtain ⟨_, rfl, _⟩ := Stage.busy.inj busy
  exact pipeline.cycle_holdsOwn worker.check

theorem handle_cycle (pipeline : Pipeline) (now : Span) (worker : Worker) (command : Command)
    (ready : worker.stage = .ready) :
    ∀ asker rest wake, (worker.handle pipeline now command).1.stage = .busy asker rest wake →
      Asks (Request.HoldsOwn (worker.handle pipeline now command).1.check) rest := by
  have idle : ∀ {later : Worker}, later.stage = .ready ∨ later.stage = .ended →
      ∀ asker rest wake, later.stage = .busy asker rest wake →
        Asks (Request.HoldsOwn later.check) rest := by
    intro later same asker rest wake busy
    rw [busy] at same
    rcases same with same | same <;> cases same
  cases command with
  | evaluate asker => exact begin_cycle pipeline now (some asker) worker
  | status asker => exact idle (Or.inl ready)
  | shutdown => exact idle (Or.inr rfl)
  | update check =>
      simp only [handle, update]
      split
      · exact idle (Or.inr rfl)
      · exact idle (Or.inl ready)
      · split
        · exact idle (Or.inl ready)
        · split
          · exact idle (Or.inl ready)
          · exact idle (Or.inr rfl)

theorem Moves.cycle {pipeline : Pipeline} {worker later : Worker} {exchange : Option Exchange}
    (moves : Moves pipeline worker exchange later) {id : Int} (sound : worker.Sound id) :
    ∀ asker rest wake, later.stage = .busy asker rest wake →
      Asks (Request.HoldsOwn later.check) rest := by
  -- A busy worker takes no commands, so its cycle stays one of the definition it goes by.
  cases moves with
  | tick now ready due =>
      unfold Worker.tick
      split
      · exact begin_cycle pipeline now none _
      · nofun
  | take now command rest ready queue => exact handle_cycle pipeline now _ command ready
  | ask asker request next wake after answer busy =>
      intro other rest wake' same
      obtain ⟨_, rfl, _⟩ := Stage.busy.inj same
      cases sound.cycle _ _ _ busy with
      | ask _ _ fits asks => exact asks answer
  | finish asker result wake busy => nofun
  | breakOff asker goesOn => nofun

theorem Moves.sound {pipeline : Pipeline} {worker later : Worker} {exchange : Option Exchange}
    (moves : Moves pipeline worker exchange later) {id : Int} (sound : worker.Sound id) :
    later.Sound id where
  own := by
    rcases moves.narrows.check with same | taken
    · rw [same, sound.own]
    · exact sound.queue _ taken
  queue update member := sound.queue update (moves.narrows.queue update member)
  cycle := moves.cycle sound

/-- A worker takes a key only for a trigger of the definition that it goes by, and goes by
it still. -/
theorem Moves.holds {pipeline : Pipeline} {worker later : Worker} {checkId triggerId : Int}
    {key : String}
    (moves : Moves pipeline worker (some ⟨.holdKey checkId triggerId key, ()⟩) later) {id : Int}
    (sound : worker.Sound id) :
    checkId = id ∧ worker.check.defines triggerId = true ∧ later.check = worker.check := by
  cases moves with
  | ask asker request next wake after answer busy =>
      cases sound.cycle _ _ _ busy with
      | ask _ _ fits asks => exact ⟨fits.1.trans sound.own, fits.2, rfl⟩

theorem tell?_narrows {worker told : Worker} {command : Command}
    (noUpdate : Crew.asks command = true) (heard : worker.tell? command = some told) :
    worker.Narrows told := by
  rw [tell?_eq heard]
  refine ⟨Or.inl rfl, fun update member => ?_⟩
  rcases List.mem_append.mp member with former | last
  · exact former
  · rw [← List.mem_singleton.mp last] at noUpdate
    cases noUpdate

theorem tell?_sound {worker told : Worker} {command : Command}
    (heard : worker.tell? command = some told) {id : Int} (sound : worker.Sound id)
    (own : ∀ update, command = .update update → update.id = id) : told.Sound id := by
  rw [tell?_eq heard]
  refine ⟨sound.own, fun update member => ?_, sound.cycle⟩
  rcases List.mem_append.mp member with former | last
  · exact sound.queue update former
  · exact own update (List.mem_singleton.mp last).symm

def atRest (worker : Worker) : Bool :=
  match worker.stage with
  | .ready => worker.queue.isEmpty
  | _ => false

end Worker

/-! ## Definitions on their way -/

namespace Reconciliation

theorem tell_keys (r : Reconciliation) (check : Check) (period now : Span) :
    (r.tell check period now).keys = r.keys := by
  unfold tell
  split <;> rfl

end Reconciliation

namespace Muster

open Reconciliation

variable {pipeline : Pipeline} {past : List (Muster × Act)} {m later : Muster} {act : Act}

/-- The definitions of a check that are about: the one that its worker goes by, those in
the queue of the worker, and the one that is being handed to it. -/
inductive Definition (m : Muster) (id : Int) : Check → Prop
  | current {scheduled : Scheduled} (found : m.r.schedule.find? id = some scheduled) :
      Definition m id scheduled.worker.check
  | queued {scheduled : Scheduled} {update : Check}
      (found : m.r.schedule.find? id = some scheduled)
      (member : Command.update update ∈ scheduled.worker.queue) : Definition m id update
  | handed {update : Check} {period : Span} (handing : m.handing = some (update, period))
      (own : update.id = id) : Definition m id update

theorem Definition.of_same {id : Int} {definition : Check} (about : later.Definition id definition)
    (finds : later.r.schedule.find? id = m.r.schedule.find? id)
    (handing : later.handing = none ∨ later.handing = m.handing) :
    m.Definition id definition := by
  cases about with
  | current found => exact .current (finds ▸ found)
  | queued found member => exact .queued (finds ▸ found) member
  | handed handed own =>
      rcases handing with noHanding | same
      · rw [noHanding] at handed
        cases handed
      · exact .handed (same ▸ handed) own

theorem Definition.of_placed {id other : Int} {scheduled : Scheduled} {worker : Worker}
    {keys : IncidentKeys} {definition : Check}
    (found : m.r.schedule.find? id = some scheduled) (narrows : scheduled.worker.Narrows worker)
    (about : (m.placed id { scheduled with worker } keys).Definition other definition) :
    m.Definition other definition := by
  have there := m.placed_find? id other { scheduled with worker } keys scheduled found
  by_cases own : other = id
  · subst own
    rw [if_pos rfl] at there
    cases about with
    | current found' =>
        obtain rfl := Option.some.inj (there.symm.trans found')
        rcases narrows.check with same | taken
        · rw [same]
          exact .current found
        · exact .queued found taken
    | queued found' member =>
        obtain rfl := Option.some.inj (there.symm.trans found')
        exact .queued found (narrows.queue _ member)
    | handed handing own => exact .handed handing own
  · rw [if_neg own] at there
    exact about.of_same there (Or.inr rfl)

theorem Definition.of_handed {id : Int} {check definition : Check} {period : Span} (now : Span)
    (handing : m.handing = some (check, period))
    (about : Definition { m with r := m.r.tell check period now, handing := none } id definition) :
    m.Definition id definition := by
  have there := tell_find? m.r check period now id
  by_cases own : id = check.id
  · rw [if_pos own] at there
    have handed : m.Definition id check := .handed handing own.symm
    cases heard : (m.r.schedule.find? check.id).bind fun scheduled =>
        scheduled.worker.tell? (.update check) with
    | none =>
        rw [heard] at there
        cases about with
        | current found =>
            rw [← Option.some.inj (there.symm.trans found)]
            exact handed
        | queued found member =>
            rw [← Option.some.inj (there.symm.trans found)] at member
            cases member
        | handed nothing => cases nothing
    | some worker =>
        rw [heard] at there
        obtain ⟨scheduled, stood, heard⟩ := Option.bind_eq_some_iff.mp heard
        rw [Worker.tell?_eq heard] at there
        rw [← own] at stood
        cases about with
        | current found =>
            have current : m.Definition id scheduled.worker.check := .current stood
            rw [← Option.some.inj (there.symm.trans found)]
            exact current
        | queued found member =>
            rw [← Option.some.inj (there.symm.trans found)] at member
            rcases List.mem_append.mp member with former | last
            · exact .queued stood former
            · rw [Command.update.inj (List.mem_singleton.mp last)]
              exact handed
        | handed nothing => cases nothing
  · rw [if_neg own] at there
    exact about.of_same there (Or.inl rfl)

def Sound (m : Muster) : Prop :=
  ∀ id scheduled, m.r.schedule.find? id = some scheduled → scheduled.worker.Sound id

theorem Sound.step (sound : m.Sound) (step : Step pipeline m act later) : later.Sound := by
  intro id scheduled found
  have fate := step.fate id
  rw [found] at fate
  cases fate with
  | same stood => exact sound id scheduled stood
  | moved stood moves => exact moves.sound (sound id _ stood)
  | told noUpdate stood told =>
      refine Worker.tell?_sound told (sound id _ stood) ?_
      rintro update rfl
      cases noUpdate
  | started now next own vacant => exact own ▸ Worker.start_sound _ _ now
  | updated handing own stood told =>
      refine Worker.tell?_sound told (sound id _ stood) ?_
      intro update same
      rw [← Command.update.inj same, own]
  | restarted now handing own => exact own ▸ Worker.start_sound _ _ now

theorem Path.sound (path : Path pipeline .empty past m) : m.Sound := by
  induction path with
  | start =>
      intro id scheduled found
      cases found
  | step _ step ih => exact ih.step step

/-! ## Keys that are left behind -/

/-- What leaves a key behind.  A cycle takes it for a trigger of the definition that it
goes by while another definition, without the trigger, is on its way; or a worker with a
definition without the trigger starts in the place of one that ended in order. -/
inductive Misses (checkId triggerId : Int) : Muster × Act → Prop
  | overtaken {m : Muster} {scheduled : Scheduled} {update : Check} (key : String)
      (found : m.r.schedule.find? checkId = some scheduled)
      (own : scheduled.worker.check.defines triggerId = true)
      (about : m.Definition checkId update) (lacks : update.defines triggerId = false) :
      Misses checkId triggerId (m, .work checkId (some ⟨.holdKey checkId triggerId key, ()⟩))
  | replaced {m : Muster} {check : Check} {rest : List Check} {scheduled : Scheduled}
      (next : m.Next check rest) (own : check.id = checkId)
      (found : m.r.schedule.find? checkId = some scheduled)
      (stopped : scheduled.worker.showing = .stopped)
      (lacks : check.defines triggerId = false) : Misses checkId triggerId (m, .arrange)

/-- The key was left behind, and no cycle has taken it since. -/
def LeftBehind (past : List (Muster × Act)) (checkId triggerId : Int) : Prop :=
  ∃ before entry after, past = before ++ entry :: after ∧ Misses checkId triggerId entry ∧
    ∀ later ∈ after, ∀ key,
      later.2 ≠ .work checkId (some ⟨.holdKey checkId triggerId key, ()⟩)

theorem LeftBehind.of_misses {checkId triggerId : Int} (past : List (Muster × Act))
    (misses : Misses checkId triggerId (m, act)) :
    LeftBehind (past ++ [(m, act)]) checkId triggerId :=
  ⟨past, (m, act), [], rfl, misses, by simp⟩

theorem LeftBehind.snoc {checkId triggerId : Int} (left : LeftBehind past checkId triggerId)
    (m : Muster)
    (others : ∀ key, act ≠ .work checkId (some ⟨.holdKey checkId triggerId key, ()⟩)) :
    LeftBehind (past ++ [(m, act)]) checkId triggerId := by
  obtain ⟨before, entry, after, rfl, misses, since⟩ := left
  refine ⟨before, entry, after ++ [(m, act)], by simp, misses, ?_⟩
  exact List.forall_mem_append.mpr ⟨since, by simpa using others⟩

/-- The check of a key has a worker, and every definition of the check that is about has
the trigger, unless the key was left behind. -/
structure Accounted (past : List (Muster × Act)) (m : Muster) (checkId triggerId : Int) :
    Prop where
  worker : ∃ scheduled, m.r.schedule.find? checkId = some scheduled
  defined : (∀ definition, m.Definition checkId definition →
      definition.defines triggerId = true) ∨ LeftBehind past checkId triggerId

/-- A key that is not taken anew stays accounted for while its check has a worker and
definitions without the trigger do not come about. -/
theorem Accounted.snoc {checkId triggerId : Int} (accounted : Accounted past m checkId triggerId)
    (others : ∀ key, act ≠ .work checkId (some ⟨.holdKey checkId triggerId key, ()⟩))
    (worker : ∃ scheduled, later.r.schedule.find? checkId = some scheduled)
    (about : ∀ definition, later.Definition checkId definition →
      definition.defines triggerId = true ∨ m.Definition checkId definition) :
    Accounted (past ++ [(m, act)]) later checkId triggerId := by
  refine ⟨worker, ?_⟩
  rcases accounted.defined with all | left
  · exact Or.inl fun definition there => (about definition there).elim id (all definition)
  · exact Or.inr (left.snoc m others)

theorem Accounted.untouched {checkId triggerId : Int}
    (accounted : Accounted past m checkId triggerId)
    (others : ∀ key, act ≠ .work checkId (some ⟨.holdKey checkId triggerId key, ()⟩))
    (finds : later.r.schedule.find? checkId = m.r.schedule.find? checkId)
    (handing : later.handing = none ∨ later.handing = m.handing) :
    Accounted (past ++ [(m, act)]) later checkId triggerId := by
  refine accounted.snoc others ?_ fun definition about => Or.inr (about.of_same finds handing)
  rw [finds]
  exact accounted.worker

/-- A key that a cycle takes is accounted for: definitions without its trigger that are
about leave it behind. -/
theorem Accounted.taken {checkId triggerId id : Int} {key : String} {scheduled : Scheduled}
    {worker : Worker} {keys : IncidentKeys} (past : List (Muster × Act)) (sound : m.Sound)
    (found : m.r.schedule.find? id = some scheduled)
    (moves : scheduled.worker.Moves pipeline (some ⟨.holdKey checkId triggerId key, ()⟩) worker) :
    Accounted (past ++ [(m, .work id (some ⟨.holdKey checkId triggerId key, ()⟩))])
      (m.placed id { scheduled with worker } keys) checkId triggerId := by
  obtain ⟨rfl, own, _⟩ := moves.holds (sound _ _ found)
  refine ⟨⟨_, (m.placed_find? _ _ _ keys scheduled found).trans (if_pos rfl)⟩, ?_⟩
  by_cases all : ∀ definition, m.Definition checkId definition →
      definition.defines triggerId = true
  · exact Or.inl fun definition about => all definition (about.of_placed found moves.narrows)
  · simp only [not_forall] at all
    obtain ⟨update, about, lacks⟩ := all
    exact Or.inr (.of_misses past (.overtaken key found own about (Bool.eq_false_iff.mpr lacks)))

theorem Accounted.dropped {checkId triggerId id : Int} {key : String}
    (accounted : ∀ key, m.r.keys.get? checkId triggerId = some key →
      Accounted past m checkId triggerId)
    (others : ∀ key, act ≠ .work checkId (some ⟨.holdKey checkId triggerId key, ()⟩))
    (finds : later.r.schedule.find? checkId =
      if checkId = id then none else m.r.schedule.find? checkId)
    (keys : later.r.keys = m.r.keys.forgetCheck id) (handing : later.handing = m.handing)
    (held : later.r.keys.get? checkId triggerId = some key) :
    Accounted (past ++ [(m, act)]) later checkId triggerId := by
  rw [keys, IncidentKeys.get?_forgetCheck] at held
  split at held
  · cases held
  · rename_i apart
    rw [if_neg apart] at finds
    exact (accounted key held).untouched others finds (Or.inr handing)

/-- A worker that starts leaves a key behind if it goes by a definition without the
trigger. -/
theorem Accounted.started {checkId triggerId : Int} {check : Check} {rest : List Check}
    {period : Span} (now : Span) (accounted : Accounted past m checkId triggerId)
    (next : m.Next check rest)
    (vacant : ∀ scheduled, m.r.schedule.find? check.id = some scheduled →
      scheduled.worker.showing = .stopped) :
    Accounted (past ++ [(m, .arrange)]) { m with r := m.r.start check period now, ahead := rest }
      checkId triggerId := by
  have there := start_find? m.r check period now checkId
  by_cases own : checkId = check.id
  · rw [if_pos own] at there
    cases defines : check.defines triggerId with
    | true =>
        refine accounted.snoc nofun ⟨_, there⟩ fun definition about => Or.inl ?_
        cases about with
        | current found =>
            rw [← Option.some.inj (there.symm.trans found)]
            exact defines
        | queued found member =>
            rw [← Option.some.inj (there.symm.trans found)] at member
            cases member
        | handed handing =>
            rw [next.handing] at handing
            cases handing
    | false =>
        -- Starting a worker drops no keys, unlike announcing a definition.
        obtain ⟨scheduled, found⟩ := accounted.worker
        refine ⟨⟨_, there⟩, Or.inr (.of_misses past ?_)⟩
        exact .replaced next own.symm found (vacant scheduled (own ▸ found)) defines
  · rw [if_neg own] at there
    exact accounted.untouched nofun there (Or.inr rfl)

theorem Accounted.announced {checkId triggerId : Int} {check : Check} {rest : List Check}
    {period : Span} {key : String}
    (accounted : ∀ key, m.r.keys.get? checkId triggerId = some key →
      Accounted past m checkId triggerId)
    (held : (m.r.keys.forgetRemoved check).get? checkId triggerId = some key) :
    Accounted (past ++ [(m, .arrange)])
      { m with r := m.r.forgetRemoved check, ahead := rest, handing := some (check, period) }
      checkId triggerId := by
  rw [IncidentKeys.get?_forgetRemoved] at held
  split at held
  · cases held
  · rename_i stays
    have former := accounted key held
    refine former.snoc nofun former.worker fun definition about => ?_
    cases about with
    | current found => exact Or.inr (.current found)
    | queued found member => exact Or.inr (.queued found member)
    | handed handing own =>
        obtain ⟨rfl, _⟩ := Prod.mk.inj (Option.some.inj handing)
        refine Or.inl (Bool.not_eq_false _ ▸ fun lacks => stays ⟨own.symm, lacks⟩)

theorem Accounted.handed {checkId triggerId : Int} {check : Check} {period : Span} (now : Span)
    (accounted : Accounted past m checkId triggerId) (handing : m.handing = some (check, period)) :
    Accounted (past ++ [(m, .arrange)])
      { m with r := m.r.tell check period now, handing := none } checkId triggerId := by
  refine accounted.snoc nofun ?_ fun definition about => Or.inr (about.of_handed now handing)
  have there := tell_find? m.r check period now checkId
  split at there
  · exact ⟨_, there⟩
  · obtain ⟨standing, stood⟩ := accounted.worker
    exact ⟨standing, there.trans stood⟩

theorem Accounted.placed {checkId triggerId id : Int} {scheduled : Scheduled} {worker : Worker}
    {keys : IncidentKeys} (accounted : Accounted past m checkId triggerId)
    (others : ∀ key, act ≠ .work checkId (some ⟨.holdKey checkId triggerId key, ()⟩))
    (found : m.r.schedule.find? id = some scheduled)
    (narrows : scheduled.worker.Narrows worker) :
    Accounted (past ++ [(m, act)]) (m.placed id { scheduled with worker } keys) checkId
      triggerId := by
  refine accounted.snoc others ?_ fun definition about => Or.inr (about.of_placed found narrows)
  have there := m.placed_find? id checkId { scheduled with worker } keys scheduled found
  split at there
  · exact ⟨_, there⟩
  · obtain ⟨standing, stood⟩ := accounted.worker
    exact ⟨standing, there.trans stood⟩

theorem Accounted.step (sound : m.Sound) {checkId triggerId : Int} {key : String}
    (accounted : ∀ key, m.r.keys.get? checkId triggerId = some key →
      Accounted past m checkId triggerId)
    (step : Step pipeline m act later) (held : later.r.keys.get? checkId triggerId = some key) :
    Accounted (past ++ [(m, act)]) later checkId triggerId := by
  cases step with
  | @work id scheduled exchange worker keys found moves follows =>
      -- The key was taken in this exchange, or it was held before.
      rcases follows.held held with rfl | ⟨former, others⟩
      · exact .taken past sound found moves
      · refine (accounted key former).placed ?_ found moves.narrows
        rintro other same
        exact others other (Act.work.inj same).2
  | tell command noUpdate found told =>
      exact (accounted key held).placed nofun found (Worker.tell?_narrows noUpdate told)
  | summon checks idle => exact (accounted key held).untouched nofun rfl (Or.inl rfl)
  | @forget id rest leaving =>
      exact .dropped accounted nofun (forget_find? m.r id checkId) rfl rfl held
  | unread next endless => exact (accounted key held).untouched nofun rfl (Or.inr rfl)
  | @refuse check rest cause next refused =>
      exact .dropped accounted nofun (reject_find? m.r check.id checkId) rfl rfl held
  | start now next read vacant => exact (accounted key held).started now next vacant
  | leave next read found shown same => exact (accounted key held).untouched nofun rfl (Or.inr rfl)
  | announce next read found shown changed => exact .announced accounted held
  | @hand check period now handing =>
      rw [show Reconciliation.keys _ = m.r.keys from tell_keys m.r check period now] at held
      exact (accounted key held).handed now handing

theorem Path.accounted (path : Path pipeline .empty past m) {checkId triggerId : Int}
    {key : String} (held : m.r.keys.get? checkId triggerId = some key) :
    Accounted past m checkId triggerId := by
  -- The workers are sound all along: a cycle takes keys of its own definition only.
  induction path generalizing key with
  | start => cases held
  | step path step ih => exact .step path.sound (fun _ => ih) step held

/-- Whatever is brought in line and whatever the workers do meanwhile, the check of a key
has a worker.  The definition that this worker goes by has the trigger of the key, and so
has every definition that is on its way to it, unless the key was left behind: a cycle took
it while a definition without the trigger was on its way, or a worker that ended in order
was replaced by one without the trigger. -/
theorem keys_are_defined_or_left_behind (path : Path pipeline .empty past m)
    (checkId triggerId : Int) (key : String)
    (held : m.r.keys.get? checkId triggerId = some key) :
    ∃ scheduled, m.r.schedule.find? checkId = some scheduled ∧
      ((scheduled.worker.check.defines triggerId = true ∧
          ∀ definition, m.Definition checkId definition →
            definition.defines triggerId = true) ∨
        LeftBehind past checkId triggerId) := by
  obtain ⟨⟨scheduled, found⟩, defined⟩ := path.accounted held
  exact ⟨scheduled, found, defined.imp_left fun all => ⟨all _ (.current found), all⟩⟩

def unpagedCheck : Check :=
  { pagedCheck with triggers := [] }

def slowlyDown : Surroundings :=
  { hostDown with probeDelay := ⟨1⟩ }

def probing : Crew × List Answer × Surroundings :=
  ((Crew.empty pagedPipeline).apply ⟨0⟩ [pagedCheck]).2.settle ⟨0⟩ slowlyDown

def overtakenCrew : Crew :=
  ((probing.1.apply ⟨1⟩ [unpagedCheck]).2.settle ⟨2⟩ probing.2.2).1

theorem overtakenCrew_reachable : Crew.Reachable pagedPipeline overtakenCrew :=
  .settle _ _ _ (.apply _ _ _ (.settle _ _ _ (.apply _ _ _ .empty)))

theorem overtakenCrew_holds : overtakenCrew.keys.get? 1 1 = some "INC-1" := by
  decide +kernel

theorem overtakenCrew_lacks :
    (overtakenCrew.schedule.find? 1).any (fun scheduled => scheduled.worker.check.defines 1) =
      false := by
  decide +kernel

/-- A key that a cycle took while its trigger was being removed is left behind. -/
theorem overtaken_key_is_left_behind :
    ∃ past report broken,
      Path pagedPipeline .empty past
        (resting overtakenCrew.schedule overtakenCrew.keys report broken) ∧
      overtakenCrew.keys.get? 1 1 = some "INC-1" ∧ LeftBehind past 1 1 := by
  obtain ⟨_, past, report, broken, path⟩ := Path.of_reachable overtakenCrew_reachable
  obtain ⟨scheduled, found, ⟨defined, _⟩ | left⟩ :=
    keys_are_defined_or_left_behind path 1 1 "INC-1" overtakenCrew_holds
  · have lacks := overtakenCrew_lacks
    rw [show overtakenCrew.schedule.find? 1 = some scheduled from found] at lacks
    simp [defined] at lacks
  · exact ⟨past, report, broken, path, overtakenCrew_holds, left⟩

/-- When no cycle is in flight and every new definition has been taken, the key is still
held, and the check has no such trigger. -/
theorem key_outlives_its_trigger :
    Crew.Reachable pagedPipeline overtakenCrew ∧
      (overtakenCrew.schedule.workers.all fun entry => entry.2.worker.atRest) = true ∧
      overtakenCrew.keys.get? 1 1 = some "INC-1" ∧
      (overtakenCrew.schedule.find? 1).any (fun scheduled => scheduled.worker.check.defines 1) =
        false :=
  ⟨overtakenCrew_reachable, by decide +kernel, overtakenCrew_holds, overtakenCrew_lacks⟩

end Muster

end FleetMonitor
