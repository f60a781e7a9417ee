import FleetMonitor.Surroundings

/-!
# Courses

The course of a routine is what it asks and is answered, one exchange after another,
until it ends or breaks off.  Which answers are possible, and what an exchange makes of
the state, is a relation; so one course can be told of many surroundings, and a run is
the course of the surroundings that answer it.
-/

set_option autoImplicit false

namespace FleetMonitor

structure Exchange where
  request : Request
  answer : request.Answer

namespace Routine

variable {σ τ α β : Type}

/-- A routine goes through some exchanges from one state to another.  There is no value
if it broke off. -/
inductive Course (responds : σ → Exchange → σ → Prop) :
    Routine α → σ → List Exchange → Option α → σ → Prop
  | done (value : α) (s : σ) : Course responds (done value) s [] (some value) s
  | broken (s : σ) : Course responds broken s [] none s
  | ask (request : Request) (next : request.Answer → Routine α) (answer : request.Answer)
      (s middle later : σ) (log : List Exchange) (value : Option α)
      (responded : responds s ⟨request, answer⟩ middle)
      (rest : Course responds (next answer) middle log value later) :
      Course responds (ask request next) s (⟨request, answer⟩ :: log) value later

inductive Leads (responds : σ → Exchange → σ → Prop) : σ → List Exchange → σ → Prop
  | nil (s : σ) : Leads responds s [] s
  | cons {s middle later : σ} {exchange : Exchange} {log : List Exchange}
      (responded : responds s exchange middle) (rest : Leads responds middle log later) :
      Leads responds s (exchange :: log) later

/-- An invariant holds to the end of exchanges of a kind that keeps it, and each of them
has the property that it gives them. -/
theorem Leads.invariant {responds : σ → Exchange → σ → Prop} (fits holds : Exchange → Prop)
    (inv : σ → Prop)
    (step : ∀ s exchange later, fits exchange → inv s → responds s exchange later →
      holds exchange ∧ inv later)
    {s later : σ} {log : List Exchange} (leads : Leads responds s log later)
    (fit : ∀ exchange ∈ log, fits exchange) (start : inv s) :
    (∀ exchange ∈ log, holds exchange) ∧ inv later := by
  induction leads with
  | nil s => exact ⟨by simp, start⟩
  | cons responded _ ih =>
      obtain ⟨first, others⟩ := List.forall_mem_cons.mp fit
      obtain ⟨held, kept⟩ := step _ _ _ first start responded
      obtain ⟨rest, last⟩ := ih others kept
      exact ⟨List.forall_mem_cons.mpr ⟨held, rest⟩, last⟩

theorem Leads.append {responds : σ → Exchange → σ → Prop} {s middle later : σ}
    {head tail : List Exchange} (early : Leads responds s head middle)
    (late : Leads responds middle tail later) : Leads responds s (head ++ tail) later := by
  induction early with
  | nil s => exact late
  | cons responded _ ih => exact .cons responded (ih late)

namespace Course

variable {responds : σ → Exchange → σ → Prop} {later : σ} {log : List Exchange}

/-- The course of one routine after another: the first comes to its end and the second
goes on from there, or the first breaks off. -/
theorem of_bind {first : Routine α} {next : α → Routine β} {s : σ} {value : Option β}
    (course : Course responds (first >>= next) s log value later) :
    (∃ head tail found middle, log = head ++ tail ∧
        Course responds first s head (some found) middle ∧
          Course responds (next found) middle tail value later) ∨
      value = none ∧ Course responds first s log none later := by
  induction first generalizing s log with
  | done found => exact Or.inl ⟨[], log, found, s, rfl, .done found s, course⟩
  | broken =>
      cases course with
      | broken => exact Or.inr ⟨rfl, .broken _⟩
  | ask request rest ih =>
      cases course with
      | ask _ _ answer _ middle _ tail _ responded course =>
          rcases ih answer course with ⟨head, tail, found, between, rfl, early, late⟩ | ⟨noValue, early⟩
          · exact Or.inl ⟨_, tail, found, between, rfl,
              .ask request rest answer s middle between head _ responded early, late⟩
          · exact Or.inr ⟨noValue, .ask request rest answer s middle later _ _ responded early⟩

theorem of_request_bind {request : Request} {next : request.Answer → Routine β} {s : σ}
    {value : Option β}
    (course : Course responds (Routine.request request >>= next) s log value later) :
    ∃ answer middle tail, log = ⟨request, answer⟩ :: tail ∧
      responds s ⟨request, answer⟩ middle ∧
        Course responds (next answer) middle tail value later := by
  cases course with
  | ask _ _ answer _ middle _ tail _ responded rest =>
      exact ⟨answer, middle, tail, rfl, responded, rest⟩

theorem of_done {found : α} {s : σ} {value : Option α}
    (course : Course responds (Routine.done found) s log value later) :
    log = [] ∧ value = some found ∧ later = s := by
  cases course with
  | done => exact ⟨rfl, rfl, rfl⟩

theorem leads {routine : Routine α} {s : σ} {value : Option α}
    (course : Course responds routine s log value later) : Leads responds s log later := by
  induction course with
  | done value s => exact .nil s
  | broken s => exact .nil s
  | ask request next answer s middle later log value responded _ ih => exact .cons responded ih

theorem map {responds' : τ → Exchange → τ → Prop} (view : σ → τ)
    (seen : ∀ s exchange later, responds s exchange later →
      responds' (view s) exchange (view later))
    {routine : Routine α} {s : σ} {value : Option α}
    (course : Course responds routine s log value later) :
    Course responds' routine (view s) log value (view later) := by
  induction course with
  | done value s => exact .done value (view s)
  | broken s => exact .broken (view s)
  | ask request next answer s middle later log value responded _ ih =>
      exact .ask request next answer _ (view middle) _ log value (seen _ _ _ responded) ih

end Course

def logOf (answer : (request : Request) → σ → request.Answer × σ) :
    Routine α → σ → List Exchange
  | done _, _ => []
  | broken, _ => []
  | ask request next, s =>
      ⟨request, (answer request s).1⟩ ::
        logOf answer (next (answer request s).1) (answer request s).2

/-- A run is a course of the surroundings that answer it. -/
theorem course_of_run (answer : (request : Request) → σ → request.Answer × σ)
    (routine : Routine α) (s : σ) :
    Course (fun s exchange later => answer exchange.request s = (exchange.answer, later)) routine s
      (routine.logOf answer s) (routine.run answer s).1 (routine.run answer s).2 := by
  induction routine generalizing s with
  | done value => exact .done value s
  | broken => exact .broken s
  | ask request next ih =>
      exact .ask request next _ s _ _ _ _ rfl (ih (answer request s).1 (answer request s).2)

/-- Every request that the routine may make is of some kind. -/
inductive Asks (kind : Request → Prop) : Routine α → Prop
  | done (value : α) : Asks kind (done value)
  | broken : Asks kind broken
  | ask (request : Request) (next : request.Answer → Routine α) (fits : kind request)
      (rest : ∀ answer, Asks kind (next answer)) : Asks kind (ask request next)

namespace Asks

variable {kind : Request → Prop}

theorem bind {first : Routine α} {next : α → Routine β} (asks : Asks kind first)
    (nextAsks : ∀ value, Asks kind (next value)) : Asks kind (first >>= next) := by
  induction asks with
  | done value => exact nextAsks value
  | broken => exact .broken
  | ask request rest fits _ ih => exact .ask request _ fits ih

theorem request (request : Request) (fits : kind request) :
    Asks kind (Routine.request request) :=
  .ask request _ fits fun answer => .done answer

theorem within (value : Option α) : Asks kind (Routine.within value) := by
  cases value with
  | none => exact .broken
  | some value => exact .done value

theorem mono {kind' : Request → Prop} (wider : ∀ request, kind request → kind' request)
    {routine : Routine α} (asks : Asks kind routine) : Asks kind' routine := by
  induction asks with
  | done value => exact .done value
  | broken => exact .broken
  | ask request next fits _ ih => exact .ask request next (wider request fits) ih

theorem course {routine : Routine α} (asks : Asks kind routine)
    {responds : σ → Exchange → σ → Prop} {s later : σ} {log : List Exchange} {value : Option α}
    (course : Course responds routine s log value later) :
    ∀ exchange ∈ log, kind exchange.request := by
  induction course with
  | done value s => simp
  | broken s => simp
  | ask request next answer s middle later log value responded _ ih =>
      cases asks with
      | ask _ _ fits rest =>
          intro exchange member
          rcases List.mem_cons.mp member with rfl | inRest
          · exact fits
          · exact ih (rest answer) exchange inRest

end Asks

end Routine

end FleetMonitor
