import FleetMonitor.Crew
import Mathlib.Data.List.Nodup

/-!
# What a worker is going to hold

A worker takes a new definition when it comes to it, so the definition that counts
is the one it will hold after the commands that wait for it.  While a worker goes
on, whatever it does keeps that definition; a schedule remembers it.
-/

set_option autoImplicit false

namespace FleetMonitor

namespace Check

def accepted (check : Check) : Bool :=
  match check.period? with
  | some (.ok _) => true
  | _ => false

def refused (check : Check) : Bool :=
  match check.period? with
  | some (.error _) => true
  | _ => false

end Check

namespace Worker

def takeOver (check : Check) : Command → Check
  | .update new => if new.accepted then new else check
  | _ => check

/-- The definition that a worker holds when it has taken the commands that wait for it. -/
def promised (worker : Worker) : Check :=
  worker.queue.foldl takeOver worker.check

def IsRunning (worker : Worker) : Prop :=
  worker.hasEnded = false ∧ worker.showing ≠ .stopped

theorem handle_promised (pipeline : Pipeline) (now : Span) (worker : Worker) (command : Command)
    (rest : List Command) (queue : worker.queue = command :: rest)
    (goesOn : (({ worker with queue := rest } : Worker).handle pipeline now command).1.hasEnded =
      false) :
    (({ worker with queue := rest } : Worker).handle pipeline now command).1.promised =
      worker.promised := by
  have unrolled : worker.promised = rest.foldl takeOver (takeOver worker.check command) := by
    rw [promised, queue, List.foldl_cons]
  rw [unrolled]
  cases command with
  | evaluate asker => rfl
  | status asker => rfl
  | shutdown => simp [handle, stop, hasEnded] at goesOn
  | update check =>
      simp only [handle, update] at goesOn ⊢
      cases period : check.period? with
      | none => simp [period, breakOff, hasEnded] at goesOn
      | some read =>
          cases read with
          | error cause =>
              have refused : check.accepted = false := by rw [Check.accepted, period]
              simp [promised, takeOver, refused]
          | ok span =>
              have accepted : check.accepted = true := by rw [Check.accepted, period]
              simp only [period] at goesOn ⊢
              split
              · simp [promised, takeOver, accepted]
              · rename_i changed
                rw [if_neg changed] at goesOn
                cases restarted : Ticker.restart? now span with
                | none => simp [restarted, breakOff, hasEnded] at goesOn
                | some ticker => simp [promised, takeOver, accepted]

theorem resume_promised (worker : Worker) (asker : Option Nat) (rest : CycleRoutine)
    (now : Span) (s : Surroundings)
    (goesOn : (worker.resume asker rest now s).1.hasEnded = false) :
    (worker.resume asker rest now s).1.promised = worker.promised := by
  unfold resume at goesOn ⊢
  cases ran : rest.proceed s.later with
  | mk progress later =>
      simp only [ran] at goesOn ⊢
      cases progress with
      | waiting rest => rfl
      | finished value =>
          cases value with
          | some result => rfl
          | none => simp [breakOff, hasEnded] at goesOn

theorem begin_promised (pipeline : Pipeline) (now : Span) (asker : Option Nat)
    (worker : Worker) : (worker.begin pipeline now asker).promised = worker.promised := by
  unfold begin promised
  rfl

theorem tick_promised (pipeline : Pipeline) (now : Span) (worker : Worker)
    (goesOn : (worker.tick pipeline now).1.hasEnded = false) :
    (worker.tick pipeline now).1.promised = worker.promised := by
  unfold tick at goesOn ⊢
  cases ticks : worker.ticker.next? now with
  | some ticker => exact begin_promised pipeline now none { worker with ticker }
  | none => simp [ticks, breakOff, hasEnded] at goesOn

theorem step?_promised (pipeline : Pipeline) (now : Span) (worker next : Worker)
    (s after : Surroundings) (answers : List Answer)
    (stepped : worker.step? pipeline now s = some (next, answers, after))
    (goesOn : next.hasEnded = false) : next.promised = worker.promised := by
  unfold step? at stepped
  cases stage : worker.stage with
  | ended => simp [stage] at stepped
  | busy asker rest wake =>
      simp only [stage] at stepped
      split at stepped
      · have nextEq : (worker.resume asker rest now s).1 = next :=
          congrArg Prod.fst (Option.some.inj stepped)
        subst nextEq
        exact resume_promised worker asker rest now s goesOn
      · simp at stepped
  | ready =>
      simp only [stage] at stepped
      obtain ⟨acted, act, same⟩ := Option.map_eq_some_iff.mp stepped
      have nextEq : acted.1 = next := congrArg Prod.fst same
      subst nextEq
      unfold act? at act
      split at act
      · obtain rfl := Option.some.inj act
        exact tick_promised pipeline now worker goesOn
      · cases queue : worker.queue with
        | nil => simp [queue] at act
        | cons command rest =>
            rw [queue] at act
            obtain rfl := Option.some.inj act
            exact handle_promised pipeline now worker command rest queue goesOn

theorem run_ended (pipeline : Pipeline) (now : Span) (fuel : Nat) (worker : Worker)
    (s : Surroundings) (ended : worker.hasEnded = true) :
    worker.run pipeline now fuel s = (worker, [], s) := by
  cases fuel with
  | zero => rfl
  | succ fuel =>
      have still : worker.step? pipeline now s = none := by
        unfold hasEnded at ended
        unfold step?
        split at ended
        · rename_i stage
          rw [stage]
        · simp at ended
      rw [run, still]

theorem run_promised (pipeline : Pipeline) (now : Span) (fuel : Nat) (worker : Worker)
    (s : Surroundings) (goesOn : (worker.run pipeline now fuel s).1.hasEnded = false) :
    (worker.run pipeline now fuel s).1.promised = worker.promised := by
  induction fuel generalizing worker s with
  | zero => rfl
  | succ fuel ih =>
      rw [run] at goesOn ⊢
      cases stepped : worker.step? pipeline now s with
      | none => rfl
      | some result =>
          obtain ⟨next, answers, after⟩ := result
          simp only [stepped] at goesOn ⊢
          have nextGoesOn : next.hasEnded = false := by
            by_contra ended
            rw [run_ended pipeline now fuel next after (by simpa using ended)] at goesOn
            exact ended goesOn
          rw [ih next after goesOn]
          exact step?_promised pipeline now worker next s after answers stepped nextGoesOn

theorem tell?_goesOn (worker told : Worker) (command : Command)
    (heard : worker.tell? command = some told) : worker.hasEnded = false := by
  unfold tell? at heard
  by_contra ended
  rw [if_pos (by simpa using ended)] at heard
  simp at heard

theorem tell?_promised (worker told : Worker) (command : Command)
    (heard : worker.tell? command = some told) :
    told.promised = takeOver worker.promised command := by
  unfold tell? at heard
  split at heard
  · simp at heard
  · rw [← Option.some.inj heard, promised, List.foldl_append]
    rfl

end Worker

namespace Schedule

/-! ## Workers by id -/

def ids (schedule : Schedule) : List Int :=
  schedule.workers.map (·.1)

theorem mem_ids (schedule : Schedule) (id : Int) :
    id ∈ schedule.ids ↔ (schedule.find? id).isSome = true := by
  rw [find?, List.lookup_isSome_iff, ids, List.mem_map]
  constructor
  · rintro ⟨entry, member, rfl⟩
    exact ⟨entry, member, beq_self_eq_true _⟩
  · rintro ⟨entry, member, same⟩
    exact ⟨entry, member, (eq_of_beq same).symm⟩

theorem mem_of_find? (schedule : Schedule) (id : Int) (scheduled : Scheduled)
    (found : schedule.find? id = some scheduled) : (id, scheduled) ∈ schedule.workers := by
  obtain ⟨before, after, split, _⟩ := List.lookup_eq_some_iff.mp found
  rw [split]
  simp

theorem lookup_cons_if {α : Type} (key other : Int) (value : α) (rest : List (Int × α)) :
    ((key, value) :: rest).lookup other =
      if other = key then some value else rest.lookup other := by
  rw [List.lookup_cons]
  by_cases same : other = key
  · rw [if_pos same, beq_iff_eq.mpr same]
  · rw [if_neg same, beq_eq_false_iff_ne.mpr same]

theorem find?_drop (schedule : Schedule) (id other : Int) :
    (schedule.drop id).find? other = if other = id then none else schedule.find? other := by
  obtain ⟨workers⟩ := schedule
  simp only [find?, drop]
  induction workers with
  | nil => simp
  | cons entry rest ih =>
      obtain ⟨key, scheduled⟩ := entry
      rw [lookup_cons_if]
      by_cases dropped : key = id
      · rw [List.filter_cons_of_neg (by simp [dropped]), ih]
        by_cases same : other = id
        · rw [if_pos same, if_pos same]
        · rw [if_neg same, if_neg same, if_neg fun eq => same (eq.trans dropped)]
      · rw [List.filter_cons_of_pos (by simp [dropped]), lookup_cons_if, ih]
        by_cases same : other = key
        · rw [if_pos same, if_pos same, if_neg fun eq => dropped (same.symm.trans eq)]
        · rw [if_neg same, if_neg same]

theorem find?_replace (schedule : Schedule) (id other : Int) (scheduled : Scheduled) :
    (schedule.replace id scheduled).find? other =
      if other = id then (schedule.find? id).map fun _ => scheduled
      else schedule.find? other := by
  obtain ⟨workers⟩ := schedule
  simp only [find?, replace]
  induction workers with
  | nil => simp
  | cons entry rest ih =>
      obtain ⟨key, former⟩ := entry
      rw [List.map_cons, lookup_cons_if, lookup_cons_if]
      by_cases here : key = id
      · rw [if_pos (beq_iff_eq.mpr here), lookup_cons_if, ih, if_pos here.symm]
        by_cases same : other = id
        · rw [if_pos same, if_pos same]
          rfl
        · rw [if_neg same, if_neg same, if_neg same, if_neg fun eq => same (eq.trans here)]
      · have kept : ((key, former).1 == id) ≠ true := by simp [here]
        rw [if_neg kept, lookup_cons_if, ih, if_neg (Ne.symm here)]
        by_cases same : other = key
        · rw [if_pos same, if_pos same, if_neg fun eq => here (same.symm.trans eq)]
        · rw [if_neg same, if_neg same]

theorem find?_start (schedule : Schedule) (check : Check) (period now : Span) (id : Int) :
    (schedule.start check period now).find? id =
      if id = check.id then some ⟨check, .start check period now⟩ else schedule.find? id := by
  have dropped := find?_drop schedule check.id id
  unfold find? at dropped ⊢
  rw [start, List.lookup_append, dropped, lookup_cons_if, List.lookup_nil]
  by_cases same : id = check.id
  · simp [same]
  · simp [same]

theorem ids_drop (schedule : Schedule) (id : Int) :
    (schedule.drop id).ids = schedule.ids.filter (· != id) := by
  rw [ids, ids, drop, List.filter_map]
  rfl

theorem ids_replace (schedule : Schedule) (id : Int) (scheduled : Scheduled) :
    (schedule.replace id scheduled).ids = schedule.ids := by
  rw [ids, ids, replace, List.map_map]
  refine List.map_congr_left fun entry _ => ?_
  by_cases here : entry.1 = id
  · simp [here]
  · simp [here]

theorem ids_start (schedule : Schedule) (check : Check) (period now : Span) :
    (schedule.start check period now).ids =
      schedule.ids.filter (· != check.id) ++ [check.id] := by
  rw [← ids_drop, ids, start, List.map_append]
  rfl

/-! ## A schedule remembers what was promised -/

/-- There is one worker for an id, and each that goes on will hold the definition
that it was last given. -/
structure Kept (schedule : Schedule) : Prop where
  distinct : schedule.ids.Nodup
  promised : ∀ entry ∈ schedule.workers,
    entry.2.worker.hasEnded = false → entry.2.worker.promised = entry.2.definition

theorem empty_kept : empty.Kept :=
  ⟨List.nodup_nil, fun _ member => nomatch member⟩

theorem drop_kept (schedule : Schedule) (kept : schedule.Kept) (id : Int) :
    (schedule.drop id).Kept where
  distinct := by
    rw [ids_drop]
    exact kept.distinct.filter _
  promised entry member := kept.promised entry (List.mem_filter.mp member).1

theorem replace_kept (schedule : Schedule) (kept : schedule.Kept) (id : Int)
    (scheduled : Scheduled)
    (remembered : scheduled.worker.hasEnded = false →
      scheduled.worker.promised = scheduled.definition) :
    (schedule.replace id scheduled).Kept where
  distinct := by
    rw [ids_replace]
    exact kept.distinct
  promised entry member := by
    obtain ⟨former, formerMem, rfl⟩ := List.mem_map.mp member
    split
    · exact remembered
    · exact kept.promised former formerMem

theorem start_kept (schedule : Schedule) (kept : schedule.Kept) (check : Check)
    (period now : Span) : (schedule.start check period now).Kept where
  distinct := by
    rw [ids_start, List.nodup_append]
    refine ⟨kept.distinct.filter _, List.nodup_singleton _, ?_⟩
    intro id member other otherMem same
    rw [List.mem_singleton.mp otherMem] at same
    simp [same] at member
  promised entry member := by
    rcases List.mem_append.mp member with former | started
    · exact (drop_kept schedule kept check.id).promised entry former
    · intro _
      rw [List.mem_singleton.mp started]
      rfl

end Schedule

namespace Crew

/-! ## What a crew does keeps promises -/

theorem runAll_ids (pipeline : Pipeline) (now : Span) (workers : List (Int × Scheduled))
    (s : Surroundings) : (runAll pipeline now workers s).1.map (·.1) = workers.map (·.1) := by
  induction workers generalizing s with
  | nil => rfl
  | cons entry rest ih =>
      simp only [runAll, List.map_cons]
      rw [ih]

theorem runAll_promised (pipeline : Pipeline) (now : Span) (workers : List (Int × Scheduled))
    (s : Surroundings)
    (promised : ∀ entry ∈ workers,
      entry.2.worker.hasEnded = false → entry.2.worker.promised = entry.2.definition) :
    ∀ entry ∈ (runAll pipeline now workers s).1,
      entry.2.worker.hasEnded = false → entry.2.worker.promised = entry.2.definition := by
  induction workers generalizing s with
  | nil =>
      intro entry member
      simp [runAll] at member
  | cons entry rest ih =>
      obtain ⟨id, scheduled⟩ := entry
      intro found member goesOn
      simp only [runAll, List.mem_cons] at member
      rcases member with rfl | later
      · simp only at goesOn ⊢
        have wentOn : scheduled.worker.hasEnded = false := by
          by_contra ended
          rw [Worker.run_ended _ _ _ _ _ (by simpa using ended)] at goesOn
          exact ended goesOn
        rw [Worker.run_promised _ _ _ _ _ goesOn]
        exact promised (id, scheduled) (by simp) wentOn
      · exact ih _ (fun other otherMem => promised other (by simp [otherMem])) found later goesOn

theorem settle_kept (crew : Crew) (now : Span) (s : Surroundings)
    (kept : crew.schedule.Kept) : (crew.settle now s).1.schedule.Kept where
  distinct := by
    have same := runAll_ids crew.pipeline now crew.schedule.workers { s with keys := crew.keys }
    rw [Schedule.ids]
    exact same ▸ kept.distinct
  promised := runAll_promised crew.pipeline now crew.schedule.workers _ kept.promised

def asks : Command → Bool
  | .update _ => false
  | _ => true

theorem tell?_kept (crew later : Crew) (id : Int) (command : Command)
    (noUpdate : asks command = true) (told : crew.tell? id command = some later)
    (kept : crew.schedule.Kept) : later.schedule.Kept := by
  unfold tell? at told
  obtain ⟨scheduled, found, told⟩ := Option.bind_eq_some_iff.mp told
  obtain ⟨worker, heard, told⟩ := Option.bind_eq_some_iff.mp told
  rw [← Option.some.inj told]
  apply Schedule.replace_kept _ kept
  intro _
  have remembered := kept.promised _ (Schedule.mem_of_find? _ _ _ found)
    (Worker.tell?_goesOn _ _ _ heard)
  rw [Worker.tell?_promised _ _ _ heard]
  cases command with
  | update check => simp [asks] at noUpdate
  | _ => exact remembered

theorem dismiss_kept (crew : Crew) (kept : crew.schedule.Kept) : crew.dismiss.schedule.Kept where
  distinct := by
    rw [Schedule.ids, dismiss, List.map_map]
    exact kept.distinct
  promised entry member goesOn := by
    obtain ⟨⟨id, scheduled⟩, formerMem, rfl⟩ := List.mem_map.mp member
    simp only at goesOn ⊢
    cases heard : scheduled.worker.tell? .shutdown with
    | none =>
        simp only [heard, Option.getD_none] at goesOn ⊢
        exact kept.promised _ formerMem goesOn
    | some worker =>
        rw [Option.getD_some, Worker.tell?_promised _ _ _ heard]
        exact kept.promised _ formerMem (Worker.tell?_goesOn _ _ _ heard)

end Crew

namespace Reconciliation

/-! ## What a schedule remembers, in every state -/

theorem forget_kept (r : Reconciliation) (id : Int) (kept : r.schedule.Kept) :
    (r.forget id).schedule.Kept := by
  unfold forget stop
  split
  · exact Schedule.drop_kept r.schedule kept id
  · exact kept

theorem tell_kept (r : Reconciliation) (check : Check) (accepted : check.accepted = true)
    (period now : Span) (kept : r.schedule.Kept) : (r.tell check period now).schedule.Kept := by
  unfold tell
  split
  · rename_i worker told
    obtain ⟨scheduled, _, heard⟩ := Option.bind_eq_some_iff.mp told
    apply Schedule.replace_kept r.schedule kept
    intro _
    rw [Worker.tell?_promised _ _ _ heard, Worker.takeOver, if_pos accepted]
  · exact Schedule.start_kept r.schedule kept check period now

theorem assign_kept (now : Span) (r : Reconciliation) (check : Check)
    (kept : r.schedule.Kept) : (r.assign now check).schedule.Kept := by
  unfold assign
  split
  · exact kept
  · cases period : check.period? with
    | none => exact kept
    | some read =>
        cases read with
        | error cause => exact forget_kept r check.id kept
        | ok span =>
            have accepted : check.accepted = true := by rw [Check.accepted, period]
            simp only [place]
            split
            · exact Schedule.start_kept r.schedule kept check span now
            · split
              · exact Schedule.start_kept r.schedule kept check span now
              · split
                · exact kept
                · exact tell_kept (r.forgetRemoved check) check accepted span now kept

theorem fold_kept (now : Span) (checks : List Check) (r : Reconciliation)
    (kept : r.schedule.Kept) : (checks.foldl (assign now) r).schedule.Kept := by
  induction checks generalizing r with
  | nil => exact kept
  | cons check rest ih => exact ih (r.assign now check) (assign_kept now r check kept)

theorem forgetAll_kept (gone : List Int) (r : Reconciliation) (kept : r.schedule.Kept) :
    (gone.foldl forget r).schedule.Kept := by
  induction gone generalizing r with
  | nil => exact kept
  | cons id rest ih => exact ih (r.forget id) (forget_kept r id kept)

end Reconciliation

namespace Crew

/-- The states that a crew can come to: it acts, is brought in line, is asked, and is
told to end, in any order and with anything around it. -/
inductive Reachable (pipeline : Pipeline) : Crew → Prop
  | empty : Reachable pipeline (.empty pipeline)
  | settle (crew : Crew) (now : Span) (s : Surroundings) (before : Reachable pipeline crew) :
      Reachable pipeline (crew.settle now s).1
  | apply (crew : Crew) (now : Span) (checks : List Check) (before : Reachable pipeline crew) :
      Reachable pipeline (crew.apply now checks).2
  | tell (crew later : Crew) (id : Int) (command : Command) (noUpdate : asks command = true)
      (told : crew.tell? id command = some later) (before : Reachable pipeline crew) :
      Reachable pipeline later
  | dismiss (crew : Crew) (before : Reachable pipeline crew) : Reachable pipeline crew.dismiss

/-- In every state that a crew can come to, its schedule remembers what was promised. -/
theorem reachable_kept (pipeline : Pipeline) (crew : Crew)
    (reachable : Reachable pipeline crew) : crew.schedule.Kept := by
  induction reachable with
  | empty => exact Schedule.empty_kept
  | settle crew now s _ ih => exact settle_kept crew now s ih
  | apply crew now checks _ ih =>
      exact Reconciliation.fold_kept now checks _
        (Reconciliation.forgetAll_kept _ _ ih)
  | tell crew later id command noUpdate told _ ih =>
      exact tell?_kept crew later id command noUpdate told ih
  | dismiss crew _ ih => exact dismiss_kept crew ih

end Crew

end FleetMonitor
