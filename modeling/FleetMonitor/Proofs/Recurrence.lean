import FleetMonitor.Proofs.Recovery

/-!
# Incidents across recoveries

Cycles of one check follow each other, silenced or not, and whatever fails in between.
A passing record ends an incident for every trigger that gets its turn in that cycle; an
incident is carried on only past passing records that the triggers did not get to see.
-/

set_option autoImplicit false

namespace FleetMonitor

open Routine Surroundings

structure Cycled where
  silenced : Bool
  log : List Exchange
  value : Option (Except CycleError CycleReport)

namespace Cycled

def definition (cycle : Cycled) (check : Check) : Check :=
  { check with silenced := cycle.silenced }

def happenings (check : Check) (cycle : Cycled) : List Happening :=
  inTurns (cycle.definition check) none check.triggers cycle.log

def Passes (check : Check) (cycle : Cycled) : Prop :=
  ∃ expressions seconds record,
    (⟨.create check.clusterId check.id false expressions seconds, some (.ok record)⟩ : Exchange) ∈
      cycle.log

/-- The check was silenced, or the cycle broke off, or the store failed while triggers were
run. -/
def Misses (cycle : Cycled) : Prop :=
  cycle.silenced = true ∨ cycle.value = none ∨ ∃ e, cycle.value = some (.error (.triggers e))

end Cycled

/-- Cycles of a check, one after another.  Between them and within them time goes on, the
store fails and works again, and others do their work. -/
inductive CycleRuns (pipeline : Pipeline) (check : Check) (s : Surroundings) :
    List Cycled → Surroundings → Prop
  | start : CycleRuns pipeline check s [] s
  | cycle {cycles : List Cycled} {between asked later : Surroundings}
      (former : CycleRuns pipeline check s cycles between)
      (meanwhile : between.Meanwhile check asked) (cycle : Cycled)
      (course : Course (Replies (cycle.definition check))
        (pipeline.cycle (cycle.definition check)) asked cycle.log cycle.value later) :
      CycleRuns pipeline check s (cycles ++ [cycle]) later

namespace CycleRuns

variable {pipeline : Pipeline} {check : Check} {s later : Surroundings} {cycles : List Cycled}

theorem settled (runs : CycleRuns pipeline check s cycles later)
    (settled : s.NoneAfter check s.now) : later.NoneAfter check later.now := by
  induction runs with
  | start => exact settled
  | cycle _ meanwhile cycle course ih =>
      have asked : NoneAfter (cycle.definition check) _ _ := (ih.meanwhile meanwhile).mono meanwhile.now
      exact asked.leads_now course.leads

theorem recovers (runs : CycleRuns pipeline check s cycles later)
    (settled : s.NoneAfter check s.now) (cycle : Cycled) (member : cycle ∈ cycles)
    (passes : cycle.Passes check) :
    (∀ happening ∈ cycle.happenings check, happening.isPage = false) ∧
      (¬ cycle.Misses → ∀ trigger ∈ check.triggers,
        ∃ happening ∈ cycle.happenings check, happening.Clears check.id trigger.id) := by
  induction runs with
  | start => simp at member
  | cycle former meanwhile last course ih =>
      rcases List.mem_append.mp member with early | isLast
      · exact ih early
      · obtain rfl := List.mem_singleton.mp isLast
        obtain ⟨passed, howLong, made, member⟩ := passes
        obtain ⟨quiet, clears⟩ := pipeline.cycle_recovers (cycle.definition check)
          (((former.settled settled).meanwhile meanwhile).mono meanwhile.now) course member
        refine ⟨quiet, fun heard => ?_⟩
        simp only [Cycled.Misses, not_or, Bool.not_eq_true, not_exists] at heard
        exact clears heard.1 heard.2.1 heard.2.2

theorem faithful (runs : CycleRuns pipeline check s cycles later) (fresh : s.keys = .empty) :
    Faithful (cycles.flatMap (·.happenings check)) later.keys := by
  induction runs with
  | start =>
      rw [fresh]
      exact .start
  | cycle _ meanwhile last course ih =>
      rw [List.flatMap_append, List.flatMap_singleton]
      rw [← meanwhile.keys] at ih
      exact ih.cycled pipeline _ (course.map (·.keys) fun _ _ _ replies => replies.responds)

end CycleRuns

/-! ## What an event joins -/

theorem flatMap_split {α β : Type} (image : α → List β) (list : List α) {before after : List β}
    {found : β} (split : list.flatMap image = before ++ found :: after) :
    ∃ former element rest early late, list = former ++ element :: rest ∧
      image element = early ++ found :: late ∧ before = former.flatMap image ++ early ∧
        after = late ++ rest.flatMap image := by
  induction list generalizing before with
  | nil => simp at split
  | cons first others ih =>
      rw [List.flatMap_cons] at split
      rcases List.append_eq_append_iff.mp split with ⟨more, rfl, inOthers⟩ | ⟨more, inFirst, same⟩
      · obtain ⟨former, element, rest, early, late, rfl, image, rfl, rfl⟩ := ih inOthers
        exact ⟨first :: former, element, rest, early, late, rfl, image, by simp, rfl⟩
      · cases more with
        | nil =>
            have inOthers : others.flatMap image = [] ++ found :: after := same.symm
            obtain ⟨former, element, rest, early, late, rfl, own, noMore, rfl⟩ := ih inOthers
            refine ⟨first :: former, element, rest, early, late, rfl, own, ?_, rfl⟩
            rw [List.flatMap_cons, List.append_assoc, ← noMore, inFirst, List.append_nil,
              List.append_nil]
        | cons next late =>
            obtain ⟨rfl, rfl⟩ := List.cons.inj same
            exact ⟨[], first, others, before, late, rfl, inFirst, rfl, rfl⟩

def LastAnswered (checkId triggerId : Int) (key : String) (history : List Happening) : Prop :=
  ∃ before answer after, history = before ++ answer :: after ∧
    answer.answered? checkId triggerId = some key ∧
      ∀ later ∈ after, later.answered? checkId triggerId = none

theorem Happening.isPage_of_answered {checkId triggerId : Int} {key : String}
    {happening : Happening} (answered : happening.answered? checkId triggerId = some key) :
    happening.isPage = true := by
  unfold Happening.answered? at answered
  split at answered
  · rfl
  · cases answered

namespace CycleRuns

variable {pipeline : Pipeline} {check : Check} {s later : Surroundings} {cycles : List Cycled}

theorem unpassed_of_page (runs : CycleRuns pipeline check s cycles later)
    (settled : s.NoneAfter check s.now) {cycle : Cycled} (member : cycle ∈ cycles)
    {happening : Happening} (inCycle : happening ∈ cycle.happenings check)
    (paged : happening.isPage = true) : ¬ cycle.Passes check := by
  intro passes
  have quiet := (runs.recovers settled cycle member passes).1 happening inCycle
  rw [paged] at quiet
  cases quiet

theorem event_remembered (runs : CycleRuns pipeline check s cycles later)
    (fresh : s.keys = .empty) {before after : List Cycled} {cycle : Cycled}
    (split : cycles = before ++ cycle :: after) {early late : List Happening} {trigger : Trigger}
    {page : Page} {reply : Except String String}
    (event : cycle.happenings check =
      early ++ .exchange (cycle.definition check) (some trigger) ⟨.page page, reply⟩ :: late)
    {serviceKey description configured : String}
    (action : trigger.action = .pager serviceKey description configured)
    (blank : (Text.trim configured).isEmpty = true) {key : String}
    (carries : page.incidentKey = some key) :
    trigger ∈ check.triggers ∧ Remembered check.id trigger.id key
      (before.flatMap (·.happenings check) ++ early) := by
  have carried := (runs.faithful fresh).carried
  rw [split, List.flatMap_append, List.flatMap_cons, event, List.append_assoc,
    ← List.append_assoc (before.flatMap _), List.cons_append] at carried
  obtain ⟨other, _, _, _, same, own, acts, chosen, _⟩ :=
    ((carriedFrom_append [] _ _).mp carried).2.1
  obtain rfl := Option.some.inj same
  obtain ⟨_, _, rfl⟩ := Action.pager.inj (action.symm.trans acts)
  rw [carries, Dispatcher.chosenKey, if_pos blank, List.nil_append] at chosen
  exact ⟨own, (recalled_eq_some_iff _ _ _ _).mp chosen.symm⟩

/-- An event that carries a remembered key joins the incident of the latest answer for its
trigger.  Neither the cycle of that answer nor the cycle of the event created a passing
record; a cycle between them that created one missed it: its check was silenced, or it
broke off, or the store failed while triggers were run. -/
theorem event_joins_unrecovered (runs : CycleRuns pipeline check s cycles later)
    (fresh : s.keys = .empty) (settled : s.NoneAfter check s.now)
    {before after : List Cycled} {cycle : Cycled} (split : cycles = before ++ cycle :: after)
    {early late : List Happening} {trigger : Trigger} {page : Page} {reply : Except String String}
    (event : cycle.happenings check =
      early ++ .exchange (cycle.definition check) (some trigger) ⟨.page page, reply⟩ :: late)
    {serviceKey description configured : String}
    (action : trigger.action = .pager serviceKey description configured)
    (blank : (Text.trim configured).isEmpty = true) {key : String}
    (carries : page.incidentKey = some key) :
    ¬ cycle.Passes check ∧
      (LastAnswered check.id trigger.id key early ∨
        (∀ happening ∈ early, happening.answered? check.id trigger.id = none) ∧
          ∃ former source between, before = former ++ source :: between ∧
            ¬ source.Passes check ∧
              LastAnswered check.id trigger.id key (source.happenings check) ∧
                ∀ since ∈ between, (∀ happening ∈ since.happenings check,
                  happening.answered? check.id trigger.id = none) ∧
                    (since.Passes check → since.Misses)) := by
  have isEvent : Happening.exchange (cycle.definition check) (some trigger) ⟨.page page, reply⟩ ∈
      cycle.happenings check := by simp [event]
  refine ⟨runs.unpassed_of_page settled (by simp [split]) isEvent rfl, ?_⟩
  obtain ⟨own, past, answer, since, remembered, answered, quiet⟩ :=
    runs.event_remembered fresh split event action blank carries
  -- The answer came in the cycle of the event or in one before it.
  rcases List.append_eq_append_iff.mp remembered with ⟨more, rfl, inEarly⟩ | ⟨more, inBefore, same⟩
  · exact Or.inl ⟨more, answer, since, inEarly, answered, fun later member => (quiet later member).1⟩
  · cases more with
    | nil => exact Or.inl ⟨[], answer, since, same.symm, answered,
        fun later member => (quiet later member).1⟩
    | cons next rest =>
        obtain ⟨rfl, rfl⟩ := List.cons.inj same
        obtain ⟨former, source, between, head, tail, rfl, inSource, _, rfl⟩ :=
          flatMap_split _ _ inBefore
        refine Or.inr ⟨fun happening member => (quiet happening (by simp [member])).1,
          former, source, between, rfl, ?_, ?_, ?_⟩
        · have inCycle : answer ∈ source.happenings check := by simp [inSource]
          exact runs.unpassed_of_page settled (by simp [split]) inCycle
            (Happening.isPage_of_answered answered)
        · exact ⟨head, answer, tail, inSource, answered, fun happening member =>
            (quiet happening (by simp [member])).1⟩
        · intro cycled member
          have silent : ∀ happening ∈ cycled.happenings check,
              happening.answered? check.id trigger.id = none ∧
                ¬ happening.Clears check.id trigger.id := by
            intro happening inCycle
            refine quiet happening (List.mem_append_left _ (List.mem_append_right _ ?_))
            exact List.mem_flatMap.mpr ⟨cycled, member, inCycle⟩
          refine ⟨fun happening inCycle => (silent happening inCycle).1, fun passes => ?_⟩
          -- A recovery that is not missed clears the trigger, and nothing has cleared it.
          refine Classical.byContradiction fun heard => ?_
          obtain ⟨happening, inCycle, clears⟩ :=
            (runs.recovers settled cycled (by simp [split, member]) passes).2 heard trigger own
          exact (silent happening inCycle).2 clears

end CycleRuns

/-! ## Runs in surroundings -/

def Cycled.ofRun (pipeline : Pipeline) (check : Check) (silenced : Bool) (s : Surroundings) :
    Cycled where
  silenced
  log := (pipeline.cycle { check with silenced }).logOf answer s
  value := ((pipeline.cycle { check with silenced }).runIn s).1

theorem CycleRuns.run_in {pipeline : Pipeline} {check : Check} {s between : Surroundings}
    {cycles : List Cycled} (former : CycleRuns pipeline check s cycles between) (silenced : Bool)
    (asked : Surroundings) (meanwhile : between.Meanwhile check asked) :
    CycleRuns pipeline check s (cycles ++ [.ofRun pipeline check silenced asked])
      ((pipeline.cycle { check with silenced }).runIn asked).2 := by
  refine .cycle former meanwhile (.ofRun pipeline check silenced asked) ?_
  exact (course_of_run answer _ asked).map id fun s _ _ answered => ⟨s, .refl _ s, answered⟩

def pagedPipeline : Pipeline :=
  ⟨⟨300 * Span.second⟩, 1, ⟨[], false, "daemon"⟩⟩

def hostDown : Surroundings :=
  { violated with store := .memory .empty }

def Surroundings.hoursLater (up : Bool) (s : Surroundings) : Surroundings :=
  { s with now := ⟨s.now.micros + 7200000000⟩, silence := ⟨if up then [] else ["web"], [], []⟩ }

theorem hoursLater_meanwhile (check : Check) (up : Bool) (s : Surroundings) :
    s.Meanwhile check (s.hoursLater up) :=
  ⟨by change s.now.micros ≤ s.now.micros + 7200000000; omega, rfl, rfl, rfl⟩

def Exchange.isPassOf (check : Check) : Exchange → Bool
  | ⟨.create clusterId checkId false _ _, some (.ok _)⟩ =>
      clusterId == check.clusterId && checkId == check.id
  | _ => false

instance (check : Check) (cycle : Cycled) : Decidable (cycle.Passes check) :=
  decidable_of_iff (cycle.log.any (Exchange.isPassOf check) = true) <| by
    rw [List.any_eq_true]
    constructor
    · rintro ⟨exchange, member, isPass⟩
      unfold Exchange.isPassOf at isPass
      split at isPass
      · simp only [Bool.and_eq_true, beq_iff_eq] at isPass
        obtain ⟨rfl, rfl⟩ := isPass
        exact ⟨_, _, _, member⟩
      · cases isPass
    · rintro ⟨expressions, seconds, record, member⟩
      exact ⟨_, member, by simp [Exchange.isPassOf]⟩

def Happening.isEvent (trigger : Trigger) (key : String) : Happening → Bool
  | exchange _ (some own) ⟨.page page, _⟩ => own == trigger && page.incidentKey == some key
  | _ => false

theorem Cycled.event_of_any {check : Check} {cycle : Cycled} {trigger : Trigger} {key : String}
    (sends : (cycle.happenings check).any (Happening.isEvent trigger key) = true) :
    ∃ early late page reply, cycle.happenings check =
        early ++ .exchange (cycle.definition check) (some trigger) ⟨.page page, reply⟩ :: late ∧
      page.incidentKey = some key := by
  obtain ⟨happening, member, isEvent⟩ := List.any_eq_true.mp sends
  obtain ⟨early, late, split⟩ := List.append_of_mem member
  obtain ⟨turn, exchange, _, rfl⟩ := mem_inTurns member
  unfold Happening.isEvent at isEvent
  split at isEvent
  · rename_i same
    simp only [Bool.and_eq_true, beq_iff_eq] at isEvent
    obtain ⟨rfl, carries⟩ := isEvent
    obtain ⟨_, rfl, rfl⟩ := Happening.exchange.inj same
    exact ⟨early, late, _, _, split, carries⟩
  · cases isEvent

def afterCycle (silenced up : Bool) (s : Surroundings) : Surroundings :=
  ((pagedPipeline.cycle { pagedCheck with silenced }).runIn s).2.hoursLater up

def opening : Cycled :=
  .ofRun pagedPipeline pagedCheck false hostDown

def stillDown : Cycled :=
  .ofRun pagedPipeline pagedCheck false (afterCycle false false hostDown)

/-- The second failing cycle in a row carries the key of the incident, and it created no
passing record. -/
theorem stillDown_joins_opening :
    (stillDown.happenings pagedCheck).any (Happening.isEvent pagedTrigger "INC-1") = true ∧
      ¬ stillDown.Passes pagedCheck := by
  have opened : CycleRuns pagedPipeline pagedCheck hostDown [opening] _ :=
    CycleRuns.start.run_in false hostDown (.refl pagedCheck _)
  have runs := opened.run_in false _ (hoursLater_meanwhile _ false _)
  have sends : (stillDown.happenings pagedCheck).any (Happening.isEvent pagedTrigger "INC-1") =
      true := by decide +kernel
  obtain ⟨early, late, page, reply, event, carries⟩ := Cycled.event_of_any sends
  have unwritten : hostDown.NoneAfter pagedCheck hostDown.now := nofun
  exact ⟨sends, (runs.event_joins_unrecovered rfl unwritten rfl event rfl (by decide) carries).1⟩

def silencedRecovery : Cycled :=
  .ofRun pagedPipeline pagedCheck true (afterCycle false true hostDown)

def downAgain : Cycled :=
  .ofRun pagedPipeline pagedCheck false (afterCycle true false (afterCycle false true hostDown))

/-- An event carries a key that was given before a passing record was created. -/
theorem silenced_recovery_is_missed :
    (∃ later, CycleRuns pagedPipeline pagedCheck hostDown [opening, silencedRecovery, downAgain]
        later) ∧
      (opening.happenings pagedCheck).any (fun happening =>
        happening.answered? 1 1 == some "INC-1") = true ∧
      silencedRecovery.Passes pagedCheck ∧
      (downAgain.happenings pagedCheck).any (Happening.isEvent pagedTrigger "INC-1") = true := by
  have opened : CycleRuns pagedPipeline pagedCheck hostDown [opening] _ :=
    CycleRuns.start.run_in false hostDown (.refl pagedCheck _)
  have recovered := opened.run_in true _ (hoursLater_meanwhile _ true _)
  have failed := recovered.run_in false _ (hoursLater_meanwhile _ false _)
  exact ⟨⟨_, failed⟩, by decide +kernel, by decide +kernel, by decide +kernel⟩

end FleetMonitor
