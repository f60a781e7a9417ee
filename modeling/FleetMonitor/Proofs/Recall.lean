import FleetMonitor.Proofs.Incidents
import Mathlib.Data.List.Induction

/-!
# What is remembered of incidents

A history tells what happened to the engine of triggers: exchanges in the turns of
triggers, checks that were forgotten, triggers that were taken away.  The engine holds a
key exactly if the pager service gave it as its latest answer for the trigger and nothing
has happened since that clears it.
-/

set_option autoImplicit false

namespace FleetMonitor

open Routine

/-- Something that happened to the engine of triggers. -/
inductive Happening where
  /-- For a check something was asked and answered, in the turn of a trigger or before
  the first one. -/
  | exchange (check : Check) (turn : Option Trigger) (exchange : Exchange)
  | forgetCheck (checkId : Int)
  | forgetRemoved (check : Check)

def Request.beginsTurn : Request → Bool
  | violationsSince _ _ _ => true
  | _ => false

def Request.concernsKeys : Request → Bool
  | violationsSince _ _ _ => true
  | holdKey _ _ _ => true
  | dropKey _ _ => true
  | page _ => true
  | _ => false

def inTurns (check : Check) : Option Trigger → List Trigger → List Exchange → List Happening
  | _, _, [] => []
  | turn, triggers, exchange :: log =>
      if exchange.request.beginsTurn then
        .exchange check triggers.head? exchange :: inTurns check triggers.head? triggers.tail log
      else .exchange check turn exchange :: inTurns check turn triggers log

theorem inTurns_append (check : Check) (turn : Option Trigger) (triggers : List Trigger)
    (head tail : List Exchange)
    (within : ∀ exchange ∈ head, exchange.request.beginsTurn = false) :
    inTurns check turn triggers (head ++ tail) =
      head.map (.exchange check turn) ++ inTurns check turn triggers tail := by
  induction head with
  | nil => rfl
  | cons exchange rest ih =>
      obtain ⟨first, others⟩ := List.forall_mem_cons.mp within
      rw [List.cons_append, inTurns, if_neg (by simp [first]), ih others]
      rfl

namespace Happening

def answered? (checkId triggerId : Int) : Happening → Option String
  | exchange check (some trigger) ⟨.page _, .ok key⟩ =>
      if check.id = checkId ∧ trigger.id = triggerId ∧ key ≠ "" then some key else none
  | _ => none

/-- The trigger has its turn and finds no violations or a number outside of its band, or
its check or the trigger itself is forgotten. -/
def Clears (checkId triggerId : Int) : Happening → Prop
  | exchange check (some trigger) ⟨.violationsSince _ _ _, .ok found⟩ =>
      check.id = checkId ∧ trigger.id = triggerId ∧ ¬ trigger.Calls found.length
  | forgetCheck forgotten => forgotten = checkId
  | forgetRemoved check => check.id = checkId ∧ check.defines triggerId = false
  | _ => False

def keysAfter (keys : IncidentKeys) : Happening → IncidentKeys
  | exchange _ _ given => keys.after given
  | forgetCheck checkId => keys.forgetCheck checkId
  | forgetRemoved check => keys.forgetRemoved check

def isPage : Happening → Bool
  | exchange _ _ ⟨.page _, _⟩ => true
  | _ => false

end Happening

/-- The latest answer of the pager service for a trigger was a key, and nothing has
cleared it since. -/
def Remembered (checkId triggerId : Int) (key : String) (history : List Happening) : Prop :=
  ∃ before answer after, history = before ++ answer :: after ∧
    answer.answered? checkId triggerId = some key ∧
      ∀ later ∈ after,
        later.answered? checkId triggerId = none ∧ ¬ later.Clears checkId triggerId

def heldAfter (history : List Happening) : IncidentKeys :=
  history.foldl Happening.keysAfter .empty

/-- A run of the engine from its start: triggers of checks are run, whatever the store and
the ways out answer, and checks and triggers are forgotten. -/
inductive EngineRun (dispatcher : Dispatcher) : List Happening → IncidentKeys → Prop
  | start : EngineRun dispatcher [] .empty
  | escalate {history : List Happening} {keys later : IncidentKeys} {log : List Exchange}
      {value : Option (Except StoreError Nat)} (check : Check)
      (former : EngineRun dispatcher history keys)
      (course : Course IncidentKeys.Responds (Escalation.runTriggers dispatcher check) keys log
        value later) :
      EngineRun dispatcher (history ++ inTurns check none check.triggers log) later
  | forgetCheck {history : List Happening} {keys : IncidentKeys} (checkId : Int)
      (former : EngineRun dispatcher history keys) :
      EngineRun dispatcher (history ++ [.forgetCheck checkId]) (keys.forgetCheck checkId)
  | forgetRemoved {history : List Happening} {keys : IncidentKeys} (check : Check)
      (former : EngineRun dispatcher history keys) :
      EngineRun dispatcher (history ++ [.forgetRemoved check]) (keys.forgetRemoved check)

theorem EngineRun.escalate_in {dispatcher : Dispatcher} {history : List Happening}
    (s : Surroundings) (check : Check) (former : EngineRun dispatcher history s.keys) :
    EngineRun dispatcher
      (history ++ inTurns check none check.triggers
        ((Escalation.runTriggers dispatcher check).logOf Surroundings.answer s))
      ((Escalation.runTriggers dispatcher check).runIn s).2.keys := by
  refine .escalate check former ((course_of_run Surroundings.answer _ s).map (·.keys) ?_)
  rintro s ⟨request, answer⟩ later answered
  have responds := Surroundings.answer_responds request s
  rwa [answered] at responds

/-! ## Reading a history from its beginning -/

section Recall

open Classical in
noncomputable def retained (checkId triggerId : Int) (kept : Option String)
    (happening : Happening) : Option String :=
  if happening.Clears checkId triggerId then none
  else (happening.answered? checkId triggerId).or kept

noncomputable def recalled (checkId triggerId : Int) (history : List Happening) :
    Option String :=
  history.foldl (retained checkId triggerId) none

variable (checkId triggerId : Int)

theorem recalled_append (history more : List Happening) :
    recalled checkId triggerId (history ++ more) =
      more.foldl (retained checkId triggerId) (recalled checkId triggerId history) :=
  List.foldl_append

theorem answered_not_clears (happening : Happening) (key : String)
    (answered : happening.answered? checkId triggerId = some key) :
    ¬ happening.Clears checkId triggerId := by
  unfold Happening.answered? at answered
  split at answered
  · exact id
  · simp at answered

theorem remembered_snoc_iff (history : List Happening) (happening : Happening) (key : String) :
    Remembered checkId triggerId key (history ++ [happening]) ↔
      happening.answered? checkId triggerId = some key ∨
        happening.answered? checkId triggerId = none ∧ ¬ happening.Clears checkId triggerId ∧
          Remembered checkId triggerId key history := by
  constructor
  · rintro ⟨before, answer, after, split, answered, since⟩
    rcases List.eq_nil_or_concat after with rfl | ⟨after, last, rfl⟩
    · obtain ⟨_, same⟩ := List.append_inj' split rfl
      rw [List.cons.inj same |>.1]
      exact Or.inl answered
    · rw [List.concat_eq_append, ← List.cons_append, ← List.append_assoc] at split
      obtain ⟨former, same⟩ := List.append_inj' split rfl
      obtain rfl := (List.cons.inj same).1
      have lastQuiet := since happening (by simp)
      exact Or.inr ⟨lastQuiet.1, lastQuiet.2, before, answer, after, former, answered,
        fun later member => since later (by simp [member])⟩
  · rintro (answered | ⟨silent, kept, before, answer, after, rfl, answered, since⟩)
    · exact ⟨history, happening, [], rfl, answered, by simp⟩
    · refine ⟨before, answer, after ++ [happening], by simp, answered, fun later member => ?_⟩
      rcases List.mem_append.mp member with former | last
      · exact since later former
      · rw [List.mem_singleton.mp last]
        exact ⟨silent, kept⟩

theorem recalled_eq_some_iff (history : List Happening) (key : String) :
    recalled checkId triggerId history = some key ↔ Remembered checkId triggerId key history := by
  induction history using List.reverseRecOn with
  | nil =>
      refine ⟨nofun, ?_⟩
      rintro ⟨before, answer, after, split, _⟩
      simp at split
  | append_singleton history happening ih =>
      rw [recalled_append, remembered_snoc_iff, ← ih, List.foldl_cons, List.foldl_nil, retained]
      by_cases clears : happening.Clears checkId triggerId
      · have silent : happening.answered? checkId triggerId ≠ some key :=
          fun answered => answered_not_clears _ _ _ _ answered clears
        simp [clears, silent]
      · cases answered : happening.answered? checkId triggerId with
        | none => simp [clears]
        | some given => simp [clears]

theorem retained_clears (kept : Option String) (happening : Happening)
    (clears : happening.Clears checkId triggerId) :
    retained checkId triggerId kept happening = none :=
  if_pos clears

theorem retained_quiet (kept : Option String) (happening : Happening)
    (silent : happening.answered? checkId triggerId = none)
    (harmless : ¬ happening.Clears checkId triggerId) :
    retained checkId triggerId kept happening = kept := by
  rw [retained, if_neg harmless, silent, Option.none_or]

theorem retained_outside (kept : Option String) (check : Check) (trigger : Trigger)
    (clusterId ownId : Int) (bound : Instant) (found : List CycleRecord)
    (quiet : ¬ trigger.Calls found.length) :
    retained checkId triggerId kept
        (.exchange check (some trigger) ⟨.violationsSince clusterId ownId bound, .ok found⟩) =
      if (checkId, triggerId) = (check.id, trigger.id) then none else kept := by
  by_cases own : (checkId, triggerId) = (check.id, trigger.id)
  · obtain ⟨rfl, rfl⟩ := Prod.mk.inj own
    rw [if_pos rfl, retained_clears]
    exact ⟨rfl, rfl, quiet⟩
  · rw [if_neg own]
    refine retained_quiet _ _ _ _ rfl ?_
    rintro ⟨rfl, rfl, _⟩
    exact own rfl

theorem retained_paged (kept : Option String) (check : Check) (trigger : Trigger) (page : Page)
    (key : String) (someKey : key ≠ "") :
    retained checkId triggerId kept (.exchange check (some trigger) ⟨.page page, .ok key⟩) =
      if (checkId, triggerId) = (check.id, trigger.id) then some key else kept := by
  by_cases own : (checkId, triggerId) = (check.id, trigger.id)
  · obtain ⟨rfl, rfl⟩ := Prod.mk.inj own
    simp [retained, Happening.Clears, Happening.answered?, someKey]
  · rw [if_neg own]
    refine retained_quiet _ _ _ _ ?_ id
    rw [Happening.answered?, if_neg]
    rintro ⟨rfl, rfl, _⟩
    exact own rfl

theorem retained_unkeyed (kept : Option String) (check : Check) (turn : Option Trigger)
    (page : Page) (reply : Except String String) (noKey : ∀ key, reply = .ok key → key = "") :
    retained checkId triggerId kept (.exchange check turn ⟨.page page, reply⟩) = kept := by
  refine retained_quiet _ _ _ _ ?_ (by cases turn <;> exact id)
  cases turn with
  | none => rfl
  | some trigger =>
      cases reply with
      | error reason => rfl
      | ok key => simp [Happening.answered?, noKey key rfl]

end Recall

/-! ## What a run keeps -/

/-- A call to the pager service carries the configured key, or else the key that is held,
which is the one that the past remembers. -/
def Happening.Carries (past : List Happening) : Happening → Prop
  | exchange check turn ⟨.page page, _⟩ =>
      ∃ trigger serviceKey description configured, turn = some trigger ∧
        trigger ∈ check.triggers ∧ trigger.action = .pager serviceKey description configured ∧
          page.incidentKey =
            Dispatcher.chosenKey configured (recalled check.id trigger.id past) ∧
            (heldAfter past).get? check.id trigger.id = recalled check.id trigger.id past
  | _ => True

def CarriedFrom : List Happening → List Happening → Prop
  | _, [] => True
  | past, happening :: rest => happening.Carries past ∧ CarriedFrom (past ++ [happening]) rest

theorem carriedFrom_append (past head tail : List Happening) :
    CarriedFrom past (head ++ tail) ↔
      CarriedFrom past head ∧ CarriedFrom (past ++ head) tail := by
  induction head generalizing past with
  | nil => simp [CarriedFrom]
  | cons happening rest ih =>
      simp only [List.cons_append, CarriedFrom, ih, and_assoc, List.append_assoc,
        List.nil_append]

theorem CarriedFrom.of_quiet {past more : List Happening}
    (quiet : ∀ happening ∈ more, happening.isPage = false) : CarriedFrom past more := by
  induction more generalizing past with
  | nil => trivial
  | cons happening rest ih =>
      obtain ⟨first, others⟩ := List.forall_mem_cons.mp quiet
      refine ⟨?_, ih others⟩
      unfold Happening.Carries
      split
      · simp [Happening.isPage] at first
      · trivial

/-- The keys that are held are those that the history remembers, and every call to the
pager service in it carried the key that it had to carry. -/
structure Faithful (history : List Happening) (keys : IncidentKeys) : Prop where
  held : heldAfter history = keys
  recalls : ∀ checkId triggerId,
    keys.get? checkId triggerId = recalled checkId triggerId history
  carried : CarriedFrom [] history

namespace Faithful

theorem start : Faithful [] .empty :=
  ⟨rfl, fun _ _ => rfl, trivial⟩

variable {history : List Happening} {keys later : IncidentKeys}

theorem append (faithful : Faithful history keys) (more : List Happening)
    (moved : more.foldl Happening.keysAfter keys = later)
    (recalls : ∀ checkId triggerId, later.get? checkId triggerId =
      more.foldl (retained checkId triggerId) (keys.get? checkId triggerId))
    (carried : CarriedFrom history more) : Faithful (history ++ more) later where
  held := by rw [heldAfter, List.foldl_append, ← heldAfter, faithful.held, moved]
  recalls checkId triggerId := by
    rw [recalls, recalled_append, faithful.recalls]
  carried := (carriedFrom_append [] history more).mpr ⟨faithful.carried, carried⟩

theorem quiet (faithful : Faithful history keys) (happening : Happening)
    (noPage : happening.isPage = false) (kept : happening.keysAfter keys = keys)
    (silent : ∀ checkId triggerId, happening.answered? checkId triggerId = none)
    (harmless : ∀ checkId triggerId, ¬ happening.Clears checkId triggerId) :
    Faithful (history ++ [happening]) keys := by
  refine faithful.append [happening] kept (fun checkId triggerId => ?_)
    (.of_quiet (by simpa using noPage))
  rw [List.foldl_cons, List.foldl_nil,
    retained_quiet _ _ _ _ (silent checkId triggerId) (harmless checkId triggerId)]

theorem aside (faithful : Faithful history keys) (check : Check) (turn : Option Trigger)
    (log : List Exchange) (apart : ∀ exchange ∈ log, exchange.request.concernsKeys = false) :
    Faithful (history ++ log.map (.exchange check turn)) keys := by
  induction log generalizing history with
  | nil => simpa using faithful
  | cons exchange rest ih =>
      obtain ⟨first, others⟩ := List.forall_mem_cons.mp apart
      have next : Faithful (history ++ [.exchange check turn exchange]) keys := by
        obtain ⟨request, answer⟩ := exchange
        cases turn <;> cases request <;> first
          | exact faithful.quiet _ rfl rfl (fun _ _ => rfl) (fun _ _ => id)
          | cases first
      simpa using ih next others

theorem turn (faithful : Faithful history keys) {check : Check} {lastGood : Option Instant}
    {now : Instant} {trigger : Trigger} {log : List Exchange}
    {value : Option (Except StoreError Bool)} (own : trigger ∈ check.triggers)
    (turned : Escalation.Turned check lastGood now trigger keys log value later) :
    Faithful (history ++ log.map (.exchange check (some trigger))) later := by
  -- A trigger in its band asks for violations and for its key; neither changes anything.
  have asked : ∀ (bound : Instant) (found : List CycleRecord), trigger.Calls found.length →
      Faithful (history ++
        [.exchange check (some trigger)
            ⟨.violationsSince check.clusterId check.id bound, .ok found⟩,
          .exchange check (some trigger)
            ⟨.incidentKey check.id trigger.id, keys.get? check.id trigger.id⟩]) keys := by
    intro bound found calls
    have counted := faithful.quiet (.exchange check (some trigger)
      ⟨.violationsSince check.clusterId check.id bound, .ok found⟩) rfl rfl (fun _ _ => rfl)
      (fun _ _ clears => clears.2.2 calls)
    have told := counted.quiet (.exchange check (some trigger)
      ⟨.incidentKey check.id trigger.id, keys.get? check.id trigger.id⟩) rfl rfl (fun _ _ => rfl)
      (fun _ _ => id)
    rwa [List.append_assoc] at told
  have carries : ∀ {serviceKey description configured : String} {past : List Happening}
      (page : Page) (reply : Except String String), Faithful past keys →
      trigger.action = .pager serviceKey description configured →
      page.incidentKey = Dispatcher.chosenKey configured (keys.get? check.id trigger.id) →
      (Happening.exchange check (some trigger) ⟨.page page, reply⟩).Carries past := by
    intro serviceKey description configured past page reply before action carries
    refine ⟨trigger, serviceKey, description, configured, rfl, own, action, ?_, ?_⟩
    · rw [carries, before.recalls]
    · rw [before.held, before.recalls]
  cases turned with
  | outOfRange => simpa using faithful
  | unread bound e => exact faithful.quiet _ rfl rfl (fun _ _ => rfl) (fun _ _ => id)
  | outside bound found _ quiet =>
      refine faithful.append _ rfl (fun checkId triggerId => ?_) (.of_quiet (by simp [Happening.isPage]))
      simp only [List.map_cons, List.map_nil, List.foldl_cons, List.foldl_nil]
      rw [retained_outside _ _ _ _ _ _ _ _ _ quiet, retained_quiet _ _ _ _ rfl id,
        IncidentKeys.get?_drop]
  | mailed bound found _ calls mails sent =>
      have sentMails := (asked bound found calls).aside check (some trigger)
        (Exchange.mails mails) fun exchange member => by
          obtain ⟨mail, _, rfl⟩ := List.mem_map.mp member
          rfl
      simpa using sentMails
  | unkeyed bound found _ calls serviceKey description configured action page carried reply noKey =>
      have before := asked bound found calls
      have after : Faithful (_ ++ [.exchange check (some trigger) ⟨.page page, reply⟩]) keys :=
        before.append _ rfl
        (fun _ _ => (retained_unkeyed _ _ _ _ _ page reply noKey).symm)
        ⟨carries page reply before action carried, trivial⟩
      simpa using after
  | keyed bound found _ calls serviceKey description configured action page carried key someKey =>
      have before := asked bound found calls
      have after : Faithful (_ ++ [.exchange check (some trigger) ⟨.page page, .ok key⟩,
          .exchange check (some trigger) ⟨.holdKey check.id trigger.id key, ()⟩])
          (keys.hold check.id trigger.id key) := before.append _ rfl
        (fun checkId triggerId => by
          rw [List.foldl_cons, List.foldl_cons, List.foldl_nil,
            retained_paged _ _ _ _ _ page key someKey, retained_quiet _ _ _ _ rfl id,
            IncidentKeys.get?_hold])
        ⟨carries page (.ok key) before action carried, trivial, trivial⟩
      simpa using after

end Faithful

/-- The turn of a trigger in range begins with the question for violations, which is not
asked again in it. -/
theorem Escalation.Turned.begins {check : Check} {lastGood : Option Instant} {now : Instant}
    {trigger : Trigger} {keys later : IncidentKeys} {log : List Exchange}
    {result : Except StoreError Bool}
    (turned : Turned check lastGood now trigger keys log (some result) later) :
    ∃ first others, log = first :: others ∧ first.request.beginsTurn = true ∧
      ∀ exchange ∈ others, exchange.request.beginsTurn = false := by
  cases turned with
  | unread | outside | unkeyed | keyed => exact ⟨_, _, rfl, rfl, by simp [Request.beginsTurn]⟩
  | mailed bound found _ _ mails sent =>
      refine ⟨_, _, rfl, rfl, fun exchange member => ?_⟩
      rcases List.mem_cons.mp member with rfl | mailed
      · rfl
      · obtain ⟨mail, _, rfl⟩ := List.mem_map.mp mailed
        rfl

theorem inTurns_turned {check : Check} {lastGood : Option Instant} {now : Instant}
    {trigger : Trigger} {keys later : IncidentKeys} {log : List Exchange}
    {result : Except StoreError Bool}
    (turned : Escalation.Turned check lastGood now trigger keys log (some result) later)
    (turn : Option Trigger) (rest : List Trigger) (tail : List Exchange) :
    inTurns check turn (trigger :: rest) (log ++ tail) =
      log.map (.exchange check (some trigger)) ++ inTurns check (some trigger) rest tail := by
  obtain ⟨first, others, rfl, begins, within⟩ := turned.begins
  rw [List.cons_append, inTurns, if_pos begins, List.head?_cons, List.tail_cons,
    inTurns_append _ _ _ _ _ within]
  rfl

namespace Faithful

variable {history : List Happening} {keys later : IncidentKeys} {log : List Exchange}

theorem turns (dispatcher : Dispatcher) (check : Check) (lastGood : Option Instant)
    (now : Instant) (triggers : List Trigger) (own : ∀ trigger ∈ triggers, trigger ∈ check.triggers)
    (faithful : Faithful history keys) (turn : Option Trigger) {delivered : Nat}
    {value : Option (Except StoreError Nat)}
    (course : Course IncidentKeys.Responds
      (Escalation.runAll dispatcher check lastGood now triggers delivered) keys log value later) :
    Faithful (history ++ inTurns check turn triggers log) later := by
  induction triggers generalizing history keys log turn delivered with
  | nil =>
      obtain ⟨rfl, rfl, rfl⟩ := course.of_done
      simpa [inTurns] using faithful
  | cons trigger rest ih =>
      obtain ⟨first, others⟩ := List.forall_mem_cons.mp own
      -- The question for violations marks where the turn of the next trigger begins.
      unfold Escalation.runAll at course
      rcases course.of_bind with ⟨head, tail, result, middle, rfl, began, ended⟩ | ⟨rfl, broke⟩
      · have turned := Escalation.runTrigger_course dispatcher check lastGood now trigger began
        rw [inTurns_turned turned, ← List.append_assoc]
        have next := faithful.turn first turned
        cases result with
        | error e =>
            obtain ⟨rfl, rfl, rfl⟩ := ended.of_done
            simpa [inTurns] using next
        | ok sent => exact ih others next _ ended
      · have turned := Escalation.runTrigger_course dispatcher check lastGood now trigger broke
        cases turned with
        | outOfRange => simpa [inTurns] using faithful

theorem escalated (faithful : Faithful history keys) (dispatcher : Dispatcher) (check : Check)
    (turn : Option Trigger) {value : Option (Except StoreError Nat)}
    (course : Course IncidentKeys.Responds (Escalation.runTriggers dispatcher check) keys log value
      later) :
    Faithful (history ++ inTurns check turn check.triggers log) later := by
  unfold Escalation.runTriggers at course
  split at course
  · obtain ⟨rfl, rfl, rfl⟩ := course.of_done
    simpa [inTurns] using faithful
  · obtain ⟨answer, middle, tail, rfl, ⟨_, kept⟩, rest⟩ := course.of_request_bind
    obtain rfl : keys = middle := kept.symm
    cases answer with
    | error e =>
        obtain ⟨rfl, rfl, rfl⟩ := rest.of_done
        exact faithful.aside check turn [⟨.lastGood check.clusterId check.id, .error e⟩]
          (by simp [Request.concernsKeys])
    | ok lastGood =>
        obtain ⟨now, middle, tail, rfl, ⟨_, kept⟩, rest⟩ := rest.of_request_bind
        obtain rfl : keys = middle := kept.symm
        have led := faithful.aside check turn
          [⟨.lastGood check.clusterId check.id, .ok lastGood⟩, ⟨.now, now⟩]
          (by simp [Request.concernsKeys])
        have ran := led.turns dispatcher check (lastGood.map (·.created)) now check.triggers
          (fun _ own => own) turn rest
        rw [List.append_assoc] at ran
        exact ran

end Faithful

theorem EngineRun.faithful {dispatcher : Dispatcher} {history : List Happening}
    {keys : IncidentKeys} (run : EngineRun dispatcher history keys) : Faithful history keys := by
  induction run with
  | start => exact .start
  | escalate check _ course ih => exact ih.escalated dispatcher check none course
  | forgetCheck checkId _ ih =>
      refine ih.append _ rfl (fun c t => ?_) ⟨trivial, trivial⟩
      rw [IncidentKeys.get?_forgetCheck, List.foldl_cons, List.foldl_nil]
      by_cases own : c = checkId
      · rw [if_pos own, retained_clears]
        exact own.symm
      · have harmless : ¬ (Happening.forgetCheck checkId).Clears c t := fun same => own same.symm
        rw [if_neg own, retained_quiet _ _ _ _ rfl harmless]
  | forgetRemoved check _ ih =>
      refine ih.append _ rfl (fun c t => ?_) ⟨trivial, trivial⟩
      rw [IncidentKeys.get?_forgetRemoved, List.foldl_cons, List.foldl_nil]
      by_cases removed : c = check.id ∧ check.defines t = false
      · rw [if_pos removed, retained_clears]
        exact ⟨removed.1.symm, removed.2⟩
      · have harmless : ¬ (Happening.forgetRemoved check).Clears c t :=
          fun same => removed ⟨same.1.symm, same.2⟩
        rw [if_neg removed, retained_quiet _ _ _ _ rfl harmless]

/-- In every run of the engine a key is held exactly if the history remembers it, and every
call to the pager service carries the configured key or, where that is blank, the key that
is held at that time. -/
theorem EngineRun.holds_what_is_remembered {dispatcher : Dispatcher} {history : List Happening}
    {keys : IncidentKeys} (run : EngineRun dispatcher history keys) :
    (∀ checkId triggerId key,
      keys.get? checkId triggerId = some key ↔ Remembered checkId triggerId key history) ∧
    ∀ before check turn page reply after,
      history = before ++ .exchange check turn ⟨.page page, reply⟩ :: after →
        ∃ trigger serviceKey description configured, turn = some trigger ∧
          trigger ∈ check.triggers ∧ trigger.action = .pager serviceKey description configured ∧
            page.incidentKey =
              (if (Text.trim configured).isEmpty then (heldAfter before).get? check.id trigger.id
              else some (Text.trim configured)) ∧
            ∀ key, (heldAfter before).get? check.id trigger.id = some key ↔
              Remembered check.id trigger.id key before := by
  have faithful := run.faithful
  refine ⟨fun checkId triggerId key => ?_, ?_⟩
  · rw [faithful.recalls, recalled_eq_some_iff]
  · rintro before check turn page reply after rfl
    obtain ⟨trigger, serviceKey, description, configured, isTurn, own, action, carried, held⟩ :=
      ((carriedFrom_append [] before _).mp faithful.carried).2.1
    rw [List.nil_append] at carried held
    refine ⟨trigger, serviceKey, description, configured, isTurn, own, action, ?_, fun key => ?_⟩
    · rw [carried, held, Dispatcher.chosenKey]
    · rw [held, recalled_eq_some_iff]

def pagedTrigger : Trigger :=
  ⟨1, 1, none, 60, .pager "service" "" ""⟩

def pagedCheck : Check where
  id := 1
  clusterId := 1
  name := "up"
  interval := "1m"
  hosts := .list ["web"]
  expressions := [.ofKind (.ping ⟨1⟩)]
  triggers := [pagedTrigger]
  silenced := false

def violated : Surroundings where
  now := ⟨2⟩
  store := .memory { MemoryStore.empty with records := [⟨1, 1, ⟨1⟩, true, [], ⟨1000000⟩⟩] }
  foreignRows := []
  faults := []
  silence := ⟨["web"], [], []⟩
  probeDelay := ⟨0⟩
  mailReply := fun _ => .ok ()
  pageReply := fun _ _ => .ok "INC-1"
  outbox := ⟨[], []⟩
  keys := .empty

def firstCall : List Happening :=
  inTurns pagedCheck none pagedCheck.triggers
    ((Escalation.runTriggers ⟨[], true, "daemon"⟩ pagedCheck).logOf Surroundings.answer violated)

/-- The key of the incident is held after the first call and remembered from it. -/
theorem firstCall_remembered :
    EngineRun ⟨[], true, "daemon"⟩ firstCall
        ((Escalation.runTriggers ⟨[], true, "daemon"⟩ pagedCheck).runIn violated).2.keys ∧
      Remembered 1 1 "INC-1" firstCall := by
  have run : EngineRun ⟨[], true, "daemon"⟩ firstCall
      ((Escalation.runTriggers ⟨[], true, "daemon"⟩ pagedCheck).runIn violated).2.keys :=
    .escalate_in violated pagedCheck .start
  exact ⟨run, ((run.holds_what_is_remembered).1 1 1 "INC-1").mp (by decide +kernel)⟩

end FleetMonitor
