import FleetMonitor.Proofs.Attendance
import FleetMonitor.Proofs.Keys

/-!
# No call is missed

A message that was published after the subscription is ahead of the reader until it is taken,
alone or with others as the notice of a lag, and a request stays in the queue until it is
taken.  Whatever is taken is followed by a reading of the rows before anything else is, so a
steward that waits for nothing has read the rows since it was called last.
-/

set_option autoImplicit false

namespace FleetMonitor

namespace Bus

theorem topic_publish (bus : Bus) (name other message : String) :
    (bus.publish name message).topic other =
      if other = name then (bus.topic name).publish message else bus.topic other := by
  unfold topic publish
  rw [IncidentKeys.lookup_put]
  split <;> rfl

theorem Arises.kept_le {bus : Bus} (arises : bus.Arises) (name : String) :
    (bus.topic name).kept.length ≤ (bus.topic name).sent := by
  induction arises with
  | empty => exact Nat.le_refl 0
  | @publish bus topic message _ ih =>
      rw [topic_publish]
      split
      · next same =>
          subst same
          simp only [Topic.publish, List.length_drop, List.length_append, List.length_singleton]
          omega
      · exact ih

theorem receive_behind (bus : Bus) (reader : Reader)
    (behind : reader.next < (bus.topic reader.topic).sent) :
    (bus.receive reader).1 ≠ .nothing := by
  dsimp only [receive]
  split
  · nofun
  · next inTime =>
      have within : reader.next - (bus.topic reader.topic).oldest <
          (bus.topic reader.topic).kept.length := by
        unfold Topic.oldest at inTime ⊢
        omega
      simp only [List.getElem?_eq_getElem within]
      nofun

theorem Arises.receive_le {bus : Bus} (arises : bus.Arises) {reader after : Reader}
    {received : Received} (receives : bus.receive reader = (received, after))
    (behind : reader.next ≤ (bus.topic reader.topic).sent) :
    after.topic = reader.topic ∧ after.next ≤ (bus.topic reader.topic).sent := by
  have kept := arises.kept_le reader.topic
  dsimp only [receive] at receives
  split at receives
  · obtain ⟨_, rfl⟩ := Prod.mk.inj receives
    exact ⟨rfl, Nat.sub_le _ _⟩
  · next inTime =>
      split at receives
      · next text found =>
          obtain ⟨_, rfl⟩ := Prod.mk.inj receives
          obtain ⟨within, _⟩ := List.getElem?_eq_some_iff.mp found
          refine ⟨rfl, ?_⟩
          change reader.next + 1 ≤ _
          unfold Topic.oldest at inTime within
          omega
      · obtain ⟨_, rfl⟩ := Prod.mk.inj receives
        exact ⟨rfl, behind⟩

end Bus

namespace Attendance

namespace Event

def Calls : Event → Prop
  | published topic => topic = refetchTopic
  | asked (.refetch _) => True
  | _ => False

def Begins : Event → Prop
  | began => True
  | _ => False

def Ends : Event → Prop
  | failed _ => True
  | done => True
  | left => True
  | _ => False

end Event

def Since (opens settles : Event → Prop) (past : List (Attendance × Event)) : Prop :=
  ∃ early m event late, past = early ++ (m, event) :: late ∧ opens event ∧
    ∀ entry ∈ late, ¬ settles entry.2

theorem not_since_nil (opens settles : Event → Prop) : ¬ Since opens settles [] := by
  rintro ⟨early, m, event, late, nothing, _⟩
  simp at nothing

theorem since_snoc (opens settles : Event → Prop) (past : List (Attendance × Event))
    (m : Attendance) (event : Event) :
    Since opens settles (past ++ [(m, event)]) ↔
      opens event ∨ Since opens settles past ∧ ¬ settles event := by
  constructor
  · rintro ⟨early, m', event', late, same, opened, unsettled⟩
    rcases late.eq_nil_or_concat' with rfl | ⟨between, last, rfl⟩
    · obtain ⟨_, rfl⟩ := Prod.mk.inj (List.singleton_inj.mp (List.append_inj' same rfl).2)
      exact Or.inl opened
    · rw [← List.cons_append, ← List.append_assoc] at same
      obtain ⟨rfl, isLast⟩ := List.append_inj' same rfl
      obtain rfl := List.singleton_inj.mp isLast
      rw [List.forall_mem_append] at unsettled
      exact Or.inr ⟨⟨early, m', event', between, rfl, opened, unsettled.1⟩,
        unsettled.2 _ (List.mem_singleton_self _)⟩
  · rintro (opened | ⟨⟨early, m', event', late, rfl, opened, unsettled⟩, goesOn⟩)
    · exact ⟨past, m, event, [], rfl, opened, List.forall_mem_nil _⟩
    · refine ⟨early, m', event', late ++ [(m, event)], ?_, opened, ?_⟩
      · rw [List.append_assoc, List.cons_append]
      · rw [List.forall_mem_append]
        refine ⟨unsettled, ?_⟩
        intro entry member
        rw [List.mem_singleton.mp member]
        exact goesOn

variable {settings : Settings} {pipeline : Pipeline} {m later : Attendance} {event : Event}

/-- A call is on its way to the steward, or was taken by it. -/
def Due (m : Attendance) : Prop :=
  m.stint = .called ∨ m.calls.next < (m.bus.topic refetchTopic).sent ∨
    ∃ asker, Errand.refetch asker ∈ m.queue

def Lists (m : Attendance) : Prop :=
  m.stint = .reading ∨ m.stint = .arranging

structure Reads (m : Attendance) : Prop where
  arises : m.bus.Arises
  topic : m.calls.topic = refetchTopic
  behind : m.calls.next ≤ (m.bus.topic refetchTopic).sent

theorem start_reads {origin : Bus} (arises : origin.Arises) : (start origin).Reads :=
  ⟨arises, rfl, Nat.le_refl _⟩

theorem sent_publish_le (bus : Bus) (topic message : String) :
    (bus.topic refetchTopic).sent ≤ ((bus.publish topic message).topic refetchTopic).sent := by
  rw [Bus.topic_publish]
  split
  · next same =>
      subst same
      exact Nat.le_succ _
  · exact Nat.le_refl _

theorem Reads.step (reads : m.Reads) (step : Step settings pipeline m event later) :
    later.Reads := by
  obtain ⟨arises, topic, behind⟩ := reads
  cases step with
  | publish name message =>
      exact ⟨.publish name message arises, topic,
        Nat.le_trans behind (sent_publish_le m.bus name message)⟩
  | call waiting receives message =>
      rw [← topic] at behind
      obtain ⟨same, notAhead⟩ := arises.receive_le receives behind
      rw [topic] at same notAhead
      exact ⟨arises, same, notAhead⟩
  | _ => exact ⟨arises, topic, behind⟩

theorem Step.due (reads : m.Reads) (step : Step settings pipeline m event later)
    (calls : event.Calls) : later.Due := by
  cases step with
  | publish name message =>
      obtain rfl := calls
      refine Or.inr (Or.inl ?_)
      have behind := reads.behind
      simp only [Bus.topic_publish, if_true, Topic.publish]
      omega
  | ask errand hears =>
      cases errand with
      | refetch asker => exact Or.inr (Or.inr ⟨asker, by simp⟩)
      | _ => cases calls
  | _ => cases calls

/-- It stays so until the steward begins to read. -/
theorem Due.step (due : m.Due) (step : Step settings pipeline m event later)
    (goesOn : ¬ event.Begins) : later.Due := by
  have called : m.stint ≠ .called → m.calls.next < (m.bus.topic refetchTopic).sent ∨
      ∃ asker, Errand.refetch asker ∈ m.queue := due.resolve_left
  cases step with
  | publish name message =>
      refine due.imp_right (Or.imp_left fun unread => ?_)
      exact Nat.lt_of_lt_of_le unread (sent_publish_le m.bus name message)
  | ask errand hears =>
      refine due.imp_right (Or.imp_right ?_)
      rintro ⟨asker, member⟩
      exact ⟨asker, List.mem_append_left _ member⟩
  | tick waiting => exact Or.inl rfl
  | call waiting receives message => exact Or.inl rfl
  | refetch asker rest waiting queue => exact Or.inl rfl
  | begin isCalled => exact absurd trivial goesOn
  | assigned asker rest waiting queue =>
      refine due.imp_right (Or.imp_right ?_)
      rintro ⟨other, member⟩
      rw [queue] at member
      exact ⟨other, by simpa using member⟩
  | shutdown rest waiting queue =>
      refine Or.inr ((called (by simp [waiting])).imp_right ?_)
      rintro ⟨other, member⟩
      rw [queue] at member
      exact ⟨other, by simpa using member⟩
  | crew allowed moves => exact due
  | untimely waiting => exact Or.inr (called (by simp [waiting]))
  | fail cause reading => exact Or.inr (called (by simp [reading]))
  | list rows daemons reading idle => exact Or.inr (called (by simp [reading]))
  | done arranging idle whole => exact Or.inr (called (by simp [arranging]))
  | breakOff arranging broken => exact Or.inr (called (by simp [arranging]))
  | close closing => exact Or.inr (called (by simp [closing]))

theorem Lists.step (lists : m.Lists) (step : Step settings pipeline m event later)
    (goesOn : ¬ event.Ends) : later.Lists := by
  have other : ∀ {stint : Stint}, m.stint = stint → stint ≠ .reading → stint ≠ .arranging →
      later.Lists := by
    rintro stint rfl reading arranging
    exact absurd lists (not_or.mpr ⟨reading, arranging⟩)
  cases step with
  | publish | ask | crew => exact lists
  | tick waiting => exact other waiting nofun nofun
  | untimely waiting => exact other waiting nofun nofun
  | call waiting => exact other waiting nofun nofun
  | refetch asker rest waiting => exact other waiting nofun nofun
  | assigned asker rest waiting => exact other waiting nofun nofun
  | shutdown rest waiting => exact other waiting nofun nofun
  | begin called => exact other called nofun nofun
  | list => exact Or.inr rfl
  | fail | done | breakOff | close => exact absurd trivial goesOn

structure Heeds (past : List (Attendance × Event)) (m : Attendance) : Prop where
  reads : m.Reads
  due : Since Event.Calls Event.Begins past → m.Due
  lists : Since Event.Begins Event.Ends past → m.Lists

theorem Path.heeds {origin : Bus} (arises : origin.Arises) {past : List (Attendance × Event)}
    (path : Path settings pipeline (.start origin) past m) : Heeds past m := by
  induction path with
  | start => exact ⟨start_reads arises, fun since => absurd since (not_since_nil _ _),
      fun since => absurd since (not_since_nil _ _)⟩
  | @step past m later event former step ih =>
      refine ⟨ih.reads.step step, fun since => ?_, fun since => ?_⟩
      · rcases (since_snoc _ _ _ _ _).mp since with calls | ⟨since, goesOn⟩
        · exact step.due ih.reads calls
        · exact (ih.due since).step step goesOn
      · rcases (since_snoc _ _ _ _ _).mp since with begins | ⟨since, goesOn⟩
        · cases step with
          | begin => exact Or.inl rfl
          | _ => cases begins
        · exact (ih.lists since).step step goesOn

/-! ## A reading that fails -/

theorem Step.arranging (step : Step settings pipeline m event later)
    (arranging : m.stint = .arranging) (goesOn : ¬ event.Ends) : later.stint = .arranging := by
  cases step with
  | publish | ask | crew => exact arranging
  | fail | done | breakOff | close => exact absurd trivial goesOn
  | _ => simp_all

theorem Step.reading (step : Step settings pipeline m event later) (reading : m.stint = .reading)
    (goesOn : ¬ event.Ends) :
    later.stint = .arranging ∨ later.stint = .reading ∧
      ∃ works, Muster.Path pipeline m.muster works later.muster ∧
        ∀ entry ∈ works, entry.2.Works := by
  cases step with
  | publish | ask => exact Or.inr ⟨reading, [], .start, List.forall_mem_nil _⟩
  | @crew act muster allowed moves =>
      rw [reading] at allowed
      refine Or.inr ⟨reading, [] ++ [(m.muster, act)], .step .start moves, ?_⟩
      simpa using Stint.works_of_reading allowed
  | list => exact Or.inl rfl
  | fail | done | breakOff | close => exact absurd trivial goesOn
  | _ => simp_all

/-- While a steward reads, its workers go on by themselves and nothing is done to them. -/
theorem Path.reading {begun : Attendance} {past : List (Attendance × Event)}
    (path : Path settings pipeline begun past m) (begins : begun.stint = .reading)
    (goesOn : ∀ entry ∈ past, ¬ entry.2.Ends) :
    m.stint = .arranging ∨ m.stint = .reading ∧
      ∃ works, Muster.Path pipeline begun.muster works m.muster ∧
        ∀ entry ∈ works, entry.2.Works := by
  induction path with
  | start => exact Or.inr ⟨begins, [], .start, List.forall_mem_nil _⟩
  | @step past m later event former step ih =>
      rw [List.forall_mem_append] at goesOn
      have stays : ¬ event.Ends := goesOn.2 _ (List.mem_singleton_self _)
      rcases ih goesOn.1 with arranging | ⟨reading, works, early, byThemselves⟩
      · exact Or.inl (step.arranging arranging stays)
      · rcases step.reading reading stays with arranging | ⟨reading, more, late, also⟩
        · exact Or.inl arranging
        · exact Or.inr ⟨reading, works ++ more, early.append late,
            List.forall_mem_append.mpr ⟨byThemselves, also⟩⟩

/-- A steward that waits, with nothing on the bus that it has not taken and no request in its
queue, has begun to read the rows since it was called last; it begins no reading before it is
done with the one before; and when a reading fails, nothing was done to the workers since it
began but what they did by themselves. -/
theorem no_call_is_missed {origin : Bus} (arises : origin.Arises)
    {past : List (Attendance × Event)} (path : Path settings pipeline (.start origin) past m) :
    (m.stint = .waiting → (m.bus.receive m.calls).1 = .nothing →
      (∀ asker, Errand.refetch asker ∉ m.queue) → ¬ Since Event.Calls Event.Begins past) ∧
    (∀ early between late first second,
      past = early ++ (first, .began) :: between ++ (second, .began) :: late →
        ∃ entry ∈ between, entry.2.Ends) ∧
    ∀ early between late first failing cause,
      past = early ++ (first, .began) :: between ++ (failing, .failed cause) :: late →
        (∀ entry ∈ between, ¬ entry.2.Ends) →
          ∃ works after, Step settings pipeline failing (.failed cause) after ∧
            Path settings pipeline after late m ∧
              Muster.Path pipeline first.muster works after.muster ∧
                ∀ entry ∈ works, entry.2.Works := by
  refine ⟨?_, ?_, ?_⟩
  · intro waiting taken unasked since
    obtain ⟨reads, due, _⟩ := path.heeds arises
    rcases due since with called | unread | ⟨asker, queued⟩
    · rw [waiting] at called
      cases called
    · rw [← reads.topic] at unread
      exact m.bus.receive_behind m.calls unread taken
    · exact unasked asker queued
  · rintro early between late first second rfl
    by_contra unended
    simp only [not_exists, not_and] at unended
    obtain ⟨former, _, begins, _⟩ := path.split
    have lists := (former.heeds arises).lists ⟨early, first, .began, between, rfl, trivial, unended⟩
    cases begins with
    | begin called => rcases lists with reading | arranging <;> simp_all
  · rintro early between late first failing cause rfl goesOn
    obtain ⟨former, after, fails, rest⟩ := path.split
    obtain ⟨_, begun, begins, reads⟩ := former.split
    cases begins with
    | begin called =>
        cases fails with
        | fail cause reading =>
            rcases reads.reading rfl goesOn with arranging | ⟨_, works, path, byThemselves⟩
            · rw [reading] at arranging
              cases arranging
            · exact ⟨works, _, .fail cause reading, rest, path, byThemselves⟩

/-- While the steward reads the rows on a request, it is called on the bus; the reading fails,
and the steward reads again. -/
theorem call_while_reading_is_heeded :
    ∃ past m, Path { address := "a" } (Daemon.pipeline { address := "a" } ⟨[], false, ""⟩)
        (.start .empty) past m ∧ m.stint = .waiting ∧
      past.map (·.2) = [.asked (.refetch none), .took, .began, .published refetchTopic,
        .failed (.failed "locked"), .took, .began, .listed [], .done] ∧
      ¬ Since Event.Calls Event.Begins past := by
  have noChecks : Dealing.hand (Dealing.readable []) ["a"] "a" = [] := by
    simp [Dealing.hand, Dealing.order, Dealing.readable]
  have asked := (Path.start : Path { address := "a" }
    (Daemon.pipeline { address := "a" } ⟨[], false, ""⟩) (.start .empty) [] _).step
      (.ask (.refetch none) nofun)
  have began := (asked.step (.refetch none [] rfl rfl)).step (.begin rfl)
  have called := began.step (.publish refetchTopic "")
  have failed := called.step (.fail (.failed "locked") rfl)
  have again := (failed.step (.call rfl rfl nofun)).step (.begin rfl)
  have listed := again.step (.list [] ["a"] rfl ⟨rfl, rfl, rfl⟩)
  have done := listed.step (.done rfl ⟨rfl, noChecks, rfl⟩ rfl)
  exact ⟨_, _, done, rfl, rfl, (no_call_is_missed .empty done).1 rfl rfl (by simp)⟩

end Attendance

end FleetMonitor
