import FleetMonitor.Daemon
import FleetMonitor.Proofs.Muster

/-!
# A steward that is called while it is at work

Calls on the bus, errands and ticks come at any time, also while the steward reads the rows of
checks or brings its crew in line; the workers go on by themselves all the while.  What a
daemon does from its start on is such a run, whether the rows can be read or not.
-/

set_option autoImplicit false

namespace FleetMonitor

inductive Bus.Arises : Bus → Prop
  | empty : Arises .empty
  | publish {bus : Bus} (topic message : String) (arises : Arises bus) :
      Arises (bus.publish topic message)

inductive Stint where
  | waiting
  | called
  | reading
  | arranging
  | closing
  | ended
deriving DecidableEq

/-- What may happen to the crew meanwhile.  Workers go on by themselves at any time; they are
brought in line only by a steward that is at it, and told to end only by one that takes nothing
more. -/
def Stint.Allows : Stint → Muster.Act → Prop
  | _, .work _ _ => True
  | arranging, .arrange => True
  | closing, .tell _ .shutdown => True
  | ended, .tell _ .shutdown => True
  | _, _ => False

theorem Stint.allows_of_works (stint : Stint) {act : Muster.Act} (works : act.Works) :
    stint.Allows act := by
  cases act with
  | work id exchange => cases stint <;> trivial
  | _ => cases works

theorem Stint.works_of_reading {act : Muster.Act} (allowed : reading.Allows act) : act.Works := by
  cases act with
  | work id exchange => trivial
  | tell id command => cases command <;> cases allowed
  | _ => cases allowed

/-- A steward with all that reaches it, and its crew. -/
structure Attendance where
  bus : Bus
  calls : Reader
  queue : List Errand
  stint : Stint
  muster : Muster

namespace Attendance

inductive Event where
  | published (topic : String)
  | asked (errand : Errand)
  | took
  | began
  | failed (cause : StoreError)
  | listed (rows : List StoredCheck)
  | crew (act : Muster.Act)
  | done
  | left

def start (bus : Bus) : Attendance :=
  ⟨bus, bus.subscribe refetchTopic, [], .waiting, .empty⟩

/-- One thing that happens to a steward.  Of what waits for it, it may take anything next.  The
daemons to which the checks are dealt are those that it sees at that time, whatever they are. -/
inductive Step (settings : Settings) (pipeline : Pipeline) :
    Attendance → Event → Attendance → Prop
  | publish {m : Attendance} (topic message : String) :
      Step settings pipeline m (.published topic) { m with bus := m.bus.publish topic message }
  | ask {m : Attendance} (errand : Errand) (hears : m.stint ≠ .ended) :
      Step settings pipeline m (.asked errand) { m with queue := m.queue ++ [errand] }
  | tick {m : Attendance} (waiting : m.stint = .waiting) :
      Step settings pipeline m .took { m with stint := .called }
  | untimely {m : Attendance} (waiting : m.stint = .waiting) :
      Step settings pipeline m .left { m with stint := .ended }
  | call {m : Attendance} {received : Received} {calls : Reader} (waiting : m.stint = .waiting)
      (receives : m.bus.receive m.calls = (received, calls)) (something : received ≠ .nothing) :
      Step settings pipeline m .took { m with calls, stint := .called }
  | refetch {m : Attendance} (asker : Option Nat) (rest : List Errand)
      (waiting : m.stint = .waiting) (queue : m.queue = .refetch asker :: rest) :
      Step settings pipeline m .took { m with queue := rest, stint := .called }
  | assigned {m : Attendance} (asker : Nat) (rest : List Errand) (waiting : m.stint = .waiting)
      (queue : m.queue = .assigned asker :: rest) :
      Step settings pipeline m .took { m with queue := rest }
  | shutdown {m : Attendance} (rest : List Errand) (waiting : m.stint = .waiting)
      (queue : m.queue = .shutdown :: rest) :
      Step settings pipeline m .left { m with queue := rest, stint := .closing }
  | begin {m : Attendance} (called : m.stint = .called) :
      Step settings pipeline m .began { m with stint := .reading }
  | fail {m : Attendance} (cause : StoreError) (reading : m.stint = .reading) :
      Step settings pipeline m (.failed cause) { m with stint := .waiting }
  | list {m : Attendance} (rows : List StoredCheck) (daemons : List String)
      (reading : m.stint = .reading) (idle : m.muster.Idle) :
      Step settings pipeline m (.listed rows)
        { m with
          stint := .arranging
          muster := m.muster.summoned
            (Dealing.hand (Dealing.readable rows) daemons settings.address) }
  | done {m : Attendance} (arranging : m.stint = .arranging) (idle : m.muster.Idle)
      (whole : m.muster.r.broken = false) :
      Step settings pipeline m .done { m with stint := .waiting }
  | breakOff {m : Attendance} (arranging : m.stint = .arranging)
      (broken : m.muster.r.broken = true) :
      Step settings pipeline m .left { m with stint := .ended }
  | crew {m : Attendance} {act : Muster.Act} {muster : Muster} (allowed : m.stint.Allows act)
      (moves : m.muster.Step pipeline act muster) :
      Step settings pipeline m (.crew act) { m with muster }
  | close {m : Attendance} (closing : m.stint = .closing) :
      Step settings pipeline m .left { m with stint := .ended }

/-- What happened on the way from one state to another, each time with the state in which it
happened. -/
inductive Path (settings : Settings) (pipeline : Pipeline) (origin : Attendance) :
    List (Attendance × Event) → Attendance → Prop
  | start : Path settings pipeline origin [] origin
  | step {past : List (Attendance × Event)} {m later : Attendance} {event : Event}
      (former : Path settings pipeline origin past m)
      (step : Step settings pipeline m event later) :
      Path settings pipeline origin (past ++ [(m, event)]) later

variable {settings : Settings} {pipeline : Pipeline}

theorem Path.append {origin m later : Attendance} {past more : List (Attendance × Event)}
    (early : Path settings pipeline origin past m) (late : Path settings pipeline m more later) :
    Path settings pipeline origin (past ++ more) later := by
  induction late with
  | start => rwa [List.append_nil]
  | step _ step ih =>
      rw [← List.append_assoc]
      exact ih.step step

/-- The state at any point of the way, and what happened there. -/
theorem Path.split {origin m later : Attendance} {early late : List (Attendance × Event)}
    {event : Event} (path : Path settings pipeline origin (early ++ (m, event) :: late) later) :
    Path settings pipeline origin early m ∧ ∃ next, Step settings pipeline m event next ∧
      Path settings pipeline next late later := by
  generalize whole : early ++ (m, event) :: late = past at path
  induction path generalizing late with
  | start => simp at whole
  | @step past m' later event' former step ih =>
      rcases late.eq_nil_or_concat' with rfl | ⟨between, last, rfl⟩
      · obtain ⟨rfl, same⟩ := List.append_inj' whole rfl
        obtain ⟨rfl, rfl⟩ := Prod.mk.inj (List.singleton_inj.mp same)
        exact ⟨former, later, step, .start⟩
      · rw [← List.cons_append, ← List.append_assoc] at whole
        obtain ⟨rfl, same⟩ := List.append_inj' whole rfl
        obtain rfl := List.singleton_inj.mp same
        obtain ⟨path, next, first, rest⟩ := ih rfl
        exact ⟨path, next, first, rest.step step⟩

theorem Path.of_muster {m : Attendance} {past : List (Muster × Muster.Act)} {muster : Muster}
    (path : Muster.Path pipeline m.muster past muster)
    (allowed : ∀ entry ∈ past, m.stint.Allows entry.2) :
    ∃ events, Path settings pipeline m events { m with muster } := by
  induction path with
  | start => exact ⟨[], .start⟩
  | step _ step ih =>
      rw [List.forall_mem_append] at allowed
      obtain ⟨events, path⟩ := ih allowed.1
      exact ⟨_, path.step (.crew (allowed.2 _ (List.mem_singleton_self _)) step)⟩

/-! ## What a daemon does is such a run -/

def StewardAt (m : Attendance) : Option Steward → Prop
  | none => m.stint = .ended
  | some steward =>
      m.stint = (if steward.closing then .closing else .waiting) ∧ m.calls = steward.calls ∧
        m.queue = steward.queue

theorem stewardAt_iff {m : Attendance} {steward : Steward} (goesOn : steward.closing = false) :
    StewardAt m (some steward) ↔
      m.stint = .waiting ∧ m.calls = steward.calls ∧ m.queue = steward.queue := by
  rw [StewardAt, goesOn]
  rfl

structure Shows (settings : Settings) (pipeline : Pipeline) (m : Attendance) (daemon : Daemon)
    (bus : Bus) : Prop where
  bus : m.bus = bus
  told : daemon.settings = settings
  steward : StewardAt m daemon.steward
  crew : Crew.Reachable pipeline daemon.crew
  muster : ∃ report broken,
    m.muster = .resting daemon.crew.schedule daemon.crew.keys report broken

def Leads (settings : Settings) (pipeline : Pipeline) (m : Attendance) (daemon : Daemon)
    (bus : Bus) : Prop :=
  ∃ past later, Path settings pipeline m past later ∧ Shows settings pipeline later daemon bus

theorem Leads.after {m later : Attendance} {past : List (Attendance × Event)} {daemon : Daemon}
    {bus : Bus} (path : Path settings pipeline m past later)
    (leads : Leads settings pipeline later daemon bus) :
    Leads settings pipeline m daemon bus := by
  obtain ⟨more, last, late, shows⟩ := leads
  exact ⟨_, last, path.append late, shows⟩

theorem Leads.next {m later : Attendance} {event : Event} {daemon : Daemon} {bus : Bus}
    (step : Step settings pipeline m event later)
    (leads : Leads settings pipeline later daemon bus) : Leads settings pipeline m daemon bus :=
  .after (.step .start step) leads

theorem Leads.published {m : Attendance} {daemon : Daemon} {bus : Bus}
    (leads : Leads settings pipeline m daemon bus) (topic message : String) :
    Leads settings pipeline m daemon (bus.publish topic message) := by
  obtain ⟨past, later, path, shows⟩ := leads
  refine ⟨_, _, path.step (.publish topic message), { shows with bus := ?_ }⟩
  rw [shows.bus]

namespace Shows

variable {m : Attendance} {daemon : Daemon} {bus : Bus}

theorem waits (shows : Shows settings pipeline m daemon bus) {steward : Steward}
    (stood : daemon.steward = some steward) (goesOn : steward.closing = false) :
    m.stint = .waiting ∧ m.calls = steward.calls ∧ m.queue = steward.queue := by
  have atWork := shows.steward
  rwa [stood, stewardAt_iff goesOn] at atWork

theorem here (shows : Shows settings pipeline m daemon bus) :
    Leads settings pipeline m daemon bus :=
  ⟨[], m, .start, shows⟩

theorem tell (shows : Shows settings pipeline m daemon bus) {later : Daemon} {errand : Errand}
    (told : daemon.tell? errand = some later) : Leads settings pipeline m later bus := by
  obtain ⟨steward, stood, rfl⟩ := Option.map_eq_some_iff.mp told
  have atWork := shows.steward
  rw [stood] at atWork
  obtain ⟨stint, calls, queue⟩ := atWork
  have hears : m.stint ≠ .ended := by
    rw [stint]
    split <;> nofun
  refine .next (.ask errand hears) (Shows.here { shows with steward := ?_ })
  exact ⟨stint, calls, congrArg (· ++ [errand]) queue⟩

/-- Whoever calls the steward ends if there is none; the steward does not notice. -/
theorem call (shows : Shows settings pipeline m daemon bus) (errand : Errand)
    {otherwise : Daemon} (same : Shows settings pipeline m otherwise bus) :
    Leads settings pipeline m ((daemon.tell? errand).getD otherwise) bus := by
  cases told : daemon.tell? errand with
  | none => exact same.here
  | some later => exact shows.tell told

theorem aside (shows : Shows settings pipeline m daemon bus) {later : Daemon}
    (told : later.settings = daemon.settings) (steward : later.steward = daemon.steward)
    (crew : later.crew = daemon.crew) : Shows settings pipeline m later bus where
  bus := shows.bus
  told := told.trans shows.told
  steward := by
    rw [steward]
    exact shows.steward
  crew := by
    rw [crew]
    exact shows.crew
  muster := by
    rw [crew]
    exact shows.muster

theorem hear?_eq {daemon later : Daemon} {now : Span} {address : String} {absent : Bool}
    (heard : daemon.hear? now address = some (absent, later)) :
    ∃ peers, later = { daemon with peers } := by
  obtain ⟨_, _, same⟩ := Option.map_eq_some_iff.mp heard
  obtain ⟨_, rfl⟩ := Prod.mk.inj same
  exact ⟨_, rfl⟩

theorem publish (shows : Shows settings pipeline m daemon bus) (now : Span) :
    Leads settings pipeline m (daemon.publish bus now).1 (daemon.publish bus now).2 := by
  unfold Daemon.publish
  split
  · next ticker _ =>
      split
      · unfold Daemon.beat
        split
        · next _ _ next _ absent later heard =>
            obtain ⟨peers, rfl⟩ := hear?_eq heard
            rcases peers.purge now with ⟨gone, left⟩
            have noted : Shows settings pipeline m
                { daemon with peers := left, publisher := some next } bus :=
              shows.aside rfl rfl rfl
            refine Leads.published ?_ heartbeatTopic daemon.address
            dsimp only
            split
            · exact noted.here
            · exact noted.call (.refetch none) (noted.aside rfl rfl rfl)
        · exact Shows.here (shows.aside rfl rfl rfl)
      · exact shows.here
  · exact shows.here

theorem takeHeartbeat (shows : Shows settings pipeline m daemon bus) (now : Span)
    (address : String) : Leads settings pipeline m (daemon.takeHeartbeat now address) bus := by
  unfold Daemon.takeHeartbeat
  split
  · next absent later heard =>
      obtain ⟨peers, rfl⟩ := hear?_eq heard
      have noted : Shows settings pipeline m { daemon with peers } bus := shows.aside rfl rfl rfl
      split
      · exact noted.call (.refetch none) (noted.aside rfl rfl rfl)
      · exact noted.here
  · exact Shows.here (shows.aside rfl rfl rfl)

theorem receive (shows : Shows settings pipeline m daemon bus) (now : Span) (fuel : Nat) :
    Leads settings pipeline m (daemon.receive bus now fuel) bus := by
  induction fuel generalizing m daemon with
  | zero => exact shows.here
  | succ fuel ih =>
      unfold Daemon.receive
      split
      · exact shows.here
      · next reader _ =>
          have anew : ∀ reader,
              Shows settings pipeline m { daemon with receiver := some reader } bus :=
            fun reader => shows.aside rfl rfl rfl
          split
          · exact shows.here
          · exact ih (anew _)
          · next address reader _ =>
              obtain ⟨past, later, path, taken⟩ := (anew reader).takeHeartbeat now address
              exact .after path (ih taken)

/-! ### The steward and its crew -/

theorem work (shows : Shows settings pipeline m daemon bus) (now : Span) (s : Surroundings) :
    Leads settings pipeline m { daemon with crew := (daemon.crew.settle now s).1 } bus := by
  obtain ⟨report, broken, muster⟩ := shows.muster
  have pipes : daemon.crew.pipeline = pipeline := (Muster.Path.of_reachable shows.crew).1
  have distinct := (Crew.reachable_kept _ _ shows.crew).distinct
  obtain ⟨worked, path, works⟩ := Muster.Path.of_runAll pipeline now daemon.crew.schedule.workers
    [] { s with keys := daemon.crew.keys } distinct report broken
  have began : Muster.Path pipeline m.muster worked _ := muster ▸ path
  obtain ⟨events, went⟩ :=
    Path.of_muster began fun entry member => m.stint.allows_of_works (works entry member)
  refine ⟨events, _, went, { shows with crew := .settle _ now s shows.crew, muster := ?_ }⟩
  exact ⟨report, broken, by rw [Crew.settle, pipes]; rfl⟩

theorem dismissing (shows : Shows settings pipeline m daemon bus)
    (leaving : m.stint = .closing ∨ m.stint = .ended) {later : Daemon}
    (told : later.settings = daemon.settings) (steward : later.steward = daemon.steward)
    (crew : later.crew = daemon.crew.dismiss) : Leads settings pipeline m later bus := by
  obtain ⟨report, broken, muster⟩ := shows.muster
  have distinct := (Crew.reachable_kept _ _ shows.crew).distinct
  obtain ⟨dismissed, path, tells⟩ := Muster.Path.of_dismiss pipeline daemon.crew.schedule.workers
    [] daemon.crew.keys distinct report broken
  have began : Muster.Path pipeline m.muster dismissed _ := muster ▸ path
  have allowed : ∀ entry ∈ dismissed, m.stint.Allows entry.2 := by
    intro entry member
    obtain ⟨id, act⟩ := tells entry member
    rw [act]
    rcases leaving with stint | stint <;>
      · rw [stint]
        trivial
  obtain ⟨events, went⟩ := Path.of_muster began allowed
  refine ⟨events, _, went, ?_⟩
  exact {
    bus := shows.bus
    told := told.trans shows.told
    steward := by
      rw [steward]
      exact shows.steward
    crew := by
      rw [crew]
      exact .dismiss _ shows.crew
    muster := ⟨report, broken, by rw [crew]; rfl⟩ }

theorem arrange (shows : Shows settings pipeline m daemon bus) (now : Span)
    (rows : List StoredCheck) :
    ∃ events muster, Path settings pipeline
        { m with
          stint := .arranging
          muster := m.muster.summoned (daemon.share now rows) } events
        { m with stint := .arranging, muster } ∧ muster.Idle ∧
      muster.r.broken = (daemon.crew.apply now (daemon.share now rows)).1.isNone ∧
      Shows settings pipeline { m with muster }
        { daemon with crew := (daemon.crew.apply now (daemon.share now rows)).2 } bus := by
  obtain ⟨report, broken, muster⟩ := shows.muster
  obtain ⟨arranged, path, arranges⟩ := Muster.Path.of_summoned pipeline daemon.crew.schedule
    daemon.crew.keys report broken now (daemon.share now rows)
  rw [← muster] at path
  have allowed : ∀ entry ∈ arranged, Stint.arranging.Allows entry.2 := by
    intro entry member
    rw [arranges entry member]
    trivial
  let summoned : Attendance :=
    { m with stint := .arranging, muster := m.muster.summoned (daemon.share now rows) }
  have began : Muster.Path pipeline summoned.muster arranged _ := path
  obtain ⟨events, went⟩ := Path.of_muster began allowed
  refine ⟨events, _, went, ⟨rfl, rfl, rfl⟩, ?_, ?_⟩
  · rw [Crew.apply, Reconciliation.report?]
    cases (daemon.crew.schedule.apply daemon.crew.keys now (daemon.share now rows)).broken <;> rfl
  · exact { shows with
      crew := .apply _ now _ shows.crew
      muster := ⟨_, _, rfl⟩ }

theorem refetch (shows : Shows settings pipeline m daemon bus) {steward : Steward}
    (stood : daemon.steward = some steward) (goesOn : steward.closing = false) (now : Span)
    (s : Surroundings) :
    (∃ e, daemon.refetch now s = .error e ∧
      Leads settings pipeline { m with stint := .called } daemon bus) ∨
    ∃ whole crew, daemon.refetch now s = .ok (whole, { daemon with crew }) ∧
      Leads settings pipeline { m with stint := .called }
        (if whole then { daemon with crew } else
          { daemon with crew := crew.dismiss, steward := none }) bus := by
  have waiting := (shows.waits stood goesOn).1
  have begins : Step settings pipeline { m with stint := .called } .began
      { m with stint := .reading } := .begin rfl
  cases told : s.rows with
  | error cause =>
      have failed : daemon.refetch now s = .error ⟨cause⟩ := by rw [Daemon.refetch, told]
      have fails : Step settings pipeline { m with stint := .reading } (.failed cause)
          { m with stint := .waiting } := .fail cause rfl
      rw [← waiting] at fails
      exact Or.inl ⟨_, failed, .next begins (.next fails shows.here)⟩
  | ok rows =>
      obtain ⟨events, muster, arranges, idle, broken, later⟩ := shows.arrange now rows
      obtain ⟨report, isBroken, resting⟩ := shows.muster
      have lists : Step settings pipeline { m with stint := .reading } (.listed rows)
          { m with stint := .arranging, muster := m.muster.summoned (daemon.share now rows) } := by
        rw [Daemon.share, Daemon.address, shows.told]
        exact .list rows _ rfl (by rw [resting]; exact ⟨rfl, rfl, rfl⟩)
      have listed : daemon.refetch now s =
          .ok ((daemon.crew.apply now (daemon.share now rows)).1.isSome,
            { daemon with crew := (daemon.crew.apply now (daemon.share now rows)).2 }) := by
        rw [Daemon.refetch, told]
      refine Or.inr ⟨_, _, listed, .next begins (.next lists (.after arranges ?_))⟩
      cases report : (daemon.crew.apply now (daemon.share now rows)).1 with
      | some report =>
          rw [report] at broken
          have done : Step settings pipeline { m with stint := .arranging, muster } .done
              { m with stint := .waiting, muster } := .done rfl idle broken
          rw [← waiting] at done
          exact .next done later.here
      | none =>
          rw [report] at broken
          have breaks : Step settings pipeline { m with stint := .arranging, muster } .left
              { m with stint := .ended, muster } := .breakOff rfl broken
          have gone : Shows settings pipeline { m with stint := .ended, muster }
              { daemon with
                crew := (daemon.crew.apply now (daemon.share now rows)).2, steward := none } bus :=
            { later with steward := rfl }
          exact .next breaks (gone.dismissing (Or.inr rfl) rfl rfl rfl)

theorem refetched (shows : Shows settings pipeline m daemon bus) {steward : Steward}
    (stood : daemon.steward = some steward) (goesOn : steward.closing = false) (now : Span)
    (s : Surroundings) :
    Leads settings pipeline { m with stint := .called } (daemon.refetched now s).1 bus := by
  unfold Daemon.refetched
  obtain ⟨e, failed, leads⟩ | ⟨whole, crew, listed, leads⟩ := shows.refetch stood goesOn now s
  · rw [failed]
    exact leads
  · rw [listed]
    cases whole <;> exact leads

theorem handle (shows : Shows settings pipeline m daemon bus) {steward : Steward}
    {errand : Errand} {queue : List Errand} (stood : daemon.steward = some steward)
    (queued : steward.queue = errand :: queue) (goesOn : steward.closing = false) (now : Span)
    (s : Surroundings) :
    Leads settings pipeline m
      (({ daemon with steward := some { steward with queue } } : Daemon).handle
        { steward with queue } now s errand).1 bus := by
  obtain ⟨waiting, calls, sameQueue⟩ := shows.waits stood goesOn
  rw [queued] at sameQueue
  have took : Shows settings pipeline { m with queue }
      { daemon with steward := some { steward with queue } } bus := by
    refine { shows with steward := ?_ }
    refine (stewardAt_iff ?_).mpr ⟨waiting, calls, rfl⟩
    exact goesOn
  cases errand with
  | assigned asker => exact .next (.assigned asker queue waiting sameQueue) took.here
  | shutdown =>
      refine .next (.shutdown queue waiting sameQueue) ?_
      have closing : Shows settings pipeline { m with queue, stint := .closing }
          { daemon with steward := some { steward with queue, closing := true } } bus :=
        { shows with steward := ⟨rfl, calls, rfl⟩ }
      exact closing.dismissing (Or.inl rfl) rfl rfl rfl
  | refetch asker =>
      refine .next (.refetch asker queue waiting sameQueue) ?_
      obtain ⟨e, failed, leads⟩ | ⟨whole, crew, listed, leads⟩ := took.refetch rfl goesOn now s
      · rw [Daemon.handle, failed]
        exact leads
      · rw [Daemon.handle, listed]
        cases whole <;> exact leads

theorem attend? (shows : Shows settings pipeline m daemon bus) (now : Span) (s : Surroundings)
    {later : Daemon} {answers : List StewardAnswer}
    (attended : daemon.attend? bus now s = some (later, answers)) :
    Leads settings pipeline m later bus := by
  obtain ⟨steward, stood, attended⟩ := Option.bind_eq_some_iff.mp attended
  cases goesOn : steward.closing with
  | true => simp [goesOn] at attended
  | false =>
      obtain ⟨waiting, calls, queue⟩ := shows.waits stood goesOn
      have result : ∀ {told : Daemon × List StewardAnswer}, some told = some (later, answers) →
          Leads settings pipeline m told.1 bus → Leads settings pipeline m later bus := by
        rintro told same leads
        rwa [Option.some.inj same] at leads
      rw [if_neg (by simp [goesOn])] at attended
      split at attended
      · split at attended
        · next ticker _ =>
            have ticked : Shows settings pipeline m
                { daemon with steward := some { steward with ticker } } bus :=
              { shows with steward := (stewardAt_iff goesOn).mpr ⟨waiting, calls, queue⟩ }
            exact result attended (.next (.tick waiting) (ticked.refetched rfl goesOn now s))
        · have gone : Shows settings pipeline { m with stint := .ended }
              { daemon with steward := none } bus := { shows with steward := rfl }
          refine result attended (.next (.untimely waiting) ?_)
          exact gone.dismissing (Or.inr rfl) rfl rfl rfl
      · split at attended
        · cases attended
        · next errand queue _ isQueue =>
            exact result attended (shows.handle stood isQueue goesOn now s)
        · next received after receives empty nonempty =>
            have message : received ≠ .nothing := by
              intro nothing
              cases isQueue : steward.queue with
              | nil => exact empty isQueue nothing
              | cons errand rest => exact nonempty errand rest isQueue nothing
            have took : Shows settings pipeline { m with calls := after }
                { daemon with steward := some { steward with calls := after } } bus := by
              refine { shows with steward := ?_ }
              refine (stewardAt_iff ?_).mpr ⟨waiting, rfl, queue⟩
              exact goesOn
            rw [← shows.bus, ← calls] at receives
            exact result attended (.next (.call waiting receives message)
              (took.refetched rfl goesOn now s))

theorem attend (shows : Shows settings pipeline m daemon bus) (now : Span) (s : Surroundings)
    (fuel : Nat) : Leads settings pipeline m (daemon.attend bus now s fuel).1 bus := by
  induction fuel generalizing m daemon with
  | zero => exact shows.here
  | succ fuel ih =>
      unfold Daemon.attend
      cases attended : daemon.attend? bus now s with
      | none => exact shows.here
      | some result =>
          obtain ⟨past, later, path, shows⟩ := shows.attend? now s attended
          exact .after path (ih shows)

theorem close (shows : Shows settings pipeline m daemon bus) :
    Leads settings pipeline m daemon.close.1 bus := by
  unfold Daemon.close
  split
  · next steward stood =>
      split
      · next idle =>
          have atWork := shows.steward
          rw [stood, StewardAt, (Bool.and_eq_true_iff.mp idle).1] at atWork
          exact .next (.close atWork.1) (Shows.here { shows with steward := rfl })
      · exact shows.here
  · exact shows.here

theorem dismiss (shows : Shows settings pipeline m daemon bus) :
    Leads settings pipeline m daemon.dismiss bus := by
  have silent : Shows settings pipeline m daemon.endPublisher.endReceiver bus :=
    shows.aside rfl rfl rfl
  exact silent.call .shutdown silent

end Shows

end Attendance

/-- What a daemon and the bus can come to from its start on.  Others publish what they like, and
errands come from anybody. -/
inductive Daemon.Serves (settings : Settings) (dispatcher : Dispatcher) (origin : Bus) :
    Daemon → Bus → Prop
  | spawn (now : Span) : Serves settings dispatcher origin (.spawn settings dispatcher origin now)
      origin
  | published {daemon : Daemon} {bus : Bus} (topic message : String) :
      Serves settings dispatcher origin daemon bus →
        Serves settings dispatcher origin daemon (bus.publish topic message)
  | publish {daemon : Daemon} {bus : Bus} (now : Span) :
      Serves settings dispatcher origin daemon bus →
        Serves settings dispatcher origin (daemon.publish bus now).1 (daemon.publish bus now).2
  | receive {daemon : Daemon} {bus : Bus} (now : Span) (fuel : Nat) :
      Serves settings dispatcher origin daemon bus →
        Serves settings dispatcher origin (daemon.receive bus now fuel) bus
  | attend {daemon : Daemon} {bus : Bus} (now : Span) (s : Surroundings) (fuel : Nat) :
      Serves settings dispatcher origin daemon bus →
        Serves settings dispatcher origin (daemon.attend bus now s fuel).1 bus
  | work {daemon : Daemon} {bus : Bus} (now : Span) (s : Surroundings) :
      Serves settings dispatcher origin daemon bus →
        Serves settings dispatcher origin
          { daemon with crew := (daemon.crew.settle now s).1 } bus
  | tell {daemon later : Daemon} {bus : Bus} (errand : Errand)
      (told : daemon.tell? errand = some later) :
      Serves settings dispatcher origin daemon bus →
        Serves settings dispatcher origin later bus
  | close {daemon : Daemon} {bus : Bus} : Serves settings dispatcher origin daemon bus →
      Serves settings dispatcher origin daemon.close.1 bus
  | dismiss {daemon : Daemon} {bus : Bus} : Serves settings dispatcher origin daemon bus →
      Serves settings dispatcher origin daemon.dismiss bus

namespace Attendance

/-- Every state that a daemon and the bus can come to is reached so. -/
theorem Leads.of_serves {settings : Settings} {dispatcher : Dispatcher} {origin bus : Bus}
    {daemon : Daemon} (serves : Daemon.Serves settings dispatcher origin daemon bus) :
    Leads settings (Daemon.pipeline settings dispatcher) (start origin) daemon bus := by
  induction serves with
  | spawn now =>
      let origin' : Daemon := .spawn settings dispatcher origin now
      have crew : Crew.Reachable (Daemon.pipeline settings dispatcher) origin'.crew := .empty
      cases stood : origin'.steward with
      | none =>
          have gone : Shows settings _ { start origin with stint := .ended } origin' origin :=
            ⟨rfl, rfl, by rw [stood]; rfl, crew, _, _, rfl⟩
          exact .next (.untimely rfl) gone.here
      | some steward =>
          obtain ⟨ticker, _, rfl⟩ := Option.map_eq_some_iff.mp stood
          have waits : Shows settings _ (start origin) origin' origin :=
            ⟨rfl, rfl, by rw [stood]; exact ⟨rfl, rfl, rfl⟩, crew, _, _, rfl⟩
          exact waits.here
  | published topic message _ ih => exact ih.published topic message
  | publish now _ ih =>
      obtain ⟨past, m, path, shows⟩ := ih
      exact .after path (shows.publish now)
  | receive now fuel _ ih =>
      obtain ⟨past, m, path, shows⟩ := ih
      exact .after path (shows.receive now fuel)
  | attend now s fuel _ ih =>
      obtain ⟨past, m, path, shows⟩ := ih
      exact .after path (shows.attend now s fuel)
  | work now s _ ih =>
      obtain ⟨past, m, path, shows⟩ := ih
      exact .after path (shows.work now s)
  | tell errand told _ ih =>
      obtain ⟨past, m, path, shows⟩ := ih
      exact .after path (shows.tell told)
  | close _ ih =>
      obtain ⟨past, m, path, shows⟩ := ih
      exact .after path shows.close
  | dismiss _ ih =>
      obtain ⟨past, m, path, shows⟩ := ih
      exact .after path shows.dismiss

end Attendance

end FleetMonitor
