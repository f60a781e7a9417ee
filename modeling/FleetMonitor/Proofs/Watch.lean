import FleetMonitor.Daemon
import FleetMonitor.Proofs.InLine

/-!
# Publisher, receiver and steward, interleaved

The three parts of a daemon run by themselves: between any two things that one of them does,
the others may do anything, heartbeats may come from anybody, and time may pass.  Whatever a
daemon does from its start on is such a run.
-/

set_option autoImplicit false

namespace FleetMonitor

inductive Caller where
  | ready
  /-- The daemon was announced, and the peers that fell silent are still to be dropped. -/
  | announced
  | owing
  | ended
deriving DecidableEq, Repr

inductive Parting where
  | dismissed
  | untimely
  | endless (check : Check)

inductive Stewardship where
  | waiting
  | listing
  | arranging (share : List Check)
  | closing
  | ended (parting : Parting)

namespace Stewardship

def goesOn : Stewardship → Bool
  | closing => false
  | ended _ => false
  | _ => true

def hears : Stewardship → Bool
  | ended _ => false
  | _ => true

end Stewardship

/-- A daemon in the middle of what its parts do. -/
structure Watch where
  now : Span
  peers : Peers
  publisher : Caller
  receiver : Caller
  steward : Stewardship
  queue : List Errand
  dealt : Option (List String)

namespace Watch

def start (settings : Settings) (now : Span) : Watch where
  now := now
  peers := .empty
  publisher := if settings.peers.heartbeatInterval.isZero then .ended else .ready
  receiver := .ready
  steward := if settings.checks.listInterval.isZero then .ended .untimely else .waiting
  queue := []
  dealt := none

def share (settings : Settings) (m : Watch) (rows : List StoredCheck) : List Check :=
  Dealing.hand (Dealing.readable rows) (m.peers.daemons m.now settings.address) settings.address

def dealing (settings : Settings) (m : Watch) (rows : List StoredCheck) : Watch :=
  { m with
    steward := .arranging (m.share settings rows)
    dealt := some (m.peers.daemons m.now settings.address) }

/-- One thing that happens to a daemon.  What is read of the registry or done to it in one
step is read or done at one instant.  Rows are read whenever they are asked for. -/
inductive Step (settings : Settings) : Watch → Watch → Prop
  | pass {m : Watch} (later : Span) (onward : m.now.nanos ≤ later.nanos) :
      Step settings m { m with now := later }
  | announce {m : Watch} (ready : m.publisher = .ready)
      (timely : m.now.after? settings.peers.lifetime ≠ none) :
      Step settings m
        { m with
          peers := (m.peers.hear m.now settings.address settings.peers.lifetime).2
          publisher := .announced }
  /-- The publisher drops the peers that fell silent and counts them. -/
  | sweep {m : Watch} (announced : m.publisher = .announced) :
      Step settings m
        { m with
          peers := (m.peers.purge m.now).2
          publisher := if (m.peers.purge m.now).1 = 0 then .ready else .owing }
  | hear {m : Watch} (address : String) (ready : m.receiver = .ready)
      (timely : m.now.after? settings.peers.lifetime ≠ none) :
      Step settings m
        { m with
          peers := (m.peers.hear m.now address settings.peers.lifetime).2
          receiver :=
            if (m.peers.hear m.now address settings.peers.lifetime).1 && address != settings.address
            then .owing else .ready }
  | publisherCalls {m : Watch} (owing : m.publisher = .owing) (heard : m.steward.hears = true) :
      Step settings m { m with publisher := .ready, queue := m.queue ++ [.refetch none] }
  | receiverCalls {m : Watch} (owing : m.receiver = .owing) (heard : m.steward.hears = true) :
      Step settings m { m with receiver := .ready, queue := m.queue ++ [.refetch none] }
  | publisherUnheard {m : Watch} (owing : m.publisher = .owing)
      (unheard : m.steward.hears = false) : Step settings m { m with publisher := .ended }
  | receiverUnheard {m : Watch} (owing : m.receiver = .owing)
      (unheard : m.steward.hears = false) : Step settings m { m with receiver := .ended }
  /-- There is no time for the next tick, or none at which the daemon's presence ends. -/
  | publisherUntimely {m : Watch} (ready : m.publisher = .ready)
      (untimely : m.now.after? settings.peers.heartbeatInterval = none ∨
        m.now.after? settings.peers.lifetime = none) :
      Step settings m { m with publisher := .ended }
  | receiverUntimely {m : Watch} (ready : m.receiver = .ready)
      (untimely : m.now.after? settings.peers.lifetime = none) :
      Step settings m { m with receiver := .ended }
  | errand {m : Watch} (errand : Errand) (goesOn : errand ≠ .shutdown)
      (heard : m.steward.hears = true) :
      Step settings m { m with queue := m.queue ++ [errand] }
  | dismiss {m : Watch} :
      Step settings m
        { m with publisher := .ended, receiver := .ended, queue := m.queue ++ [.shutdown] }
  | list {m : Watch} (waiting : m.steward = .waiting) :
      Step settings m { m with steward := .listing }
  | refetch {m : Watch} (asker : Option Nat) (rest : List Errand) (waiting : m.steward = .waiting)
      (queue : m.queue = .refetch asker :: rest) :
      Step settings m { m with steward := .listing, queue := rest }
  | assigned {m : Watch} (asker : Nat) (rest : List Errand) (waiting : m.steward = .waiting)
      (queue : m.queue = .assigned asker :: rest) : Step settings m { m with queue := rest }
  | shutdown {m : Watch} (rest : List Errand) (waiting : m.steward = .waiting)
      (queue : m.queue = .shutdown :: rest) :
      Step settings m { m with steward := .closing, queue := rest }
  | stewardUntimely {m : Watch} (waiting : m.steward = .waiting)
      (untimely : m.now.after? settings.checks.listInterval = none) :
      Step settings m { m with steward := .ended .untimely }
  | deal {m : Watch} (rows : List StoredCheck) (listing : m.steward = .listing) :
      Step settings m (m.dealing settings rows)
  | arranged {m : Watch} (share : List Check) (arranging : m.steward = .arranging share)
      (readable : ∀ check ∈ share, check.period? ≠ none) :
      Step settings m { m with steward := .waiting }
  | breakOff {m : Watch} (share : List Check) (check : Check)
      (arranging : m.steward = .arranging share) (member : check ∈ share)
      (endless : check.period? = none) :
      Step settings m { m with steward := .ended (.endless check) }
  | close {m : Watch} (closing : m.steward = .closing) :
      Step settings m { m with steward := .ended .dismissed }

inductive Path (settings : Settings) (origin : Watch) : Watch → Prop
  | start : Path settings origin origin
  | step {m later : Watch} (former : Path settings origin m) (step : Step settings m later) :
      Path settings origin later

variable {settings : Settings}

theorem Path.trans {origin m later : Watch} (early : Path settings origin m)
    (late : Path settings m later) : Path settings origin later := by
  induction late with
  | start => exact early
  | step _ step ih => exact ih.step step

theorem Path.one {m later : Watch} (step : Step settings m later) : Path settings m later :=
  .step .start step

/-! ## What a daemon does is such a run -/

def PublisherAt (settings : Settings) (m : Watch) : Option Ticker → Prop
  | none => m.publisher = .ended
  | some ticker => m.publisher = .ready ∧ ticker.period = settings.peers.heartbeatInterval

def ReceiverAt (m : Watch) : Option Reader → Prop
  | none => m.receiver = .ended
  | some _ => m.receiver = .ready

def StewardAt (settings : Settings) (m : Watch) : Option Steward → Prop
  | none => ∃ parting, m.steward = .ended parting
  | some steward =>
      m.steward = (if steward.closing then .closing else .waiting) ∧ m.queue = steward.queue ∧
        steward.ticker.period = settings.checks.listInterval

structure Shows (settings : Settings) (m : Watch) (daemon : Daemon) (now : Span) : Prop where
  now : m.now = now
  told : daemon.settings = settings
  peers : m.peers = daemon.peers
  publisher : PublisherAt settings m daemon.publisher
  receiver : ReceiverAt m daemon.receiver
  steward : StewardAt settings m daemon.steward

def Leads (settings : Settings) (m : Watch) (daemon : Daemon) (now : Span) : Prop :=
  ∃ later, Path settings m later ∧ Shows settings later daemon now

theorem Leads.after {m later : Watch} {daemon : Daemon} {now : Span}
    (path : Path settings m later) (leads : Leads settings later daemon now) :
    Leads settings m daemon now := by
  obtain ⟨last, late, shows⟩ := leads
  exact ⟨last, path.trans late, shows⟩

theorem start_shows (dispatcher : Dispatcher) (bus : Bus) (now : Span) :
    Shows settings (start settings now) (.spawn settings dispatcher bus now) now where
  now := rfl
  told := rfl
  peers := rfl
  publisher := by
    simp only [Daemon.spawn, Ticker.start?, start]
    cases settings.peers.heartbeatInterval.isZero <;> simp [PublisherAt, Ticker.start]
  receiver := rfl
  steward := by
    simp only [Daemon.spawn, Ticker.start?, start]
    cases settings.checks.listInterval.isZero <;> simp [StewardAt, Ticker.start]

namespace Shows

variable {m : Watch} {daemon : Daemon} {now : Span}

theorem steward_hears (shows : Shows settings m daemon now) :
    m.steward.hears = daemon.steward.isSome := by
  have steward := shows.steward
  cases stood : daemon.steward with
  | none =>
      rw [stood] at steward
      obtain ⟨parting, ended⟩ := steward
      rw [ended]
      rfl
  | some steward' =>
      rw [stood] at steward
      rw [steward.1]
      cases steward'.closing <;> rfl

theorem told_errand (shows : Shows settings m daemon now) {later : Daemon} {errand : Errand}
    (told : daemon.tell? errand = some later) :
    m.steward.hears = true ∧ Shows settings { m with queue := m.queue ++ [errand] } later now := by
  obtain ⟨steward, stood, rfl⟩ := Option.map_eq_some_iff.mp told
  have hears := shows.steward_hears
  have atWork := shows.steward
  rw [stood] at hears atWork
  exact ⟨hears, { shows with
    steward := ⟨atWork.1, congrArg (· ++ [errand]) atWork.2.1, atWork.2.2⟩ }⟩

theorem unheard (shows : Shows settings m daemon now) {errand : Errand}
    (unheard : daemon.tell? errand = none) : m.steward.hears = false := by
  rw [shows.steward_hears, Option.map_eq_none_iff.mp unheard]
  rfl

theorem publisher_calls (shows : Shows settings m daemon now) (ready : m.publisher = .ready) :
    Leads settings { m with publisher := .owing }
      ((daemon.tell? (.refetch none)).getD daemon.endPublisher) now := by
  cases told : daemon.tell? (.refetch none) with
  | none =>
      refine ⟨_, .one (.publisherUnheard rfl (shows.unheard told)), ?_⟩
      exact { shows with publisher := rfl }
  | some later =>
      obtain ⟨heard, later⟩ := shows.told_errand told
      have called : Step settings { m with publisher := .owing }
        { m with publisher := .ready, queue := m.queue ++ [.refetch none] } :=
          .publisherCalls rfl heard
      rw [← ready] at called
      exact ⟨_, .one called, later⟩

theorem receiver_calls (shows : Shows settings m daemon now) (ready : m.receiver = .ready) :
    Leads settings { m with receiver := .owing }
      ((daemon.tell? (.refetch none)).getD daemon.endReceiver) now := by
  cases told : daemon.tell? (.refetch none) with
  | none =>
      refine ⟨_, .one (.receiverUnheard rfl (shows.unheard told)), ?_⟩
      exact { shows with receiver := rfl }
  | some later =>
      obtain ⟨heard, later⟩ := shows.told_errand told
      have called : Step settings { m with receiver := .owing }
        { m with receiver := .ready, queue := m.queue ++ [.refetch none] } :=
          .receiverCalls rfl heard
      rw [← ready] at called
      exact ⟨_, .one called, later⟩

theorem hear?_cases (shows : Shows settings m daemon now) (address : String) :
    (m.now.after? settings.peers.lifetime = none ∧ daemon.hear? now address = none) ∨
      m.now.after? settings.peers.lifetime ≠ none ∧ daemon.hear? now address =
        some ((m.peers.hear m.now address settings.peers.lifetime).1,
          { daemon with peers := (m.peers.hear m.now address settings.peers.lifetime).2 }) := by
  rw [Daemon.hear?, shows.told, ← shows.peers, ← shows.now]
  cases m.now.after? settings.peers.lifetime with
  | none => exact Or.inl ⟨rfl, rfl⟩
  | some finish => exact Or.inr ⟨by simp, rfl⟩

theorem next?_none {ticker : Ticker} {now : Span} (noNext : ticker.next? now = none) :
    now.after? ticker.period = none := by
  unfold Ticker.next? at noNext
  split at noNext
  · exact Option.map_eq_none_iff.mp noNext
  · cases noNext

theorem next?_period {ticker next : Ticker} {now : Span} (isNext : ticker.next? now = some next) :
    next.period = ticker.period := by
  unfold Ticker.next? at isNext
  split at isNext
  · obtain ⟨_, _, rfl⟩ := Option.map_eq_some_iff.mp isNext
    rfl
  · rw [← Option.some.inj isNext]

theorem beat (shows : Shows settings m daemon now) (bus : Bus) (ticker : Ticker)
    (ticks : daemon.publisher = some ticker) :
    Leads settings m (daemon.beat bus now ticker).1 now := by
  have publisher := shows.publisher
  rw [ticks] at publisher
  obtain ⟨ready, period⟩ := publisher
  have falls : (m.now.after? settings.peers.heartbeatInterval = none ∨
      m.now.after? settings.peers.lifetime = none) → Leads settings m daemon.endPublisher now :=
    fun untimely => ⟨_, .one (.publisherUntimely ready untimely), { shows with publisher := rfl }⟩
  unfold Daemon.beat
  cases next : ticker.next? now with
  | none =>
      refine falls (Or.inl ?_)
      rw [shows.now, ← period]
      exact next?_none next
  | some ticker' =>
      rcases shows.hear?_cases daemon.address with ⟨untimely, unheard⟩ | ⟨timely, heard⟩
      · rw [unheard]
        exact falls (Or.inr untimely)
      · rw [heard]
        have own : daemon.address = settings.address := congrArg Settings.address shows.told
        have announced : Step settings m _ := .announce ready timely
        rw [← own] at announced
        refine .after ((Path.one announced).step (.sweep rfl)) ?_
        have swept : Shows settings
            { m with
              peers :=
                ((m.peers.hear m.now daemon.address settings.peers.lifetime).2.purge m.now).2 }
            { daemon with
              peers := ((m.peers.hear m.now daemon.address settings.peers.lifetime).2.purge now).2
              publisher := some ticker' } now :=
          { shows with
            peers := by rw [shows.now]
            publisher := ⟨ready, (next?_period next).trans period⟩ }
        simp only [shows.now] at swept ⊢
        split
        · rw [← ready]
          exact ⟨_, .start, swept⟩
        · exact swept.publisher_calls ready

theorem publish (shows : Shows settings m daemon now) (bus : Bus) :
    Leads settings m (daemon.publish bus now).1 now := by
  unfold Daemon.publish
  cases ticks : daemon.publisher with
  | none => exact ⟨m, .start, shows⟩
  | some ticker =>
      simp only
      split
      · exact shows.beat bus ticker ticks
      · exact ⟨m, .start, shows⟩

theorem takeHeartbeat (shows : Shows settings m daemon now) (ready : m.receiver = .ready)
    (address : String) : Leads settings m (daemon.takeHeartbeat now address) now := by
  have own : daemon.address = settings.address := congrArg Settings.address shows.told
  unfold Daemon.takeHeartbeat
  rcases shows.hear?_cases address with ⟨untimely, unheard⟩ | ⟨timely, heard⟩
  · rw [unheard]
    exact ⟨_, .one (.receiverUntimely ready untimely), { shows with receiver := rfl }⟩
  · rw [heard]
    change Leads settings m (if (_ && address != daemon.address) = true then _ else _) now
    have hears := Step.hear address ready timely
    have noted : Shows settings
        { m with peers := (m.peers.hear m.now address settings.peers.lifetime).2 }
        { daemon with peers := (m.peers.hear m.now address settings.peers.lifetime).2 } now :=
      { shows with peers := rfl }
    rw [← own] at hears
    by_cases calls : ((m.peers.hear m.now address settings.peers.lifetime).1 &&
        address != daemon.address) = true
    · rw [if_pos calls] at hears
      rw [if_pos calls]
      exact .after (.one hears) (noted.receiver_calls ready)
    · rw [if_neg calls, ← ready] at hears
      rw [if_neg calls]
      exact ⟨_, .one hears, noted⟩

theorem receive (shows : Shows settings m daemon now) (bus : Bus) (fuel : Nat) :
    Leads settings m (daemon.receive bus now fuel) now := by
  induction fuel generalizing m daemon with
  | zero => exact ⟨m, .start, shows⟩
  | succ fuel ih =>
      unfold Daemon.receive
      cases listens : daemon.receiver with
      | none => exact ⟨m, .start, shows⟩
      | some reader =>
          have receiver := shows.receiver
          rw [listens] at receiver
          have anew : ∀ reader, Shows settings m { daemon with receiver := some reader } now :=
            fun reader => { shows with receiver := receiver }
          simp only
          split
          · exact ⟨m, .start, shows⟩
          · exact ih (anew _)
          · obtain ⟨later, path, shows⟩ := (anew _).takeHeartbeat receiver _
            exact .after path (ih shows)

theorem refetch (shows : Shows settings m daemon now) {steward : Steward}
    (stood : daemon.steward = some steward) (goesOn : steward.closing = false) (s : Surroundings)
    (rows : List StoredCheck) (listed : s.rows = .ok rows) :
    ∃ crew, (daemon.refetch now s = .ok (true, { daemon with crew }) ∧
        Leads settings { m with steward := .listing } { daemon with crew } now) ∨
      daemon.refetch now s = .ok (false, { daemon with crew }) ∧
        ∀ left, Leads settings { m with steward := .listing }
          { daemon with crew := left, steward := none } now := by
  have share : daemon.share now rows = m.share settings rows := by
    rw [share, Daemon.share, shows.now, shows.peers, Daemon.address, shows.told]
  have atWork := shows.steward
  rw [stood, StewardAt, goesOn] at atWork
  obtain ⟨waiting, atWork⟩ := atWork
  have waiting : m.steward = .waiting := waiting
  let listing : Watch := { m with steward := .listing }
  have dealt : Step settings listing (listing.dealing settings rows) := .deal rows rfl
  refine ⟨(daemon.crew.apply now (daemon.share now rows)).2, ?_⟩
  simp only [Daemon.refetch, listed]
  cases told : (daemon.crew.apply now (daemon.share now rows)).1 with
  | none =>
      refine Or.inr ⟨rfl, ?_⟩
      obtain ⟨check, member, endless⟩ := (Schedule.apply_report? _ _ _ _).mp told
      rw [share] at member
      have broke : Step settings (listing.dealing settings rows) _ :=
        .breakOff (m.share settings rows) check rfl member endless
      exact fun left => ⟨_, (Path.one dealt).step broke, { shows with steward := ⟨_, rfl⟩ }⟩
  | some report =>
      refine Or.inl ⟨rfl, ?_⟩
      have readable : ∀ check ∈ m.share settings rows, check.period? ≠ none := by
        intro check member endless
        rw [← share] at member
        have noReport := (Schedule.apply_report? daemon.crew.schedule daemon.crew.keys now _).mpr
          ⟨check, member, endless⟩
        rw [Crew.apply, noReport] at told
        cases told
      have arranged : Step settings (listing.dealing settings rows) _ :=
        .arranged (m.share settings rows) rfl readable
      refine ⟨_, (Path.one dealt).step arranged, { shows with steward := ?_ }⟩
      rw [stood, StewardAt, goesOn]
      exact ⟨rfl, atWork⟩

theorem refetched (shows : Shows settings m daemon now) {steward : Steward}
    (stood : daemon.steward = some steward) (goesOn : steward.closing = false) (s : Surroundings)
    (rows : List StoredCheck) (listed : s.rows = .ok rows) :
    Leads settings { m with steward := .listing } (daemon.refetched now s).1 now := by
  obtain ⟨crew, ⟨told, leads⟩ | ⟨told, leads⟩⟩ := shows.refetch stood goesOn s rows listed
  · rw [Daemon.refetched, told]
    exact leads
  · rw [Daemon.refetched, told]
    exact leads _

theorem handle (shows : Shows settings m daemon now) {steward : Steward} {errand : Errand}
    {queue : List Errand} (waits : daemon.steward = some steward)
    (queued : steward.queue = errand :: queue)
    (goesOn : steward.closing = false) (s : Surroundings) (rows : List StoredCheck)
    (listed : s.rows = .ok rows) :
    Leads settings m
      (({ daemon with steward := some { steward with queue } } : Daemon).handle
        { steward with queue } now s errand).1 now := by
  have atWork := shows.steward
  rw [waits, StewardAt, goesOn] at atWork
  obtain ⟨waiting, sameQueue, period⟩ := atWork
  have waiting : m.steward = .waiting := waiting
  rw [queued] at sameQueue
  have took : Shows settings { m with queue }
      { daemon with steward := some { steward with queue } } now := by
    refine { shows with steward := ?_ }
    rw [StewardAt, goesOn]
    exact ⟨waiting, rfl, period⟩
  cases errand with
  | assigned asker => exact ⟨_, .one (.assigned asker queue waiting sameQueue), took⟩
  | shutdown =>
      exact ⟨_, .one (.shutdown queue waiting sameQueue),
        { took with steward := ⟨rfl, rfl, period⟩ }⟩
  | refetch asker =>
      refine .after (.one (.refetch asker queue waiting sameQueue)) ?_
      obtain ⟨crew, ⟨told, leads⟩ | ⟨told, leads⟩⟩ := took.refetch rfl goesOn s rows listed
      · rw [Daemon.handle, told]
        exact leads
      · rw [Daemon.handle, told]
        exact leads _

theorem attend? (shows : Shows settings m daemon now) (bus : Bus) (s : Surroundings)
    (rows : List StoredCheck) (listed : s.rows = .ok rows) {later : Daemon}
    {answers : List StewardAnswer} (attended : daemon.attend? bus now s = some (later, answers)) :
    Leads settings m later now := by
  obtain ⟨steward, stood, attended⟩ := Option.bind_eq_some_iff.mp attended
  cases goesOn : steward.closing with
  | true => simp [goesOn] at attended
  | false =>
      have atWork := shows.steward
      rw [stood, StewardAt, goesOn] at atWork
      obtain ⟨waiting, queued, period⟩ := atWork
      have lists : ∀ other : Steward, other.closing = false → other.queue = steward.queue →
          other.ticker.period = steward.ticker.period →
            Leads settings m (({ daemon with steward := some other } : Daemon).refetched now s).1
              now := by
        intro other otherGoesOn sameQueue samePeriod
        have shown : Shows settings m { daemon with steward := some other } now := by
          refine { shows with steward := ?_ }
          rw [StewardAt, otherGoesOn, sameQueue, samePeriod]
          exact ⟨waiting, queued, period⟩
        exact .after (.one (.list waiting)) (shown.refetched rfl otherGoesOn s rows listed)
      rw [if_neg (by simp [goesOn])] at attended
      have result : ∀ {told : Daemon × List StewardAnswer}, some told = some (later, answers) →
          Leads settings m told.1 now → Leads settings m later now := by
        rintro told same leads
        rwa [Option.some.inj same] at leads
      split at attended
      · split at attended
        · next ticker next =>
            exact result attended (lists _ goesOn rfl (next?_period next))
        · next noNext =>
            have untimely := next?_none noNext
            rw [period, ← shows.now] at untimely
            exact result attended ⟨_, .one (.stewardUntimely waiting untimely),
              { shows with steward := ⟨_, rfl⟩ }⟩
      · split at attended
        · cases attended
        · next errand queue _ isQueue =>
            exact result attended (shows.handle stood isQueue goesOn s rows listed)
        · exact result attended (lists _ goesOn rfl rfl)

theorem attend (shows : Shows settings m daemon now) (bus : Bus) (s : Surroundings)
    (rows : List StoredCheck) (listed : s.rows = .ok rows) (fuel : Nat) :
    Leads settings m (daemon.attend bus now s fuel).1 now := by
  induction fuel generalizing m daemon with
  | zero => exact ⟨m, .start, shows⟩
  | succ fuel ih =>
      unfold Daemon.attend
      cases attended : daemon.attend? bus now s with
      | none => exact ⟨m, .start, shows⟩
      | some result =>
          obtain ⟨later, path, shows⟩ := shows.attend? bus s rows listed attended
          exact .after path (ih shows)

theorem close (shows : Shows settings m daemon now) : Leads settings m daemon.close.1 now := by
  unfold Daemon.close
  cases stood : daemon.steward with
  | none => exact ⟨m, .start, shows⟩
  | some steward =>
      simp only
      split
      · next idle =>
          have atWork := shows.steward
          rw [stood, StewardAt, (Bool.and_eq_true_iff.mp idle).1] at atWork
          exact ⟨_, .one (.close atWork.1), { shows with steward := ⟨_, rfl⟩ }⟩
      · exact ⟨m, .start, shows⟩

theorem dismiss (shows : Shows settings m daemon now) : Leads settings m daemon.dismiss now := by
  refine ⟨_, .one .dismiss, ?_⟩
  have silent : Shows settings { m with publisher := .ended, receiver := .ended }
      daemon.endPublisher.endReceiver now :=
    { shows with publisher := rfl, receiver := rfl }
  change Shows settings _
    ((daemon.endPublisher.endReceiver.tell? .shutdown).getD daemon.endPublisher.endReceiver) now
  cases told : daemon.endPublisher.endReceiver.tell? .shutdown with
  | some later => exact (silent.told_errand told).2
  | none =>
      have left := silent.steward
      have unheard := Option.map_eq_none_iff.mp told
      rw [unheard] at left
      refine { silent with steward := ?_ }
      rw [Option.getD_none, unheard]
      exact left

end Shows

end Watch

/-- What a daemon can come to from its start on, if the rows of checks can be read whenever
it lists them. -/
inductive Daemon.Lives (settings : Settings) (dispatcher : Dispatcher) (begun : Span) :
    Span → Daemon → Prop
  | spawn (bus : Bus) : Lives settings dispatcher begun begun (.spawn settings dispatcher bus begun)
  | pass {now : Span} {daemon : Daemon} (later : Span) (onward : now.nanos ≤ later.nanos) :
      Lives settings dispatcher begun now daemon → Lives settings dispatcher begun later daemon
  | publish {now : Span} {daemon : Daemon} (bus : Bus) :
      Lives settings dispatcher begun now daemon →
        Lives settings dispatcher begun now (daemon.publish bus now).1
  | receive {now : Span} {daemon : Daemon} (bus : Bus) (fuel : Nat) :
      Lives settings dispatcher begun now daemon →
        Lives settings dispatcher begun now (daemon.receive bus now fuel)
  | attend {now : Span} {daemon : Daemon} (bus : Bus) (s : Surroundings) (rows : List StoredCheck)
      (listed : s.rows = .ok rows) (fuel : Nat) : Lives settings dispatcher begun now daemon →
        Lives settings dispatcher begun now (daemon.attend bus now s fuel).1
  | work {now : Span} {daemon : Daemon} (crew : Crew) :
      Lives settings dispatcher begun now daemon →
        Lives settings dispatcher begun now { daemon with crew }
  | tell {now : Span} {daemon later : Daemon} (errand : Errand) (goesOn : errand ≠ .shutdown)
      (told : daemon.tell? errand = some later) : Lives settings dispatcher begun now daemon →
        Lives settings dispatcher begun now later
  | close {now : Span} {daemon : Daemon} : Lives settings dispatcher begun now daemon →
      Lives settings dispatcher begun now daemon.close.1
  | dismiss {now : Span} {daemon : Daemon} : Lives settings dispatcher begun now daemon →
      Lives settings dispatcher begun now daemon.dismiss

namespace Watch

/-- Every state that a daemon can come to is reached so. -/
theorem Leads.of_lives {settings : Settings} {dispatcher : Dispatcher} {begun now : Span}
    {daemon : Daemon} (lives : Daemon.Lives settings dispatcher begun now daemon) :
    Leads settings (start settings begun) daemon now := by
  induction lives with
  | spawn bus => exact ⟨_, .start, start_shows dispatcher bus begun⟩
  | pass later onward _ ih =>
      obtain ⟨m, path, shows⟩ := ih
      exact ⟨_, path.step (.pass later (shows.now ▸ onward)), { shows with now := rfl }⟩
  | publish bus _ ih =>
      obtain ⟨m, path, shows⟩ := ih
      exact .after path (shows.publish bus)
  | receive bus fuel _ ih =>
      obtain ⟨m, path, shows⟩ := ih
      exact .after path (shows.receive bus fuel)
  | attend bus s rows listed fuel _ ih =>
      obtain ⟨m, path, shows⟩ := ih
      exact .after path (shows.attend bus s rows listed fuel)
  | work crew _ ih =>
      obtain ⟨m, path, shows⟩ := ih
      exact ⟨m, path, { shows with }⟩
  | tell errand goesOn told _ ih =>
      obtain ⟨m, path, shows⟩ := ih
      obtain ⟨heard, shows⟩ := shows.told_errand told
      exact ⟨_, path.step (.errand errand goesOn heard), shows⟩
  | close _ ih =>
      obtain ⟨m, path, shows⟩ := ih
      exact .after path shows.close
  | dismiss _ ih =>
      obtain ⟨m, path, shows⟩ := ih
      exact .after path shows.dismiss

end Watch

end FleetMonitor
