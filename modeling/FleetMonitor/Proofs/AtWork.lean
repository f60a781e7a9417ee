import FleetMonitor.Proofs.Legible
import FleetMonitor.Proofs.Membership

/-!
# Daemons at work

The parts of a daemon that nobody ends stay at work as long as its settings suit the clock:
tickers need a period, and there must be a time for every tick and for every end of a presence.
Whether settings are accepted says nothing of that: any three spans that can be read are
accepted.
-/

set_option autoImplicit false

namespace FleetMonitor

/-! ## What is accepted -/

/-- Settings as a text: an address, the spans for peers, and the one between two lists of the
checks. -/
def Settings.written (heartbeatInterval lifetime listInterval : String) : String :=
  (Json.object
    [("address", .string "a"),
     ("peers", .object
       [("heartbeat_interval", .string heartbeatInterval), ("peer_ttl", .string lifetime)]),
     ("checks", .object [("list_fetch_interval", .string listInterval)])]).text

theorem Decoder.span_string {written : String} {span : Span} (read : Span.read written = .ok span)
    (source : Source) : Decoder.span source (.string written) = .ok span := by
  simp only [Decoder.span, Decoder.string, bind, Except.bind, read]
  rfl

theorem Decoder.ofText_text {α : Type} {decode : Decoder α} {room : Nat} {json : Json} {value : α}
    (legible : Document.Legible room json) (deep : room ≤ Document.depthLimit)
    (read : decode .text (Document.ofJson json) = .ok value) :
    Decoder.ofText decode json.text = .ok value := by
  simp only [Decoder.ofText, legible.read deep, read, bind, Except.bind]
  rfl

theorem Decoder.Record.readMembers_field {α : Type} {record : Record α} {source : Source}
    {key : String} {field : Field α} {value : Document} {seen : List String} {acc next : α}
    {rest : List (Option String × Document)} {result : Except DecodeError (List String × α)}
    (found : record.fields.find? (fun field => field.name == key) = some field)
    (fresh : seen.contains key = false) (put : field.put source value acc = .ok next)
    (others : record.readMembers source rest (key :: seen) next = result) :
    record.readMembers source ((some key, value) :: rest) seen acc = result := by
  simp only [readMembers, found, fresh, put, Bool.false_eq_true, if_false]
  exact others

theorem Decoder.Record.read_of_members {α : Type} {record : Record α} {source : Source}
    {members : List (Option String × Document)} {seen : List String} {value : α}
    (read : record.readMembers source members [] record.blank = .ok (seen, value))
    (whole : record.missing? seen = none) : record.read source (.object members) = .ok value := by
  simp only [Record.read, read, bind, Except.bind, whole]
  rfl

open Decoder.Record (readMembers_field read_of_members) in
/-- Whatever spans can be read are accepted, be they empty or longer than any clock goes. -/
theorem Settings.read_written {heartbeatInterval lifetime listInterval : String}
    {beat life list : Span} (beats : Span.read heartbeatInterval = .ok beat)
    (lives : Span.read lifetime = .ok life) (lists : Span.read listInterval = .ok list) :
    Settings.read (written heartbeatInterval lifetime listInterval) =
      .ok { address := "a"
            peers := { heartbeatInterval := beat, lifetime := life }
            checks := { listInterval := list } } := by
  have put {α : Type} {presence : Decoder.Presence} {name written : String} {span : Span}
      {set : α → Span → α} {acc : α} (read : Span.read written = .ok span) :
      (Decoder.field presence name Decoder.span set).put .text (.string written) acc =
        .ok (set acc span) :=
    congrArg (Except.map (set acc)) (Decoder.span_string read .text)
  have peers : PeerSettings.record.read .text (.object
      [(some "heartbeat_interval", .string heartbeatInterval), (some "peer_ttl", .string lifetime)])
        = .ok { heartbeatInterval := beat, lifetime := life } :=
    read_of_members
      (readMembers_field rfl rfl (put beats) (readMembers_field rfl rfl (put lives) rfl)) rfl
  have checks : CheckSettings.record.read .text (.object
      [(some "list_fetch_interval", .string listInterval)]) = .ok { listInterval := list } :=
    read_of_members (readMembers_field rfl rfl (put lists) rfl) rfl
  have legible : Document.Legible 2 (.object
      [("address", .string "a"),
       ("peers", .object
         [("heartbeat_interval", .string heartbeatInterval), ("peer_ttl", .string lifetime)]),
       ("checks", .object [("list_fetch_interval", .string listInterval)])]) := by
    refine .object (List.forall_mem_cons.mpr ⟨.string _, List.forall_mem_cons.mpr ⟨.object ?_,
      List.forall_mem_singleton.mpr (.object (List.forall_mem_singleton.mpr (.string _)))⟩⟩)
    exact List.forall_mem_cons.mpr ⟨.string _, List.forall_mem_singleton.mpr (.string _)⟩
  have all : record.read .text (.object
      [(some "address", .string "a"),
       (some "peers", .object
         [(some "heartbeat_interval", .string heartbeatInterval),
          (some "peer_ttl", .string lifetime)]),
       (some "checks", .object [(some "list_fetch_interval", .string listInterval)])]) =
      .ok { address := "a"
            peers := { heartbeatInterval := beat, lifetime := life }
            checks := { listInterval := list } } :=
    read_of_members
      (readMembers_field rfl rfl rfl <|
        readMembers_field rfl rfl (congrArg (Except.map _) peers) <|
          readMembers_field rfl rfl (congrArg (Except.map _) checks) rfl) rfl
  rw [Settings.read, written, Decoder.ofText_text legible (by decide) all]
  rfl

/-! ## Runs of a daemon -/

/-- What a daemon that is started from a text can come to while nobody ends it.  Others publish
what they like, errands come from anybody, workers do anything, and the rows of checks are read
or not; only the intervals of checks that are read can be read to their end. -/
inductive Daemon.Runs (text : String) (dispatcher : Dispatcher) (begun : Span) :
    Span → Daemon → Prop
  | spawn {settings : Settings} (accepted : Settings.read text = .ok settings) (bus : Bus) :
      Runs text dispatcher begun begun (.spawn settings dispatcher bus begun)
  | pass {now : Span} {daemon : Daemon} (later : Span) (onward : now.nanos ≤ later.nanos) :
      Runs text dispatcher begun now daemon → Runs text dispatcher begun later daemon
  | publish {now : Span} {daemon : Daemon} (bus : Bus) :
      Runs text dispatcher begun now daemon →
        Runs text dispatcher begun now (daemon.publish bus now).1
  | receive {now : Span} {daemon : Daemon} (bus : Bus) (fuel : Nat) :
      Runs text dispatcher begun now daemon →
        Runs text dispatcher begun now (daemon.receive bus now fuel)
  | attend {now : Span} {daemon later : Daemon} {answers : List StewardAnswer} (bus : Bus)
      (s : Surroundings)
      (readable : ∀ rows, s.rows = .ok rows →
        ∀ check ∈ Dealing.readable rows, check.period? ≠ none)
      (attended : daemon.attend? bus now s = some (later, answers)) :
      Runs text dispatcher begun now daemon → Runs text dispatcher begun now later
  /-- A call on the bus may be taken before a tick that is due. -/
  | call {now : Span} {daemon : Daemon} {steward : Steward} (calls : Reader) (s : Surroundings)
      (readable : ∀ rows, s.rows = .ok rows →
        ∀ check ∈ Dealing.readable rows, check.period? ≠ none)
      (stands : daemon.steward = some steward) : Runs text dispatcher begun now daemon →
        Runs text dispatcher begun now
          (({ daemon with steward := some { steward with calls } } : Daemon).refetched now s).1
  | errand {now : Span} {daemon : Daemon} {steward : Steward} {errand : Errand}
      {queue : List Errand} (s : Surroundings)
      (readable : ∀ rows, s.rows = .ok rows →
        ∀ check ∈ Dealing.readable rows, check.period? ≠ none)
      (stands : daemon.steward = some steward) (queued : steward.queue = errand :: queue) :
      Runs text dispatcher begun now daemon →
        Runs text dispatcher begun now
          (({ daemon with steward := some { steward with queue } } : Daemon).handle
            { steward with queue } now s errand).1
  | work {now : Span} {daemon : Daemon} (crew : Crew) :
      Runs text dispatcher begun now daemon →
        Runs text dispatcher begun now { daemon with crew }
  | tell {now : Span} {daemon later : Daemon} (errand : Errand) (goesOn : errand ≠ .shutdown)
      (told : daemon.tell? errand = some later) :
      Runs text dispatcher begun now daemon → Runs text dispatcher begun now later
  | close {now : Span} {daemon : Daemon} :
      Runs text dispatcher begun now daemon → Runs text dispatcher begun now daemon.close.1

structure Daemon.AtWork (daemon : Daemon) : Prop where
  publisher : daemon.publisher ≠ none
  receiver : daemon.receiver ≠ none
  steward : daemon.steward ≠ none

/-- The settings suit a daemon up to a time: its tickers have periods, and the clock goes as far
as a tick after that time and as the end of a presence. -/
structure Settings.Lasting (settings : Settings) (finish : Span) : Prop where
  beats : settings.peers.heartbeatInterval.isZero = false
  lists : settings.checks.listInterval.isZero = false
  nextBeat : finish.after? settings.peers.heartbeatInterval ≠ none
  nextList : finish.after? settings.checks.listInterval ≠ none
  presence : finish.after? settings.peers.lifetime ≠ none

theorem Settings.Lasting.mono {settings : Settings} {now finish : Span}
    (last : settings.Lasting finish) (onward : now.nanos ≤ finish.nanos) : settings.Lasting now where
  beats := last.beats
  lists := last.lists
  nextBeat beyond := last.nextBeat (Span.after?_none_mono onward beyond)
  nextList beyond := last.nextList (Span.after?_none_mono onward beyond)
  presence beyond := last.presence (Span.after?_none_mono onward beyond)

theorem Dealing.mem_of_mem_hand {checks : List Check} {daemons : List String} {daemon : String}
    {check : Check} (member : check ∈ hand checks daemons daemon) : check ∈ checks := by
  obtain ⟨item, dealt, rfl⟩ := List.mem_map.mp member
  exact (order_perm checks).mem_iff.mp (List.fst_mem_of_mem_zipIdx (List.mem_filter.mp dealt).1)

namespace Daemon

variable {settings : Settings} {daemon : Daemon} {now : Span}

/-- The parts of a daemon go on: each is there, with the period of the settings, and the
steward is not told to end. -/
structure GoesOn (settings : Settings) (daemon : Daemon) : Prop where
  told : daemon.settings = settings
  publisher : ∃ ticker, daemon.publisher = some ticker ∧
    ticker.period = settings.peers.heartbeatInterval
  receiver : ∃ reader, daemon.receiver = some reader
  steward : ∃ steward, daemon.steward = some steward ∧
    steward.ticker.period = settings.checks.listInterval ∧ steward.closing = false ∧
      .shutdown ∉ steward.queue

theorem GoesOn.atWork (goesOn : GoesOn settings daemon) : daemon.AtWork := by
  obtain ⟨_, ⟨_, publisher, _⟩, ⟨_, receiver⟩, ⟨_, steward, _⟩⟩ := goesOn
  exact ⟨by simp [publisher], by simp [receiver], by simp [steward]⟩

theorem spawn_goesOn (last : settings.Lasting now) (dispatcher : Dispatcher) (bus : Bus) :
    GoesOn settings (.spawn settings dispatcher bus now) where
  told := rfl
  publisher := ⟨.start now settings.peers.heartbeatInterval,
    by simp [spawn, Ticker.start?, last.beats], rfl⟩
  receiver := ⟨_, rfl⟩
  steward := ⟨⟨.start now settings.checks.listInterval, bus.subscribe refetchTopic, [], false⟩,
    by simp [spawn, Ticker.start?, last.lists], rfl, rfl, nofun⟩

theorem GoesOn.tell (goesOn : GoesOn settings daemon) {errand : Errand}
    (stays : errand ≠ .shutdown) :
    ∃ later, daemon.tell? errand = some later ∧ GoesOn settings later := by
  obtain ⟨steward, stands, period, heeds, queue⟩ := goesOn.steward
  refine ⟨{ daemon with steward := some { steward with queue := steward.queue ++ [errand] } },
    by rw [tell?, stands]; rfl, { goesOn with steward := ⟨_, rfl, period, heeds, ?_⟩ }⟩
  simp [queue, stays.symm]

theorem GoesOn.hear (goesOn : GoesOn settings daemon) (last : settings.Lasting now)
    (address : String) : ∃ absent peers, daemon.hear? now address =
      some (absent, { daemon with peers }) := by
  obtain ⟨finish, timely⟩ := Option.ne_none_iff_exists'.mp last.presence
  rw [hear?, goesOn.told, timely]
  exact ⟨_, _, rfl⟩

theorem GoesOn.call (goesOn : GoesOn settings daemon) (otherwise : Daemon) :
    GoesOn settings ((daemon.tell? (.refetch none)).getD otherwise) := by
  have stays : Errand.refetch none ≠ .shutdown := nofun
  obtain ⟨later, told, goesOn⟩ := goesOn.tell stays
  rw [told]
  exact goesOn

theorem GoesOn.publish (goesOn : GoesOn settings daemon) (last : settings.Lasting now) (bus : Bus) :
    GoesOn settings (daemon.publish bus now).1 := by
  obtain ⟨ticker, ticks, period⟩ := goesOn.publisher
  rw [Daemon.publish, ticks]
  simp only
  split
  · obtain ⟨absent, peers, heard⟩ := goesOn.hear last daemon.address
    unfold beat
    cases next : ticker.next? now with
    | none => exact absurd (period ▸ Watch.Shows.next?_none next) last.nextBeat
    | some ticker' =>
        rw [heard]
        have beaten : ∀ peers, GoesOn settings
            { daemon with peers, publisher := some ticker' } := fun peers =>
          { goesOn with publisher := ⟨ticker', rfl, (Watch.Shows.next?_period next).trans period⟩ }
        simp only
        split
        · exact beaten _
        · exact (beaten _).call _
  · exact goesOn

theorem GoesOn.takeHeartbeat (goesOn : GoesOn settings daemon) (last : settings.Lasting now)
    (address : String) : GoesOn settings (daemon.takeHeartbeat now address) := by
  obtain ⟨absent, peers, heard⟩ := goesOn.hear last address
  have noted : GoesOn settings { daemon with peers } := { goesOn with }
  rw [Daemon.takeHeartbeat, heard]
  simp only
  split
  · exact noted.call _
  · exact noted

theorem GoesOn.receive (goesOn : GoesOn settings daemon) (last : settings.Lasting now) (bus : Bus)
    (fuel : Nat) : GoesOn settings (daemon.receive bus now fuel) := by
  induction fuel generalizing daemon with
  | zero => exact goesOn
  | succ fuel ih =>
      obtain ⟨reader, listens⟩ := goesOn.receiver
      have anew : ∀ reader, GoesOn settings { daemon with receiver := some reader } :=
        fun reader => { goesOn with receiver := ⟨reader, rfl⟩ }
      unfold Daemon.receive
      rw [listens]
      simp only
      split
      · exact goesOn
      · exact ih (anew _)
      · exact ih ((anew _).takeHeartbeat last _)

theorem refetch_whole (daemon : Daemon) (now : Span) {s : Surroundings}
    (readable : ∀ rows, s.rows = .ok rows → ∀ check ∈ Dealing.readable rows, check.period? ≠ none) :
    (∃ cause, daemon.refetch now s = .error cause) ∨
      ∃ crew, daemon.refetch now s = .ok (true, { daemon with crew }) := by
  unfold refetch
  cases listed : s.rows with
  | error cause => exact Or.inl ⟨_, rfl⟩
  | ok rows =>
      refine Or.inr ⟨(daemon.crew.apply now (daemon.share now rows)).2, ?_⟩
      have report : (daemon.crew.apply now (daemon.share now rows)).1 ≠ none := by
        intro broke
        obtain ⟨check, member, endless⟩ := (Schedule.apply_report? _ _ _ _).mp broke
        exact readable rows listed check (Dealing.mem_of_mem_hand member) endless
      simp only [Option.isSome_iff_ne_none.mpr report]

theorem GoesOn.refetched (goesOn : GoesOn settings daemon) {s : Surroundings}
    (readable : ∀ rows, s.rows = .ok rows → ∀ check ∈ Dealing.readable rows, check.period? ≠ none) :
    GoesOn settings (daemon.refetched now s).1 := by
  unfold Daemon.refetched
  rcases daemon.refetch_whole now readable with ⟨cause, listed⟩ | ⟨crew, listed⟩
  · rw [listed]
    exact goesOn
  · rw [listed]
    exact { goesOn with }

theorem GoesOn.handle (goesOn : GoesOn settings daemon) {s : Surroundings} (steward : Steward)
    (readable : ∀ rows, s.rows = .ok rows → ∀ check ∈ Dealing.readable rows, check.period? ≠ none)
    {errand : Errand} (stays : errand ≠ .shutdown) :
    GoesOn settings (daemon.handle steward now s errand).1 := by
  cases errand with
  | assigned asker => exact goesOn
  | shutdown => exact absurd rfl stays
  | refetch asker =>
      unfold Daemon.handle
      rcases daemon.refetch_whole now readable with ⟨cause, listed⟩ | ⟨crew, listed⟩
      · rw [listed]
        exact goesOn
      · rw [listed]
        exact { goesOn with }

theorem GoesOn.attend? (goesOn : GoesOn settings daemon) (last : settings.Lasting now) {bus : Bus}
    {s : Surroundings}
    (readable : ∀ rows, s.rows = .ok rows → ∀ check ∈ Dealing.readable rows, check.period? ≠ none)
    {later : Daemon} {answers : List StewardAnswer}
    (attended : daemon.attend? bus now s = some (later, answers)) : GoesOn settings later := by
  obtain ⟨steward, stands, period, heeds, queue⟩ := goesOn.steward
  have lists : ∀ next : Steward, next.closing = false → .shutdown ∉ next.queue →
      next.ticker.period = steward.ticker.period →
        GoesOn settings (({ daemon with steward := some next } : Daemon).refetched now s).1 := by
    intro next heeds queue same
    have other : GoesOn settings { daemon with steward := some next } :=
      { goesOn with steward := ⟨next, rfl, same.trans period, heeds, queue⟩ }
    exact other.refetched readable
  have result : ∀ {told : Daemon × List StewardAnswer}, some told = some (later, answers) →
      GoesOn settings told.1 → GoesOn settings later := by
    rintro told same goesOn
    rwa [Option.some.inj same] at goesOn
  obtain ⟨_, same, attended⟩ := Option.bind_eq_some_iff.mp attended
  obtain rfl := Option.some.inj (stands.symm.trans same)
  rw [if_neg (by simp [heeds])] at attended
  split at attended
  · split at attended
    · next ticker next =>
        exact result attended (lists _ heeds queue (Watch.Shows.next?_period next))
    · next noNext => exact absurd (period ▸ Watch.Shows.next?_none noNext) last.nextList
  · split at attended
    · cases attended
    · next errand rest _ queued =>
        rw [queued, List.mem_cons, not_or] at queue
        have took : GoesOn settings
            { daemon with steward := some { steward with queue := rest } } :=
          { goesOn with steward := ⟨_, rfl, period, heeds, queue.2⟩ }
        exact result attended (took.handle _ readable (Ne.symm queue.1))
    · exact result attended (lists _ heeds queue rfl)

theorem GoesOn.close (goesOn : GoesOn settings daemon) : GoesOn settings daemon.close.1 := by
  obtain ⟨steward, stands, period, heeds, queue⟩ := goesOn.steward
  simp only [Daemon.close, stands, heeds, Bool.false_and, Bool.false_eq_true, if_false]
  exact goesOn

/-- A daemon goes on as long as its settings suit the clock. -/
theorem Runs.goesOn {text : String} (accepted : Settings.read text = .ok settings)
    {dispatcher : Dispatcher} {begun finish : Span} (last : settings.Lasting finish)
    (run : Runs text dispatcher begun now daemon) (early : now.nanos ≤ finish.nanos) :
    GoesOn settings daemon := by
  induction run with
  | spawn alsoAccepted bus =>
      obtain rfl := Except.ok.inj (accepted.symm.trans alsoAccepted)
      exact spawn_goesOn (last.mono early) dispatcher bus
  | pass later onward _ ih => exact ih (Nat.le_trans onward early)
  | publish bus _ ih => exact (ih early).publish (last.mono early) bus
  | receive bus fuel _ ih => exact (ih early).receive (last.mono early) bus fuel
  | attend bus s readable attended _ ih =>
      exact (ih early).attend? (last.mono early) readable attended
  | @call now daemon _ calls s readable stands _ ih =>
      obtain ⟨steward, alsoStands, steward'⟩ := (ih early).steward
      obtain rfl := Option.some.inj (alsoStands.symm.trans stands)
      have took : GoesOn settings { daemon with steward := some { steward with calls } } :=
        { ih early with steward := ⟨_, rfl, steward'⟩ }
      exact took.refetched readable
  | @errand now daemon _ _ rest s readable stands queued _ ih =>
      obtain ⟨steward, alsoStands, period, heeds, queue⟩ := (ih early).steward
      obtain rfl := Option.some.inj (alsoStands.symm.trans stands)
      rw [queued, List.mem_cons, not_or] at queue
      have took : GoesOn settings { daemon with steward := some { steward with queue := rest } } :=
        { ih early with steward := ⟨_, rfl, period, heeds, queue.2⟩ }
      exact took.handle _ readable (Ne.symm queue.1)
  | work crew _ ih => exact { ih early with }
  | tell errand stays told _ ih =>
      obtain ⟨later, alsoTold, goesOn⟩ := (ih early).tell stays
      obtain rfl := Option.some.inj (alsoTold.symm.trans told)
      exact goesOn
  | close _ ih => exact (ih early).close

/-! ## What ends a part -/

theorem next?_untimely {ticker : Ticker}
    (late : ticker.deadline.nanos + Ticker.tolerance < now.nanos)
    (untimely : now.after? ticker.period = none) : ticker.next? now = none := by
  rw [Ticker.next?, if_pos (by omega), untimely]
  rfl

theorem due_of_late {ticker : Ticker}
    (late : ticker.deadline.nanos + Ticker.tolerance < now.nanos) : ticker.due now = true :=
  decide_eq_true (by omega)

def otherHeartbeat : Bus :=
  Bus.empty.publish heartbeatTopic "b"

theorem receive_untimely (untimely : now.after? settings.peers.lifetime = none)
    (dispatcher : Dispatcher) (begun : Span) :
    ((spawn settings dispatcher .empty begun).receive otherHeartbeat now 1).receiver = none := by
  have took : otherHeartbeat.receive (Bus.empty.subscribe heartbeatTopic) =
      (.message "b", ⟨heartbeatTopic, 1⟩) := by decide
  have unheard : ∀ daemon : Daemon, daemon.settings = settings →
      (daemon.takeHeartbeat now "b").receiver = none := by
    intro daemon told
    rw [takeHeartbeat, hear?, told, untimely]
    rfl
  simp only [receive, spawn, took]
  exact unheard _ rfl

theorem publish_untimely {begun : Span} (late : begun.nanos + Ticker.tolerance < now.nanos)
    (beats : settings.peers.heartbeatInterval.isZero = false)
    (untimely : now.after? settings.peers.heartbeatInterval = none)
    (dispatcher : Dispatcher) (bus : Bus) :
    ((spawn settings dispatcher .empty begun).publish bus now).1.publisher = none := by
  have ticks : (spawn settings dispatcher .empty begun).publisher =
      some (.start begun settings.peers.heartbeatInterval) := by
    simp [spawn, Ticker.start?, beats]
  rw [publish, ticks]
  simp only
  rw [if_pos (due_of_late late), beat, next?_untimely late untimely]
  rfl

theorem attend?_untimely {begun : Span} (late : begun.nanos + Ticker.tolerance < now.nanos)
    (lists : settings.checks.listInterval.isZero = false)
    (untimely : now.after? settings.checks.listInterval = none)
    (dispatcher : Dispatcher) (bus : Bus) (s : Surroundings) :
    (spawn settings dispatcher .empty begun).attend? bus now s =
      some ((spawn settings dispatcher .empty begun).breakOff []) := by
  have stands : (spawn settings dispatcher .empty begun).steward =
      some ⟨.start begun settings.checks.listInterval, Bus.empty.subscribe refetchTopic, [],
        false⟩ := by
    simp [spawn, Ticker.start?, lists]
  simp only [attend?, stands, Option.bind_eq_bind, Option.bind_some, Bool.false_eq_true, if_false]
  rw [if_pos (due_of_late late), next?_untimely late untimely]

end Daemon

def rowless : Surroundings where
  now := ⟨0⟩
  store := .memory .empty
  foreignRows := []
  faults := [.allChecks]
  silence := ⟨[], [], []⟩
  probeDelay := ⟨0⟩
  mailReply _ := .ok ()
  pageReply _ _ := .error ""
  outbox := ⟨[], []⟩
  keys := .empty

theorem rowless_rows : rowless.rows = .error Surroundings.injected := rfl

/-- A daemon whose settings are read from a text has all its parts up to a time, whatever
happens, if and only if the settings suit it up to that time. -/
theorem Settings.accepted_at_work_iff {text : String} {settings : Settings}
    (accepted : Settings.read text = .ok settings) (dispatcher : Dispatcher) {begun finish : Span}
    (late : begun.nanos + Ticker.tolerance < finish.nanos) :
    (∀ now daemon, now.nanos ≤ finish.nanos → Daemon.Runs text dispatcher begun now daemon →
      daemon.AtWork) ↔ settings.Lasting finish := by
  constructor
  · intro stay
    have begins : Daemon.Runs text dispatcher begun begun (.spawn settings dispatcher .empty begun) :=
      .spawn accepted .empty
    have waits := begins.pass finish (by omega)
    have atWork := stay begun _ (by omega) begins
    have beats : settings.peers.heartbeatInterval.isZero = false := by
      refine Bool.eq_false_iff.mpr fun endless => atWork.publisher ?_
      simp [Daemon.spawn, Ticker.start?, endless]
    have lists : settings.checks.listInterval.isZero = false := by
      refine Bool.eq_false_iff.mpr fun endless => atWork.steward ?_
      simp [Daemon.spawn, Ticker.start?, endless]
    refine ⟨beats, lists, fun untimely => ?_, fun untimely => ?_, fun untimely => ?_⟩
    · exact (stay finish _ (Nat.le_refl _) (waits.publish .empty)).publisher
        (Daemon.publish_untimely late beats untimely dispatcher .empty)
    · have attended := Daemon.attend?_untimely late lists untimely dispatcher .empty rowless
      exact (stay finish _ (Nat.le_refl _)
        (waits.attend .empty rowless (by simp [rowless_rows]) attended)).steward rfl
    · exact (stay finish _ (Nat.le_refl _) (waits.receive Daemon.otherHeartbeat 1)).receiver
        (Daemon.receive_untimely untimely dispatcher begun)
  · intro last now daemon early run
    exact (run.goesOn accepted last early).atWork

/-- A daemon with the spans that are usual has all its parts for a day. -/
theorem usual_settings_at_work :
    (Settings.read (Settings.written "30s" "1m" "1m") =
        .ok { address := "a", peers := { lifetime := .ofSeconds 60 } } ∧
      0 + Ticker.tolerance < (Span.ofSeconds 86400).nanos) ∧
    ∀ now daemon, now.nanos ≤ (Span.ofSeconds 86400).nanos →
      Daemon.Runs (Settings.written "30s" "1m" "1m") ⟨[], false, ""⟩ ⟨0⟩ now daemon →
        daemon.AtWork := by
  have accepted : Settings.read (Settings.written "30s" "1m" "1m") =
      .ok { address := "a", peers := { lifetime := .ofSeconds 60 } } := by
    have minute : Span.read "1m" = .ok (.ofSeconds 60) := by decide +kernel
    exact Settings.read_written (by decide +kernel) minute minute
  have late : 0 + Ticker.tolerance < (Span.ofSeconds 86400).nanos := by decide
  have last : Settings.Lasting { address := "a", peers := { lifetime := .ofSeconds 60 } }
      (.ofSeconds 86400) := by
    constructor <;> decide
  exact ⟨⟨accepted, late⟩, (Settings.accepted_at_work_iff accepted _ late).mpr last⟩

/-- Accepted settings with which a part ends at once: the publisher without a period, the
steward without a period, and the receiver, at the first heartbeat, without a time for the end
of a presence. -/
theorem accepted_settings_end_parts :
    (∃ settings daemon, Settings.read (Settings.written "0s" "1m" "1m") = .ok settings ∧
      Daemon.Runs (Settings.written "0s" "1m" "1m") ⟨[], false, ""⟩ ⟨0⟩ ⟨0⟩ daemon ∧
        daemon.publisher = none) ∧
    (∃ settings daemon, Settings.read (Settings.written "30s" "1m" "0s") = .ok settings ∧
      Daemon.Runs (Settings.written "30s" "1m" "0s") ⟨[], false, ""⟩ ⟨0⟩ ⟨0⟩ daemon ∧
        daemon.steward = none) ∧
    (∃ settings daemon,
      Settings.read (Settings.written "30s" "18446744073709551615s" "1m") = .ok settings ∧
      Daemon.Runs (Settings.written "30s" "18446744073709551615s" "1m") ⟨[], false, ""⟩ ⟨0⟩ ⟨0⟩
          daemon ∧
        daemon.receiver = none) := by
  have empty : Span.read "0s" = .ok ⟨0⟩ := by decide +kernel
  have half : Span.read "30s" = .ok (.ofSeconds 30) := by decide +kernel
  have minute : Span.read "1m" = .ok (.ofSeconds 60) := by decide +kernel
  have longest : Span.read "18446744073709551615s" = .ok (.ofSeconds 18446744073709551615) := by
    decide +kernel
  refine ⟨?_, ?_, ?_⟩
  · have accepted := Settings.read_written empty minute minute
    exact ⟨_, _, accepted, .spawn accepted .empty, rfl⟩
  · have accepted := Settings.read_written half minute empty
    exact ⟨_, _, accepted, .spawn accepted .empty, rfl⟩
  · have accepted := Settings.read_written half longest minute
    exact ⟨_, _, accepted, (Daemon.Runs.spawn accepted .empty).receive Daemon.otherHeartbeat 1,
      Daemon.receive_untimely (by decide) _ _⟩

end FleetMonitor
