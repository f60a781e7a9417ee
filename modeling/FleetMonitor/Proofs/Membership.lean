import FleetMonitor.Proofs.Dealing
import FleetMonitor.Proofs.Keys
import FleetMonitor.Proofs.Watch

/-!
# Changes of membership are not lost

A daemon that comes or goes changes who shares the checks.  Whoever notices it calls the
steward, and the steward lists the daemons only after it was called: so a change that the
latest deal does not know of is still being told, or waits in the registry to be counted.
-/

set_option autoImplicit false

namespace FleetMonitor

namespace Peers

/-- The entry of a peer has ended, and whenever entries are dropped it is counted. -/
structure Overdue (peers : Peers) (now : Span) (address : String) : Prop where
  ended : ∃ finish, peers.ends.lookup address = some finish ∧ finish.nanos ≤ now.nanos
  counted : ∀ later : Span, now.nanos ≤ later.nanos → 0 < (peers.purge later).1

/-- A peer that is present is one of some daemons, and one of them that is not present has an
entry still. -/
structure Agrees (peers : Peers) (now : Span) (daemons : List String) (address : String) :
    Prop where
  listed : peers.present now address = true → address ∈ daemons
  known : address ∈ daemons → peers.ends.lookup address ≠ none

variable {peers : Peers} {now : Span} {daemons : List String} {address : String}

theorem present_iff : peers.present now address = true ↔
    ∃ finish, peers.ends.lookup address = some finish ∧ now.nanos < finish.nanos := by
  unfold present
  cases peers.ends.lookup address <;> simp

theorem present_mono {later : Span} (onward : now.nanos ≤ later.nanos)
    (present : peers.present later address = true) : peers.present now address = true := by
  obtain ⟨finish, found, before⟩ := present_iff.mp present
  exact present_iff.mpr ⟨finish, found, Nat.lt_of_le_of_lt onward before⟩

theorem mem_of_lookup {finish : Span} (found : peers.ends.lookup address = some finish) :
    (address, finish) ∈ peers.ends := by
  obtain ⟨before, after, same, _⟩ := List.lookup_eq_some_iff.mp found
  rw [same]
  simp

theorem mem_all : address ∈ peers.all now ↔
    ∃ finish, (address, finish) ∈ peers.ends ∧ now.nanos < finish.nanos := by
  rw [all, List.mem_mergeSort]
  simp [List.mem_filter]

theorem agrees_daemons (self : String) (other : address ≠ self) :
    peers.Agrees now (peers.daemons now self) address where
  listed present := by
    obtain ⟨finish, found, before⟩ := present_iff.mp present
    exact (mem_daemons peers now self address).mpr
      (Or.inr (mem_all.mpr ⟨finish, mem_of_lookup found, before⟩))
  known member := by
    rcases (mem_daemons peers now self address).mp member with same | isPeer
    · exact absurd same other
    · obtain ⟨finish, member, _⟩ := mem_all.mp isPeer
      intro absent
      have apart := List.lookup_eq_none_iff.mp absent (address, finish) member
      simp at apart

theorem hear_lookup (now : Span) (heard : String) (lifetime : Span) :
    (peers.hear now heard lifetime).2.ends.lookup address =
      if address = heard then some ⟨now.nanos + lifetime.nanos⟩
      else peers.ends.lookup address :=
  IncidentKeys.lookup_put peers.ends heard address _

theorem Agrees.hear_other (agrees : peers.Agrees now daemons address) (heard : String)
    (lifetime : Span) (apart : address ≠ heard) :
    (peers.hear now heard lifetime).2.Agrees now daemons address := by
  have same : (peers.hear now heard lifetime).2.ends.lookup address =
      peers.ends.lookup address := by
    rw [hear_lookup, if_neg apart]
  refine ⟨fun present => agrees.listed ?_, fun member => ?_⟩
  · rwa [Peers.present, same, ← Peers.present] at present
  · rw [same]
    exact agrees.known member

theorem Agrees.hear_present (agrees : peers.Agrees now daemons address) (lifetime : Span)
    (present : peers.present now address = true) :
    (peers.hear now address lifetime).2.Agrees now daemons address := by
  refine ⟨fun _ => agrees.listed present, fun _ => ?_⟩
  rw [hear_lookup, if_pos rfl]
  nofun

theorem purge_none (now : Span) (nothingPurged : (peers.purge now).1 = 0) :
    (peers.purge now).2 = peers := by
  have all : (peers.ends.filter fun entry => decide (now.nanos < entry.2.nanos)).length =
      peers.ends.length := by
    refine Nat.le_antisymm (List.length_filter_le _ _) ?_
    exact Nat.sub_eq_zero_iff_le.mp nothingPurged
  have same := List.filter_sublist.eq_of_length all
  exact congrArg Peers.mk same

theorem overdue_of_lookup {finish : Span} (found : peers.ends.lookup address = some finish)
    (past : finish.nanos ≤ now.nanos) : peers.Overdue now address where
  ended := ⟨finish, found, past⟩
  counted later onward := by
    have ended : (address, finish) ∉
        peers.ends.filter fun entry => decide (later.nanos < entry.2.nanos) := by
      simp only [List.mem_filter, decide_eq_true_eq, not_and, Nat.not_lt]
      exact fun _ => Nat.le_trans past onward
    refine Nat.pos_of_ne_zero fun nothingPurged => ended ?_
    rw [show (peers.ends.filter fun entry => decide (later.nanos < entry.2.nanos)) = peers.ends from
      congrArg Peers.ends (purge_none later nothingPurged)]
    exact mem_of_lookup found

theorem not_overdue (present : peers.present now address = true) :
    ¬ peers.Overdue now address := by
  rintro ⟨⟨finish, found, past⟩, _⟩
  obtain ⟨other, same, before⟩ := present_iff.mp present
  rw [found] at same
  obtain rfl := Option.some.inj same
  exact Nat.not_lt.mpr past before

end Peers

theorem Span.after?_none_mono {now later span : Span} (onward : now.nanos ≤ later.nanos)
    (beyond : now.after? span = none) : later.after? span = none := by
  unfold after? at beyond ⊢
  split at beyond
  · cases beyond
  · next beyond =>
      rw [if_neg]
      have := Nat.div_le_div_right (c := second) (Nat.add_le_add_right onward span.nanos)
      omega

/-- There is no publisher, or will be none at its next tick: its period is empty, or the
clock does not go as far as the tick after that or the end of the daemon's presence. -/
def PeerSettings.Silent (settings : PeerSettings) (now : Span) : Prop :=
  settings.heartbeatInterval.isZero = true ∨ now.after? settings.heartbeatInterval = none ∨
    now.after? settings.lifetime = none

theorem PeerSettings.Silent.mono {settings : PeerSettings} {now later : Span}
    (silent : settings.Silent now) (onward : now.nanos ≤ later.nanos) : settings.Silent later :=
  silent.imp_right fun untimely =>
    untimely.imp (Span.after?_none_mono onward) (Span.after?_none_mono onward)

namespace Watch

variable {settings : Settings} {m later : Watch}

/-- A call for the checks is in the queue or about to be sent, or the steward follows one and
has not listed the daemons yet. -/
inductive Called (m : Watch) : Prop
  | queued {asker : Option Nat} (member : .refetch asker ∈ m.queue)
  | publisher (owing : m.publisher = .owing)
  | receiver (owing : m.receiver = .owing)
  | listing (listing : m.steward = .listing)

structure Pending (m : Watch) : Prop where
  called : m.Called
  goesOn : m.steward.goesOn = true

inductive Left (settings : Settings) (m : Watch) : Prop
  | told (member : .shutdown ∈ m.queue)
  | closing (closing : m.steward = .closing)
  | dismissed (ended : m.steward = .ended .dismissed)
  | untimely (ended : m.steward = .ended .untimely)
      (untimely : settings.checks.listInterval.isZero = true ∨
        m.now.after? settings.checks.listInterval = none)
  | endless {check : Check} (ended : m.steward = .ended (.endless check))
      (endless : check.period? = none)

theorem Step.onward (step : Step settings m later) : m.now.nanos ≤ later.now.nanos := by
  cases step with
  | pass later onward => exact onward
  | _ => exact Nat.le_refl _

theorem Step.ended {parting : Parting} (step : Step settings m later)
    (ended : m.steward = .ended parting) : later.steward = .ended parting := by
  cases step with
  | list waiting | refetch _ _ waiting _ | shutdown _ waiting _ | stewardUntimely waiting _ =>
      rw [ended] at waiting
      cases waiting
  | deal _ listing =>
      rw [ended] at listing
      cases listing
  | arranged _ arranging _ | breakOff _ _ arranging _ _ =>
      rw [ended] at arranging
      cases arranging
  | close closing =>
      rw [ended] at closing
      cases closing
  | _ => exact ended

theorem Left.step (left : m.Left settings) (step : Step settings m later) :
    later.Left settings := by
  cases left with
  | dismissed ended => exact .dismissed (step.ended ended)
  | endless ended endless => exact .endless (step.ended ended) endless
  | untimely ended untimely =>
      exact .untimely (step.ended ended)
        (untimely.imp_right (Span.after?_none_mono step.onward))
  | closing closing =>
      cases step with
      | list waiting | refetch _ _ waiting _ | shutdown _ waiting _ | stewardUntimely waiting _ =>
          rw [closing] at waiting
          cases waiting
      | deal _ listing =>
          rw [closing] at listing
          cases listing
      | arranged _ arranging _ | breakOff _ _ arranging _ _ =>
          rw [closing] at arranging
          cases arranging
      | close => exact .dismissed rfl
      | _ => exact .closing closing
  | told member =>
      cases step with
      | publisherCalls | receiverCalls | errand | dismiss =>
          exact .told (List.mem_append_left _ member)
      | refetch _ _ _ queue | assigned _ _ _ queue =>
          rw [queue] at member
          exact .told ((List.mem_cons.mp member).resolve_left nofun)
      | shutdown => exact .closing rfl
      | _ => exact .told member

theorem goesOn_of_unheard (unheard : m.steward.hears = false) : m.steward.goesOn = false := by
  unfold Stewardship.hears at unheard
  split at unheard
  · next parting ended => rw [ended]; rfl
  · cases unheard

/-- A call stays until the daemons are listed, unless the steward leaves. -/
theorem Called.step (called : m.Called) (step : Step settings m later) :
    later.Called ∨ later.Left settings ∨ later.steward.goesOn = false ∨
      later.dealt = some (later.peers.daemons later.now settings.address) := by
  cases called with
  | queued member =>
      refine Or.inl ?_
      cases step with
      | publisherCalls | receiverCalls | errand | dismiss =>
          exact .queued (List.mem_append_left _ member)
      | refetch => exact .listing rfl
      | assigned _ _ _ queue | shutdown _ _ queue =>
          rw [queue] at member
          exact .queued ((List.mem_cons.mp member).resolve_left nofun)
      | _ => exact .queued member
  | publisher owing =>
      cases step with
      | announce other | sweep other | publisherUntimely other =>
          rw [owing] at other
          cases other
      | publisherCalls => exact Or.inl (.queued List.mem_concat_self)
      | publisherUnheard _ unheard => exact Or.inr (Or.inr (Or.inl (goesOn_of_unheard unheard)))
      | dismiss => exact Or.inr (Or.inl (.told List.mem_concat_self))
      | _ => exact Or.inl (.publisher owing)
  | receiver owing =>
      cases step with
      | hear _ other | receiverUntimely other =>
          rw [owing] at other
          cases other
      | receiverCalls => exact Or.inl (.queued List.mem_concat_self)
      | receiverUnheard _ unheard => exact Or.inr (Or.inr (Or.inl (goesOn_of_unheard unheard)))
      | dismiss => exact Or.inr (Or.inl (.told List.mem_concat_self))
      | _ => exact Or.inl (.receiver owing)
  | listing listing =>
      cases step with
      | list other | refetch _ _ other | assigned _ _ other | shutdown _ other
      | stewardUntimely other | arranged _ other | breakOff _ _ other | close other =>
          rw [listing] at other
          cases other
      | deal => exact Or.inr (Or.inr (Or.inr rfl))
      | _ => exact Or.inl (.listing listing)

/-- What the latest deal knew of a peer stays true until somebody is about to tell of a
change, or the daemons are listed anew. -/
theorem Step.agrees {daemons : List String} {address : String} (step : Step settings m later)
    (other : address ≠ settings.address) (agrees : m.peers.Agrees m.now daemons address) :
    later.Called ∨ later.peers.Agrees later.now daemons address := by
  cases step with
  | pass later onward =>
      exact Or.inr ⟨fun present => agrees.listed (Peers.present_mono onward present), agrees.known⟩
  | announce => exact Or.inr (agrees.hear_other _ _ other)
  | sweep =>
      by_cases nothingPurged : (m.peers.purge m.now).1 = 0
      · rw [if_pos nothingPurged]
        refine Or.inr ?_
        change (m.peers.purge m.now).2.Agrees m.now daemons address
        rwa [Peers.purge_none m.now nothingPurged]
      · rw [if_neg nothingPurged]
        exact Or.inl (.publisher rfl)
  | hear heard =>
      by_cases own : address = heard
      · subst own
        cases present : m.peers.present m.now address with
        | true => exact Or.inr (agrees.hear_present _ present)
        | false =>
            refine Or.inl (.receiver (if_pos ?_))
            simp [Peers.hear, present, other]
      · exact Or.inr (agrees.hear_other _ _ own)
  | _ => exact Or.inr agrees

structure Attentive (settings : Settings) (m : Watch) : Prop where
  steward : m.steward.goesOn = true ∨ m.Left settings
  publisher : m.publisher = .ended → m.Left settings ∨ settings.peers.Silent m.now
  noticed : ∀ daemons, m.dealt = some daemons → m.Called ∨ m.Left settings ∨
    ∀ address, address ≠ settings.address → m.peers.Agrees m.now daemons address

theorem start_attentive (begun : Span) : Attentive settings (start settings begun) where
  steward := by
    unfold start
    cases endless : settings.checks.listInterval.isZero with
    | true => exact Or.inr (.untimely rfl (Or.inl endless))
    | false => exact Or.inl rfl
  publisher ended := by
    cases endless : settings.peers.heartbeatInterval.isZero with
    | true => exact Or.inr (Or.inl endless)
    | false => simp [start, endless] at ended
  noticed := nofun

theorem Step.dealt (step : Step settings m later) : later.dealt = m.dealt ∨
    later.dealt = some (later.peers.daemons later.now settings.address) := by
  cases step with
  | deal => exact Or.inr rfl
  | _ => exact Or.inl rfl

theorem Attentive.step (attentive : m.Attentive settings) (step : Step settings m later) :
    later.Attentive settings := by
  have steward : later.steward.goesOn = true ∨ later.Left settings := by
    rcases attentive.steward with goesOn | left
    · cases step with
      | shutdown => exact Or.inr (.closing rfl)
      | stewardUntimely _ untimely => exact Or.inr (.untimely rfl (Or.inr untimely))
      | breakOff _ _ _ _ endless => exact Or.inr (.endless rfl endless)
      | close closing =>
          rw [closing] at goesOn
          cases goesOn
      | list | refetch | deal | arranged => exact Or.inl rfl
      | _ => exact Or.inl goesOn
    · exact Or.inr (left.step step)
  have leaves : later.steward.goesOn = false → later.Left settings :=
    fun stays => steward.resolve_left (by simp [stays])
  refine ⟨steward, fun ended => ?_, fun daemons dealt => ?_⟩
  · have former : m.publisher = .ended → later.Left settings ∨ settings.peers.Silent later.now :=
      fun ended => (attentive.publisher ended).imp (·.step step) (·.mono step.onward)
    cases step with
    | announce | publisherCalls => cases ended
    | sweep => split at ended <;> cases ended
    | publisherUnheard _ unheard => exact Or.inl (leaves (goesOn_of_unheard unheard))
    | publisherUntimely _ untimely => exact Or.inr (Or.inr untimely)
    | dismiss => exact Or.inl (.told List.mem_concat_self)
    | _ => exact former ended
  · have anew : later.dealt = some (later.peers.daemons later.now settings.address) →
        ∀ address, address ≠ settings.address → later.peers.Agrees later.now daemons address := by
      intro new address other
      rw [dealt] at new
      rw [Option.some.inj new]
      exact Peers.agrees_daemons settings.address other
    rcases step.dealt with same | new
    · rcases attentive.noticed daemons (same ▸ dealt) with called | left | agrees
      · rcases called.step step with called | left | stays | new
        · exact Or.inl called
        · exact Or.inr (Or.inl left)
        · exact Or.inr (Or.inl (leaves stays))
        · exact Or.inr (Or.inr (anew new))
      · exact Or.inr (Or.inl (left.step step))
      · by_cases called : later.Called
        · exact Or.inl called
        · exact Or.inr (Or.inr fun address other =>
            (step.agrees other (agrees address other)).resolve_left called)
    · exact Or.inr (Or.inr (anew new))

theorem Path.attentive {begun : Span} (path : Path settings (Watch.start settings begun) m) :
    m.Attentive settings := by
  induction path with
  | start => exact start_attentive begun
  | step _ step ih => exact ih.step step

/-- Let the daemons to which the checks were dealt last lack one that is present, or have one
that is not.  Then the steward is called and will list them anew, or the entry of the one that
fell silent waits for a publisher that will count it, unless the steward or the publisher has
left. -/
theorem no_change_is_lost {begun : Span} (path : Path settings (start settings begun) m)
    {daemons : List String} (dealt : m.dealt = some daemons) {address : String}
    (other : address ≠ settings.address)
    (changed : (m.peers.present m.now address = true ∧ address ∉ daemons) ∨
      (m.peers.present m.now address = false ∧ address ∈ daemons)) :
    m.Pending ∨ (m.peers.Overdue m.now address ∧
      (m.publisher ≠ .ended ∨ settings.peers.Silent m.now)) ∨ m.Left settings := by
  have attentive := path.attentive
  rcases attentive.steward with goesOn | left
  · rcases attentive.noticed daemons dealt with called | left | agrees
    · exact Or.inl ⟨called, goesOn⟩
    · exact Or.inr (Or.inr left)
    · have agrees := agrees address other
      rcases changed with ⟨present, unlisted⟩ | ⟨absent, listed⟩
      · exact absurd (agrees.listed present) unlisted
      · obtain ⟨finish, found⟩ := Option.ne_none_iff_exists'.mp (agrees.known listed)
        have past : finish.nanos ≤ m.now.nanos := by
          refine Nat.not_lt.mp fun before => ?_
          rw [Peers.present_iff.mpr ⟨finish, found, before⟩] at absent
          cases absent
        have overdue := Peers.overdue_of_lookup found past
        by_cases ended : m.publisher = .ended
        · rcases attentive.publisher ended with left | silent
          · exact Or.inr (Or.inr left)
          · exact Or.inr (Or.inl ⟨overdue, Or.inr silent⟩)
        · exact Or.inr (Or.inl ⟨overdue, Or.inl ended⟩)
  · exact Or.inr (Or.inr left)

def sole : Settings where
  address := "a"

def alone : Watch :=
  { start sole ⟨0⟩ with dealt := some ["a"] }

theorem daemons_empty : Peers.empty.daemons ⟨0⟩ sole.address = ["a"] := by decide +kernel

theorem alone_path : Path sole (start sole ⟨0⟩) alone := by
  have list : Step sole (start sole ⟨0⟩) { start sole ⟨0⟩ with steward := .listing } := .list rfl
  have deal : Step sole { start sole ⟨0⟩ with steward := .listing }
      { start sole ⟨0⟩ with
        steward := .arranging ((start sole ⟨0⟩).share sole [])
        dealt := some (Peers.empty.daemons ⟨0⟩ sole.address) } := .deal [] rfl
  have nothing : (start sole ⟨0⟩).share sole [] = [] := by
    simp [share, Dealing.hand, Dealing.order, Dealing.readable]
  rw [nothing, daemons_empty] at deal
  have readable : ∀ check ∈ ([] : List Check), check.period? ≠ none := by simp
  exact ((Path.one list).step deal).step (.arranged [] rfl readable)

def joined : Peers :=
  (Peers.empty.hear ⟨0⟩ "b" sole.peers.lifetime).2

theorem joined_present : joined.present ⟨0⟩ "b" = true := by decide +kernel

theorem sole_timely : (⟨0⟩ : Span).after? sole.peers.lifetime ≠ none := by decide

/-- A daemon that comes is told of. -/
theorem joining_is_told :
    (Path sole (start sole ⟨0⟩) { alone with peers := joined, receiver := .owing } ∧
      "b" ≠ sole.address ∧ joined.present ⟨0⟩ "b" = true ∧ "b" ∉ ["a"]) ∧
    (({ alone with peers := joined, receiver := .owing } : Watch).Pending ∨
      (joined.Overdue ⟨0⟩ "b" ∧ (Caller.ready ≠ .ended ∨ sole.peers.Silent ⟨0⟩)) ∨
        Left sole { alone with peers := joined, receiver := .owing }) := by
  have path : Path sole (start sole ⟨0⟩) { alone with peers := joined, receiver := .owing } :=
    alone_path.step (.hear "b" rfl sole_timely)
  have unlisted : "b" ∉ ["a"] := by decide
  exact ⟨⟨path, by decide, joined_present, unlisted⟩,
    no_change_is_lost path rfl (by decide) (Or.inl ⟨joined_present, unlisted⟩)⟩

def overlongRow : StoredCheck :=
  ⟨1, 1, "load", "18446744073709551615s 999999999ns 1ns", false, "", "", "", ""⟩

/-- The steward broke off at the row.  A daemon that comes then is heard of, and nobody is
ever told. -/
theorem joining_is_lost :
    ∃ m, Path sole (start sole ⟨0⟩) m ∧ m.dealt = some ["a"] ∧ "b" ∉ ["a", sole.address] ∧
      m.peers.present m.now "b" = true ∧ ¬ m.Called ∧ ¬ m.peers.Overdue m.now "b" ∧
        .shutdown ∉ m.queue := by
  have overlong : ∃ check ∈ alone.share sole [overlongRow], check.period? = none := by
    have isEndless :
        ((alone.share sole [overlongRow]).any fun check => check.period?.isNone) = true := by
      decide +kernel
    obtain ⟨check, member, endless⟩ := List.any_eq_true.mp isEndless
    exact ⟨check, member, Option.isNone_iff_eq_none.mp endless⟩
  obtain ⟨check, member, endless⟩ := overlong
  have list : Step sole alone { alone with steward := .listing } := .list rfl
  have deal : Step sole { alone with steward := .listing }
      { alone with
        steward := .arranging (alone.share sole [overlongRow])
        dealt := some (Peers.empty.daemons ⟨0⟩ sole.address) } := .deal [overlongRow] rfl
  rw [daemons_empty] at deal
  have broke : Step sole { alone with steward := .arranging (alone.share sole [overlongRow]) }
      { alone with steward := .ended (.endless check) } := .breakOff _ check rfl member endless
  have heard : Step sole { alone with steward := .ended (.endless check) }
      { alone with
        peers := joined, receiver := .owing, steward := .ended (.endless check) } :=
    .hear "b" rfl sole_timely
  have path := ((((alone_path.step list).step deal).step broke).step heard).step
    (.receiverUnheard rfl rfl)
  refine ⟨_, path, rfl, by decide, joined_present, ?_, Peers.not_overdue joined_present, nofun⟩
  rintro (⟨⟨⟩⟩ | ⟨⟨⟩⟩ | ⟨⟨⟩⟩ | ⟨⟨⟩⟩)

end Watch

end FleetMonitor
