import FleetMonitor.Proofs.Entries
import FleetMonitor.Proofs.Membership

/-!
# The registry of peers told by its history

What a registry answers can be told from the calls it served before: a peer is present until
the end that the latest call gave that heard of it.  Entries that ended stay in the registry
until they are purged, but no answer other than the count of a purge depends on it.  The one
call that gets no answer is to hear of a peer for longer than clocks go.
-/

set_option autoImplicit false

namespace FleetMonitor.Peers

inductive Operation where
  | hear (address : String) (lifetime : Span)
  | all
  | present (address : String)
  | purge
deriving DecidableEq, Repr

structure Call where
  time : Span
  operation : Operation
deriving DecidableEq, Repr

inductive Answer where
  | absent (before : Bool)
  | listed (addresses : List String)
  | present (isPresent : Bool)
  | purged (count : Nat)
deriving DecidableEq, Repr

/-- Serves a call.  If clocks do not go as far as the end of a presence, it is not noted and there
is no answer. -/
def serve (peers : Peers) (call : Call) : Option Answer × Peers :=
  match call.operation with
  | .hear address lifetime =>
      if (call.time.after? lifetime).isSome then
        let (absent, peers) := peers.hear call.time address lifetime
        (some (.absent absent), peers)
      else (none, peers)
  | .all => (some (.listed (peers.all call.time)), peers)
  | .present address => (some (.present (peers.present call.time address)), peers)
  | .purge =>
      let (count, peers) := peers.purge call.time
      (some (.purged count), peers)

section Hear

variable {time lifetime : Span} (peers : Peers) (address : String)

theorem serve_timely (timely : (time.after? lifetime).isSome = true) :
    peers.serve ⟨time, .hear address lifetime⟩ =
      (some (.absent (peers.hear time address lifetime).1), (peers.hear time address lifetime).2) :=
  if_pos timely

theorem serve_untimely (untimely : ¬ (time.after? lifetime).isSome = true) :
    peers.serve ⟨time, .hear address lifetime⟩ = (none, peers) :=
  if_neg untimely

theorem hear?_eq_serve (daemon : Daemon) :
    (daemon.hear? time address).map (fun heard => (Answer.absent heard.1, heard.2.peers)) =
      (daemon.peers.serve ⟨time, .hear address daemon.settings.peers.lifetime⟩).1.map
        fun answer =>
          (answer, (daemon.peers.hear time address daemon.settings.peers.lifetime).2) := by
  cases timely : time.after? daemon.settings.peers.lifetime with
  | none => simp [Daemon.hear?, serve, timely]
  | some finish => simp [Daemon.hear?, serve, timely]

end Hear

def after (history : List Call) : Peers :=
  history.foldl (fun peers call => (peers.serve call).2) .empty

theorem after_snoc (history : List Call) (call : Call) :
    after (history ++ [call]) = ((after history).serve call).2 :=
  List.foldl_concat ..

/-! ## What a history tells -/

def Call.Notes (call : Call) (address : String) (lifetime : Span) : Prop :=
  call.operation = .hear address lifetime ∧ (call.time.after? lifetime).isSome = true

/-- The latest call of a history that notes a peer, for how long it does, and the calls since. -/
structure LastNoted (history : List Call) (address : String) (call : Call) (lifetime : Span)
    (since : List Call) : Prop where
  split : ∃ before, history = before ++ call :: since
  notes : call.Notes address lifetime
  latest : ∀ later ∈ since, ∀ other, ¬ later.Notes address other

/-- By its history a peer is present: the end that its latest note gave lies in the future. -/
def Live (history : List Call) (now : Span) (address : String) : Prop :=
  ∃ call lifetime since, LastNoted history address call lifetime since ∧
    now.nanos < call.time.nanos + lifetime.nanos

/-- By its history the presence of a peer has ended, and nothing was purged since it ended. -/
def Stale (history : List Call) (now : Span) (address : String) : Prop :=
  ∃ call lifetime since, LastNoted history address call lifetime since ∧
    call.time.nanos + lifetime.nanos ≤ now.nanos ∧
    ∀ later ∈ since, later.operation = .purge →
      later.time.nanos < call.time.nanos + lifetime.nanos

/-- By its history the registry has an entry of a peer: it was noted, and nothing was purged
since its presence ended. -/
def Kept (history : List Call) (address : String) (finish : Span) : Prop :=
  ∃ call lifetime since, LastNoted history address call lifetime since ∧
    finish.nanos = call.time.nanos + lifetime.nanos ∧
    ∀ later ∈ since, later.operation = .purge → later.time.nanos < finish.nanos

section History

variable {history : List Call} {address : String} {call : Call} {finish now : Span}

theorem split_snoc {before since : List Call} {noted : Call}
    (split : history ++ [call] = before ++ noted :: since) :
    (since = [] ∧ noted = call) ∨
      ∃ earlier, since = earlier ++ [call] ∧ history = before ++ noted :: earlier := by
  rcases List.eq_nil_or_concat since with rfl | ⟨earlier, last, rfl⟩
  · obtain ⟨-, same⟩ := List.append_inj' split rfl
    exact .inl ⟨rfl, (List.singleton_inj.mp same).symm⟩
  · rw [List.concat_eq_append, ← List.cons_append, ← List.append_assoc] at split
    obtain ⟨rest, same⟩ := List.append_inj' split rfl
    obtain rfl := List.singleton_inj.mp same
    exact .inr ⟨earlier, List.concat_eq_append, rest⟩

theorem kept_snoc_of_notes {lifetime : Span} (notes : call.Notes address lifetime) :
    Kept (history ++ [call]) address finish ↔
      finish.nanos = call.time.nanos + lifetime.nanos := by
  constructor
  · rintro ⟨noted, other, since, ⟨⟨before, split⟩, notedNotes, latest⟩, ends, -⟩
    rcases split_snoc split with ⟨rfl, rfl⟩ | ⟨earlier, rfl, -⟩
    · obtain ⟨-, rfl⟩ := Operation.hear.inj (notes.1.symm.trans notedNotes.1)
      exact ends
    · exact absurd notes (latest call (by simp) lifetime)
  · exact fun ends => ⟨call, lifetime, [], ⟨⟨history, rfl⟩, notes, by simp⟩, ends, by simp⟩

theorem kept_snoc_of_aside (aside : ∀ other, ¬ call.Notes address other) :
    Kept (history ++ [call]) address finish ↔
      Kept history address finish ∧
        (call.operation = .purge → call.time.nanos < finish.nanos) := by
  constructor
  · rintro ⟨noted, lifetime, since, ⟨⟨before, split⟩, notes, latest⟩, ends, unpurged⟩
    rcases split_snoc split with ⟨rfl, rfl⟩ | ⟨earlier, rfl, rfl⟩
    · exact absurd notes (aside lifetime)
    · obtain ⟨unpurgedBefore, unpurgedLast⟩ := List.forall_mem_append.mp unpurged
      obtain ⟨latestBefore, -⟩ := List.forall_mem_append.mp latest
      exact ⟨⟨noted, lifetime, earlier, ⟨⟨before, rfl⟩, notes, latestBefore⟩, ends,
        unpurgedBefore⟩, unpurgedLast call List.mem_cons_self⟩
  · rintro ⟨⟨noted, lifetime, earlier, ⟨⟨before, rfl⟩, notes, latest⟩, ends, unpurged⟩, last⟩
    refine ⟨noted, lifetime, earlier ++ [call], ⟨⟨before, by simp⟩, notes, ?_⟩, ends, ?_⟩
    · exact List.forall_mem_append.mpr ⟨latest, by simpa using aside⟩
    · exact List.forall_mem_append.mpr ⟨unpurged, by simpa using last⟩

theorem stale_iff : Stale history now address ↔
    ∃ finish, Kept history address finish ∧ finish.nanos ≤ now.nanos := by
  constructor
  · rintro ⟨call, lifetime, since, lastNoted, ended, unpurged⟩
    exact ⟨⟨call.time.nanos + lifetime.nanos⟩, ⟨call, lifetime, since, lastNoted, rfl, unpurged⟩,
      ended⟩
  · rintro ⟨finish, ⟨call, lifetime, since, lastNoted, ends, unpurged⟩, ended⟩
    rw [ends] at ended unpurged
    exact ⟨call, lifetime, since, lastNoted, ended, unpurged⟩

theorem live_iff (past : ∀ call ∈ history, call.time.nanos ≤ now.nanos) :
    Live history now address ↔
      ∃ finish, Kept history address finish ∧ now.nanos < finish.nanos := by
  constructor
  · rintro ⟨call, lifetime, since, lastNoted, lasts⟩
    -- A purge since the note came no later than now, and the end lies in the future.
    refine ⟨⟨call.time.nanos + lifetime.nanos⟩,
      ⟨call, lifetime, since, lastNoted, rfl, fun later member _ => ?_⟩, lasts⟩
    obtain ⟨before, rfl⟩ := lastNoted.split
    exact Nat.lt_of_le_of_lt (past later (by simp [member])) lasts
  · rintro ⟨finish, ⟨call, lifetime, since, lastNoted, ends, -⟩, lasts⟩
    exact ⟨call, lifetime, since, lastNoted, ends ▸ lasts⟩

end History

/-! ## Calls that purge -/

def unpurged (history : List Call) : List Call :=
  history.filter fun call => decide (call.operation ≠ .purge)

theorem Call.Notes.stays {call : Call} {address : String} {lifetime : Span}
    (notes : call.Notes address lifetime) : decide (call.operation ≠ .purge) = true := by
  simp [notes.1]

theorem live_unpurged (history : List Call) (now : Span) (address : String) :
    Live (unpurged history) now address ↔ Live history now address := by
  constructor
  · rintro ⟨call, lifetime, since, ⟨⟨before, split⟩, notes, latest⟩, lasts⟩
    obtain ⟨front, back, rfl, -, rest⟩ := List.filter_eq_append_iff.mp split
    obtain ⟨between, after, rfl, -, -, isSince⟩ := List.filter_eq_cons_iff.mp rest
    refine ⟨call, lifetime, after, ⟨⟨front ++ between, by simp⟩, notes, ?_⟩, lasts⟩
    intro later member other notesLater
    refine latest later ?_ other notesLater
    rw [← isSince]
    exact List.mem_filter.mpr ⟨member, notesLater.stays⟩
  · rintro ⟨call, lifetime, since, ⟨⟨before, rfl⟩, notes, latest⟩, lasts⟩
    refine ⟨call, lifetime, unpurged since, ⟨⟨unpurged before, ?_⟩, notes, ?_⟩, lasts⟩
    · exact (List.filter_append ..).trans (congrArg _ (List.filter_cons_of_pos notes.stays))
    · exact fun later member => latest later (List.mem_filter.mp member).1

/-! ## The registry after a history -/

structure Records (peers : Peers) (history : List Call) : Prop where
  distinct : (peers.ends.map (·.1)).Nodup
  entries : ∀ address finish, (address, finish) ∈ peers.ends ↔ Kept history address finish

section Records

variable {peers : Peers} {history : List Call} {call : Call} {address : String} {now : Span}

theorem Records.present_iff (records : Records peers history)
    (past : ∀ call ∈ history, call.time.nanos ≤ now.nanos) :
    peers.present now address = true ↔ Live history now address := by
  rw [Peers.present_iff, live_iff past]
  exact exists_congr fun finish => and_congr_left fun _ =>
    (lookup_eq_some_iff_mem_of_nodup records.distinct address finish).trans
      (records.entries address finish)

theorem Records.mem_all_iff (records : Records peers history)
    (past : ∀ call ∈ history, call.time.nanos ≤ now.nanos) :
    address ∈ peers.all now ↔ Live history now address := by
  rw [mem_all, live_iff past]
  exact exists_congr fun finish => and_congr_left fun _ => records.entries address finish

theorem all_ascending (distinct : (peers.ends.map (·.1)).Nodup) :
    (peers.all now).Pairwise (· < ·) := by
  have sorted : (peers.all now).Pairwise (· ≤ ·) := by
    refine (List.pairwise_mergeSort ?_ ?_ _).imp fun holds => of_decide_eq_true holds
    · intro a b c first second
      simp only [decide_eq_true_eq] at *
      exact String.le_trans first second
    · intro a b
      simp only [Bool.or_eq_true, decide_eq_true_eq]
      exact String.le_total a b
  have once : (peers.all now).Nodup :=
    (List.mergeSort_perm _ _).nodup_iff.mpr (distinct.sublist (List.filter_sublist.map _))
  exact (sorted.and once).imp fun ⟨below, apart⟩ => lt_of_le_of_ne below apart

def ended (peers : Peers) (now : Span) : List String :=
  (peers.ends.filter fun entry => !decide (now.nanos < entry.2.nanos)).map (·.1)

theorem purge_count (peers : Peers) (now : Span) :
    (peers.purge now).1 = (peers.ended now).length := by
  have parts := List.length_eq_length_filter_add (l := peers.ends)
    fun entry => decide (now.nanos < entry.2.nanos)
  rw [ended, List.length_map, purge]
  omega

theorem Records.mem_ended_iff (records : Records peers history) :
    address ∈ peers.ended now ↔ Stale history now address := by
  rw [stale_iff, ended]
  simp [List.mem_filter, records.entries]

theorem Records.heard (records : Records peers history) (time lifetime : Span) (heard : String)
    (timely : (time.after? lifetime).isSome = true) :
    Records (peers.hear time heard lifetime).2 (history ++ [⟨time, .hear heard lifetime⟩]) := by
  have notes : (Call.mk time (.hear heard lifetime)).Notes heard lifetime := ⟨rfl, timely⟩
  refine ⟨?_, fun address finish => ?_⟩
  · refine List.nodup_cons.mpr ⟨?_, records.distinct.sublist (List.filter_sublist.map _)⟩
    simp [List.mem_filter]
  · by_cases own : address = heard
    · subst own
      rw [kept_snoc_of_notes notes]
      cases finish
      simp [hear, List.mem_filter]
    · have aside : ∀ other, ¬ (Call.mk time (.hear heard lifetime)).Notes address other := by
        rintro other ⟨same, -⟩
        exact own (Operation.hear.inj same).1.symm
      rw [kept_snoc_of_aside aside, ← records.entries]
      simp [hear, List.mem_filter, own]

theorem Records.serve (records : Records peers history) (call : Call) :
    Records (peers.serve call).2 (history ++ [call]) := by
  obtain ⟨time, operation⟩ := call
  -- Every call but a timely `hear` leaves the entries as they are, or drops those that ended.
  have stays : ∀ later : Peers, (later.ends.map (·.1)).Nodup →
      (∀ address finish, (address, finish) ∈ later.ends ↔
        (address, finish) ∈ peers.ends ∧ (operation = .purge → time.nanos < finish.nanos)) →
      (∀ address other, ¬ (Call.mk time operation).Notes address other) →
        Records later (history ++ [⟨time, operation⟩]) := by
    intro later distinct entries aside
    refine ⟨distinct, fun address finish => ?_⟩
    rw [entries, kept_snoc_of_aside (aside address), records.entries]
  cases operation with
  | all => exact stays peers records.distinct (by simp) (by simp [Call.Notes])
  | present address => exact stays peers records.distinct (by simp) (by simp [Call.Notes])
  | purge =>
    refine stays (peers.purge time).2 ?_ ?_ (by simp [Call.Notes])
    · exact records.distinct.sublist (List.filter_sublist.map _)
    · simp [Peers.purge, List.mem_filter]
  | hear heard lifetime =>
    by_cases timely : (time.after? lifetime).isSome = true
    · rw [serve_timely peers heard timely]
      exact records.heard time lifetime heard timely
    · rw [serve_untimely peers heard timely]
      refine stays peers records.distinct (by simp) ?_
      rintro address other ⟨same, otherTimely⟩
      obtain ⟨-, rfl⟩ := Operation.hear.inj same
      exact timely otherTimely

end Records

theorem records_after (history : List Call) : Records (after history) history := by
  induction history using List.reverseRecOn with
  | nil =>
    refine ⟨List.nodup_nil, fun address finish => ?_⟩
    constructor
    · intro member
      cases member
    · rintro ⟨call, lifetime, since, ⟨⟨before, split⟩, -, -⟩, -, -⟩
      simp at split
  | append_singleton history call ih =>
    rw [after_snoc]
    exact ih.serve call

/-! ## The answers -/

/-- An answer to a call is what the history of the calls before it tells. -/
def Told (history : List Call) (call : Call) (answer : Option Answer) : Prop :=
  match call.operation with
  | .hear address lifetime =>
      (call.time.after? lifetime = none → answer = none) ∧
        (call.time.after? lifetime ≠ none →
          ∃ absent, answer = some (.absent absent) ∧
            (absent = true ↔ ¬ Live history call.time address))
  | .all =>
      ∃ addresses, answer = some (.listed addresses) ∧ addresses.Pairwise (· < ·) ∧
        ∀ address, address ∈ addresses ↔ Live history call.time address
  | .present address =>
      ∃ isPresent, answer = some (.present isPresent) ∧
        (isPresent = true ↔ Live history call.time address)
  | .purge =>
      ∃ gone : List String, answer = some (.purged gone.length) ∧ gone.Nodup ∧
        ∀ address, address ∈ gone ↔ Stale history call.time address

def InOrder (calls : List Call) : Prop :=
  calls.Pairwise fun call later => call.time.nanos ≤ later.time.nanos

instance (calls : List Call) : Decidable (InOrder calls) :=
  inferInstanceAs (Decidable (calls.Pairwise _))

section Answers

variable {history other : List Call} {call : Call}

theorem InOrder.past (inOrder : InOrder (history ++ [call])) :
    ∀ earlier ∈ history, earlier.time.nanos ≤ call.time.nanos := fun earlier member =>
  (List.pairwise_append.mp inOrder).2.2 earlier member call List.mem_cons_self

theorem told (inOrder : InOrder (history ++ [call])) :
    Told history call ((after history).serve call).1 := by
  have records := records_after history
  have past := inOrder.past
  obtain ⟨time, operation⟩ := call
  cases operation with
  | all =>
    exact ⟨_, rfl, all_ascending records.distinct, fun address => records.mem_all_iff past⟩
  | present address => exact ⟨_, rfl, records.present_iff past⟩
  | purge =>
    refine ⟨(after history).ended time, ?_, ?_, fun address => records.mem_ended_iff⟩
    · rw [← purge_count]
      rfl
    · exact records.distinct.sublist (List.filter_sublist.map _)
  | hear address lifetime =>
    refine ⟨fun untimely => ?_, fun timely => ?_⟩
    · rw [serve_untimely _ _ (by simp [show time.after? lifetime = none from untimely])]
    · rw [serve_timely _ _ (Option.isSome_iff_ne_none.mpr timely)]
      refine ⟨_, rfl, ?_⟩
      change (!(after history).present time address) = true ↔ _
      rw [← records.present_iff past, Bool.not_eq_true', Bool.not_eq_true]

theorem Told.unique {answer answer' : Option Answer} (told : Told history call answer)
    (told' : Told other call answer') (keeps : call.operation ≠ .purge)
    (same : ∀ address, Live other call.time address ↔ Live history call.time address) :
    answer' = answer := by
  obtain ⟨time, operation⟩ := call
  cases operation with
  | purge => exact absurd rfl keeps
  | all =>
    obtain ⟨addresses, rfl, ascending, listed⟩ := told
    obtain ⟨addresses', rfl, ascending', listed'⟩ := told'
    have members : addresses'.Perm addresses :=
      (List.perm_ext_iff_of_nodup (ascending'.imp ne_of_lt) (ascending.imp ne_of_lt)).mpr
        fun address => (listed' address).trans ((same address).trans (listed address).symm)
    rw [members.eq_of_pairwise' ascending' ascending]
  | present address =>
    obtain ⟨isPresent, rfl, isLive⟩ := told
    obtain ⟨isPresent', rfl, isLive'⟩ := told'
    rw [Bool.eq_iff_iff.mpr (isLive'.trans ((same address).trans isLive.symm))]
  | hear address lifetime =>
    obtain ⟨untimely, timely⟩ := told
    obtain ⟨untimely', timely'⟩ := told'
    by_cases beyond : time.after? lifetime = none
    · rw [untimely beyond, untimely' beyond]
    · obtain ⟨absent, rfl, isAbsent⟩ := timely beyond
      obtain ⟨absent', rfl, isAbsent'⟩ := timely' beyond
      rw [Bool.eq_iff_iff.mpr (isAbsent'.trans ((not_congr (same address)).trans isAbsent.symm))]

theorem serve_eq_none_iff (peers : Peers) (call : Call) :
    (peers.serve call).1 = none ↔ ∃ address lifetime,
      call.operation = .hear address lifetime ∧ call.time.after? lifetime = none := by
  obtain ⟨time, operation⟩ := call
  cases operation with
  | hear address lifetime =>
    by_cases timely : (time.after? lifetime).isSome = true
    · simp [serve_timely peers address timely, Option.isSome_iff_ne_none.mp timely]
    · simp [serve_untimely peers address timely, Option.not_isSome_iff_eq_none.mp timely]
  | all | present | purge => simp [serve]

theorem serve_of_no_answer {peers : Peers} (unanswered : (peers.serve call).1 = none) :
    (peers.serve call).2 = peers := by
  obtain ⟨time, operation⟩ := call
  obtain ⟨address, lifetime, rfl, untimely⟩ := (serve_eq_none_iff peers _).mp unanswered
  rw [serve_untimely peers address (by simp [show time.after? lifetime = none from untimely])]

/-- Every call is answered as the calls before it tell.  Hearing of a peer answers whether it
was missing among the present ones just before.  Purges put into a history or left out of it
anywhere change no answer but that of a purge.  The one call without an answer is to hear of a
peer for longer than clocks go; it changes nothing. -/
theorem registry_tells_its_history (inOrder : InOrder (history ++ [call])) :
    Told history call ((after history).serve call).1 ∧
      (∀ address lifetime absent, call.operation = .hear address lifetime →
        ((after history).serve call).1 = some (.absent absent) →
          (absent = true ↔ address ∉ (after history).all call.time)) ∧
      (∀ other, InOrder (other ++ [call]) → unpurged other = unpurged history →
        call.operation ≠ .purge →
          ((after other).serve call).1 = ((after history).serve call).1) ∧
      (((after history).serve call).1 = none ↔ ∃ address lifetime,
        call.operation = .hear address lifetime ∧ call.time.after? lifetime = none) ∧
      (((after history).serve call).1 = none →
        ((after history).serve call).2 = after history) := by
  have isTold := told inOrder
  refine ⟨isTold, ?_, ?_, serve_eq_none_iff _ _, serve_of_no_answer⟩
  · intro address lifetime absent hears answered
    rw [Told, hears, answered] at isTold
    obtain ⟨untimely, timely⟩ := isTold
    have inTime : call.time.after? lifetime ≠ none := fun beyond => nomatch untimely beyond
    obtain ⟨absent', same, isAbsent⟩ := timely inTime
    obtain rfl := Answer.absent.inj (Option.some.inj same)
    rw [isAbsent, (records_after history).mem_all_iff inOrder.past]
  · intro other otherInOrder samePeers keeps
    refine isTold.unique (told otherInOrder) keeps fun address => ?_
    rw [← live_unpurged other, samePeers, live_unpurged]

end Answers

/-- A peer that is heard of again for a shorter time is gone at the end of that time. -/
def shortenedStay : List Call :=
  [⟨⟨0⟩, .hear "a" ⟨10⟩⟩, ⟨⟨2⟩, .hear "a" ⟨3⟩⟩, ⟨⟨4⟩, .purge⟩]

theorem shortened_stay_is_over :
    InOrder (shortenedStay ++ [⟨⟨5⟩, .hear "a" ⟨1⟩⟩]) ∧
      ((after shortenedStay).serve ⟨⟨5⟩, .hear "a" ⟨1⟩⟩).1 = some (.absent true) ∧
      "a" ∉ (after shortenedStay).all ⟨5⟩ := by
  have inOrder : InOrder (shortenedStay ++ [⟨⟨5⟩, .hear "a" ⟨1⟩⟩]) := by decide
  obtain ⟨-, missing, -⟩ := registry_tells_its_history inOrder
  exact ⟨inOrder, rfl, (missing "a" ⟨1⟩ true rfl rfl).mp rfl⟩

def endlessStay : Call :=
  ⟨⟨0⟩, .hear "a" ⟨18446744073709551615 * Span.second⟩⟩

/-- A peer with an endless stay is not noted, and so is not listed a moment later. -/
theorem endless_stay_is_not_noted :
    InOrder [endlessStay, ⟨⟨1⟩, .all⟩] ∧
      endlessStay.operation = .hear "a" ⟨18446744073709551615 * Span.second⟩ ∧
      1 < endlessStay.time.nanos + 18446744073709551615 * Span.second ∧
      ((after []).serve endlessStay).1 = none ∧
      ((after [endlessStay]).serve ⟨⟨1⟩, .all⟩).1 = some (.listed []) := by
  have unnoted : after [endlessStay] = .empty := rfl
  refine ⟨by decide, rfl, by decide, rfl, ?_⟩
  rw [unnoted]
  simp [serve, all, empty]

end FleetMonitor.Peers
