import FleetMonitor.Proofs.Clocked
import FleetMonitor.Proofs.StoredHosts
import Mathlib.Data.List.Dedup

/-!
# Hosts that are counted

An expression sorts the hosts that it looked at into bad and good ones and
fails if enough of them are bad.  It counts what it was given: entries of a
list.  Hosts that a query selects are all different, because a store has one
row for each host of a cluster; so are those of a list that names none twice.
Only a list that repeats a name has a host counted more than once.
-/

set_option autoImplicit false

namespace FleetMonitor

/-! ## The hosts of a store -/

/-- Rows of hosts in ascending order of cluster and name, no host of a cluster
twice, each row under its own name. -/
structure KeyedHosts (rows : List ((Int × String) × Host)) : Prop where
  ascending : Ascending hostBefore rows
  names : ∀ entry ∈ rows, entry.1.2 = entry.2.name

namespace KeyedHosts

variable {rows : List ((Int × String) × Host)}

theorem putHost (keyed : KeyedHosts rows) (clusterId : Int) (host : Host) :
    KeyedHosts (putHost rows clusterId host) where
  ascending := keyed.ascending.putSorted ordersHosts (clusterId, host.name) host
  names entry member := by
    rcases of_mem_putSorted member with rfl | old
    · rfl
    · exact keyed.names entry old

theorem selected_nodup (keyed : KeyedHosts rows) {clusterId : Int}
    {selects : (Int × String) × Host → Bool}
    (within : ∀ entry, selects entry = true → entry.1.1 = clusterId) :
    (((rows.filter selects).map (·.2)).map (·.name)).Nodup := by
  have keys : ((rows.filter selects).map (·.1)).Nodup :=
    (keyed.ascending.keys_nodup ordersHosts).sublist (rows.filter_sublist.map _)
  rw [List.map_map]
  refine List.pairwise_map.mpr ((List.pairwise_map.mp keys).imp_of_mem ?_)
  intro a b ofA ofB differ same
  -- Within one cluster, two rows of one name would have one key.
  obtain ⟨rowA, selectedA⟩ := List.mem_filter.mp ofA
  obtain ⟨rowB, selectedB⟩ := List.mem_filter.mp ofB
  apply differ
  refine Prod.ext ((within a selectedA).trans (within b selectedB).symm) ?_
  rw [keyed.names a rowA, keyed.names b rowB]
  exact same

theorem name_of_lookup (keyed : KeyedHosts rows) {clusterId : Int} {name : String} {host : Host}
    (found : rows.lookup (clusterId, name) = some host) : host.name = name := by
  obtain ⟨front, back, layout, -⟩ := List.lookup_eq_some_iff.mp found
  exact (keyed.names ((clusterId, name), host) (by simp [layout])).symm

theorem found_sublist (keyed : KeyedHosts rows) (clusterId : Int) (names : List String) :
    ((names.filterMap fun name => rows.lookup (clusterId, name)).map (·.name)).Sublist names := by
  induction names with
  | nil => exact .slnil
  | cons name names ih =>
    rw [List.filterMap_cons]
    split
    · exact ih.cons name
    · next host found =>
      rw [List.map_cons, keyed.name_of_lookup found]
      exact ih.cons_cons name

end KeyedHosts

namespace Store

def KeepsHosts (store : Store) : Prop :=
  KeyedHosts store.hostRows

namespace KeepsHosts

theorem after {store : Store} (keeps : store.KeepsHosts) (write : Write) :
    (store.after write).KeepsHosts := by
  by_cases isHost : ∃ clusterId report, write = .host clusterId report
  · obtain ⟨clusterId, report, rfl⟩ := isHost
    cases store with
    | memory store => exact KeyedHosts.putHost keeps clusterId report
    | file store =>
      simp only [Store.after, upsertHost, FileStore.upsertHost, FileStore.whenOpen]
      cases store.isOpen with
      | false => exact keeps
      | true => exact KeyedHosts.putHost keeps clusterId (FileStore.hostRow report)
  · unfold KeepsHosts
    rw [(after_rows store write).2 fun clusterId report same => isHost ⟨clusterId, report, same⟩]
    exact keeps

theorem writes {store : Store} (keeps : store.KeepsHosts) (writes : List Write) :
    (writes.foldl Store.after store).KeepsHosts :=
  List.foldlRecOn writes Store.after keeps fun _ keeps write _ => keeps.after write

theorem empty : (memory .empty).KeepsHosts :=
  ⟨.nil, List.forall_mem_nil _⟩

theorem create (path : String) : (file (.create path)).KeepsHosts :=
  ⟨.nil, List.forall_mem_nil _⟩

end KeepsHosts

def hostsOf (store : Store) (now : Instant) (freshness : Span) (check : Check) :
    Except StoreError (List Host) :=
  match check.hosts with
  | .query text => store.queryHosts now check.clusterId text freshness
  | .list names => store.hostsByNames check.clusterId names

theorem queryHosts_selects {store : Store} {now : Instant} {clusterId : Int} {text : String}
    {freshness : Span} {hosts : List Host}
    (found : store.queryHosts now clusterId text freshness = .ok hosts) :
    ∃ selects : (Int × String) × Host → Bool,
      (∀ entry, selects entry = true → entry.1.1 = clusterId) ∧
        hosts = (store.hostRows.filter selects).map (·.2) := by
  cases store with
  | memory store =>
    cases reads : Query.read text with
    | error cause =>
      simp only [queryHosts, MemoryStore.queryHosts, reads] at found
      cases found
    | ok query =>
      simp only [queryHosts, MemoryStore.queryHosts, reads] at found
      obtain rfl := Except.ok.inj found
      refine ⟨_, fun entry selected => ?_, rfl⟩
      simp only [Bool.and_eq_true, beq_iff_eq] at selected
      exact selected.1.1
  | file store =>
    cases reads : Query.read text with
    | error cause =>
      simp only [queryHosts, FileStore.queryHosts, reads] at found
      cases found
    | ok query =>
      cases isOpen : store.isOpen with
      | false =>
        simp only [queryHosts, FileStore.queryHosts, reads, FileStore.whenOpen, isOpen] at found
        cases found
      | true =>
        simp only [queryHosts, FileStore.queryHosts, reads, FileStore.whenOpen, isOpen] at found
        obtain rfl := Except.ok.inj found
        refine ⟨_, fun entry selected => ?_, rfl⟩
        simp only [Bool.and_eq_true, beq_iff_eq] at selected
        exact selected.1.1

theorem hostsByNames_looksUp {store : Store} {clusterId : Int} {names : List String}
    {hosts : List Host} (found : store.hostsByNames clusterId names = .ok hosts) :
    hosts = names.filterMap fun name => store.hostRows.lookup (clusterId, name) := by
  cases store with
  | memory store => exact (Except.ok.inj found).symm
  | file store =>
    cases names with
    | nil => exact (Except.ok.inj found).symm
    | cons name names =>
      simp only [hostsByNames, FileStore.hostsByNames, FileStore.whenOpen] at found
      cases isOpen : store.isOpen with
      | false => rw [isOpen] at found; cases found
      | true => rw [isOpen] at found; exact (Except.ok.inj found).symm

/-- The hosts that are found for a check are different if its list, should it
have one, names no host twice. -/
theorem KeepsHosts.hostsOf_nodup {store : Store} (keeps : store.KeepsHosts) {now : Instant}
    {freshness : Span} {check : Check} {hosts : List Host}
    (told : store.hostsOf now freshness check = .ok hosts) (once : check.listedHosts.Nodup) :
    (hosts.map (·.name)).Nodup := by
  unfold hostsOf at told
  unfold Check.listedHosts at once
  split at told
  · obtain ⟨selects, within, rfl⟩ := queryHosts_selects told
    exact KeyedHosts.selected_nodup keeps within
  · next names selection =>
    rw [selection] at once
    rw [hostsByNames_looksUp told]
    exact once.sublist (KeyedHosts.found_sublist keeps check.clusterId names)

end Store

/-! ## Counting -/

namespace Outcome

def Tallies (minHost : Nat) (looked : List String) (outcome : Outcome) : Prop :=
  ∃ verdicts : List (String × Bool), verdicts.map (·.1) = looked ∧ outcome = tally minHost verdicts

/-- Every entry of the list is sorted, in its place, and the bad entries are
counted. -/
structure CountsEntries (minHost : Nat) (looked : List String) (outcome : Outcome) : Prop where
  all : (outcome.bad ++ outcome.good).Perm looked
  bad_inOrder : outcome.bad.Sublist looked
  good_inOrder : outcome.good.Sublist looked
  failing : outcome.failing = true ↔ minHost ≤ outcome.bad.length

/-- Every host of the list is sorted once, in its place, and the different bad
hosts are counted. -/
structure CountsHosts (minHost : Nat) (looked : List String) (outcome : Outcome) : Prop where
  once : ∀ name ∈ looked, (outcome.bad ++ outcome.good).count name = 1
  bad_inOrder : outcome.bad.Sublist looked
  good_inOrder : outcome.good.Sublist looked
  failing : outcome.failing = true ↔ minHost ≤ outcome.bad.dedup.length

variable {minHost : Nat} {looked : List String} {outcome : Outcome}

theorem Tallies.countsEntries (tallies : Tallies minHost looked outcome) :
    CountsEntries minHost looked outcome := by
  obtain ⟨verdicts, rfl, rfl⟩ := tallies
  refine ⟨?_, verdicts.filter_sublist.map _, verdicts.filter_sublist.map _, by simp [tally]⟩
  have sorted := (List.filter_append_perm (·.2) verdicts).map (·.1)
  simpa [tally] using sorted

theorem CountsEntries.countsHosts_iff (counts : CountsEntries minHost looked outcome) :
    CountsHosts minHost looked outcome ↔ looked.Nodup := by
  constructor
  · intro countsHosts
    refine List.nodup_iff_count_eq_one.mpr fun name member => ?_
    rw [← counts.all.count_eq]
    exact countsHosts.once name member
  · intro nodup
    refine ⟨fun name member => ?_, counts.bad_inOrder, counts.good_inOrder, ?_⟩
    · rw [counts.all.count_eq]
      exact List.nodup_iff_count_eq_one.mp nodup name member
    · rw [(nodup.sublist counts.bad_inOrder).dedup]
      exact counts.failing

end Outcome

namespace Evaluation

open Routine Outcome

/-- The hosts that an expression looks at: the ones that were found, or for
logs and probes the listed ones, if there are any. -/
def lookedAt (check : Check) (hosts : List Host) : ExpressionKind → List String
  | .raw _ | .relative _ => hosts.map (·.name)
  | .log _ | .ping _ | .ssh _ | .http _ => targets check hosts
  | .operator _ => []

theorem lookedAt_nodup {check : Check} {hosts : List Host} (once : check.listedHosts.Nodup)
    (differ : (hosts.map (·.name)).Nodup) (kind : ExpressionKind) :
    (lookedAt check hosts kind).Nodup := by
  have targets_nodup : (targets check hosts).Nodup := by
    unfold targets
    split
    · exact differ
    · exact once
  cases kind with
  | raw e | relative e => exact differ
  | log e | ping e | ssh e | http e => exact targets_nodup
  | operator junction => exact .nil

/-! ## What an expression is evaluated to -/

theorem relativeHosts_names (clusterId : Int) (e : RelativeThreshold) (metricId : Option Int)
    (hosts : List Host) :
    Yields (fun verdicts => verdicts.map (·.1) = hosts.map (·.name))
      (relativeHosts clusterId e metricId hosts) := by
  induction hosts with
  | nil => exact .done [] rfl
  | cons host rest ih =>
    refine (Yields.always _).bind fun bad _ => ih.bind fun verdicts names => .done _ ?_
    rw [List.map_cons, names, List.map_cons]

theorem logHosts_names (clusterId : Int) (e : LogThreshold) (since : Instant)
    (names : List String) :
    Yields (fun verdicts => verdicts.map (·.1) = names) (logHosts clusterId e since names) := by
  induction names with
  | nil => exact .done [] rfl
  | cons name rest ih =>
    refine (Yields.always _).bind fun count _ => ih.bind fun verdicts names => .done _ ?_
    rw [List.map_cons, names]

theorem probe_tallies (e : Probe) (names : List String) :
    Yields (fun outcome => names ≠ [] → Tallies e.minHost names outcome) (probe e names) := by
  unfold probe
  split
  · next isEmpty => exact .done _ fun nonempty => absurd (List.isEmpty_iff.mp isEmpty) nonempty
  · refine (Yields.always _).bind fun reach _ => .done _ fun _ => ⟨_, ?_, rfl⟩
    exact List.map_fst_zip (by simp)

theorem raw_tallies (e : MetricThreshold) {hosts : List Host} (nonempty : hosts.map (·.name) ≠ []) :
    Tallies e.minHost (hosts.map (·.name)) (raw e hosts) := by
  have notEmpty : ¬ hosts.isEmpty = true := by simpa using nonempty
  rw [raw, if_neg notEmpty]
  exact ⟨_, by simp, rfl⟩

theorem relative_tallies (clusterId : Int) (e : RelativeThreshold) (hosts : List Host) :
    Yields (fun outcome => hosts.map (·.name) ≠ [] →
      Tallies e.minHost (hosts.map (·.name)) outcome) (relative clusterId e hosts) := by
  unfold relative
  split
  · next isEmpty => exact .done _ fun nonempty => absurd isEmpty (by simpa using nonempty)
  · refine (Yields.always _).bind fun found _ => ?_
    exact (relativeHosts_names clusterId e _ hosts).bind fun verdicts names =>
      .done _ fun _ => ⟨verdicts, names, rfl⟩

theorem log_tallies (clusterId : Int) (e : LogThreshold) (names : List String) :
    Yields (fun outcome => names ≠ [] → Tallies e.minHost names outcome)
      (log clusterId e names) := by
  unfold log
  split
  · next isEmpty => exact .done _ fun nonempty => absurd (List.isEmpty_iff.mp isEmpty) nonempty
  · refine (Yields.always _).bind fun now _ => (Yields.always _).bind fun since _ => ?_
    exact (logHosts_names clusterId e since names).bind fun verdicts names =>
      .done _ fun _ => ⟨verdicts, names, rfl⟩

theorem expression_tallies (check : Check) (hosts : List Host) {kind : ExpressionKind}
    {minHost : Nat} (counts : kind.minHost? = some minHost) :
    Yields (fun outcome => lookedAt check hosts kind ≠ [] →
        Tallies minHost (lookedAt check hosts kind) outcome)
      (expression check hosts kind) := by
  cases kind with
  | raw e =>
    obtain rfl := Option.some.inj counts
    exact .done _ (raw_tallies e)
  | relative e =>
    obtain rfl := Option.some.inj counts
    exact relative_tallies check.clusterId e hosts
  | log e =>
    obtain rfl := Option.some.inj counts
    exact log_tallies check.clusterId e (targets check hosts)
  | ping e =>
    obtain rfl := Option.some.inj counts
    exact probe_tallies (.ping e) (targets check hosts)
  | ssh e =>
    obtain rfl := Option.some.inj counts
    exact probe_tallies (.ssh e) (targets check hosts)
  | http e =>
    obtain rfl := Option.some.inj counts
    exact probe_tallies (.http e) (targets check hosts)
  | operator junction => cases counts

/-- An evaluated expression is the one of the check with an outcome that
tallies the hosts it looked at, if it is no operator and there were any. -/
structure Evaluated (check : Check) (hosts : List Host) (e evaluated : Expression) : Prop where
  kind : evaluated.kind = e.kind
  tallies : ∀ minHost, e.kind.minHost? = some minHost → lookedAt check hosts e.kind ≠ [] →
    Tallies minHost (lookedAt check hosts e.kind) evaluated.result

theorem expressions_evaluated (check : Check) (hosts : List Host) (list : List Expression) :
    Yields (List.Forall₂ (Evaluated check hosts) list) (expressions check hosts list) := by
  induction list with
  | nil => exact .done [] .nil
  | cons e rest ih =>
    have goesOn : ∀ outcome, Evaluated check hosts e { e with result := outcome } →
        Yields (List.Forall₂ (Evaluated check hosts) (e :: rest)) (do
          let evaluated ← expressions check hosts rest
          pure ({ e with result := outcome } :: evaluated)) :=
      fun outcome first => ih.bind fun evaluated others => .done _ (.cons first others)
    cases counts : e.kind.minHost? with
    | none =>
      exact (Yields.always _).bind fun outcome _ =>
        goesOn outcome ⟨rfl, fun minHost given => by simp [counts] at given⟩
    | some minHost =>
      refine (expression_tallies check hosts counts).bind fun outcome tallies =>
        goesOn outcome ⟨rfl, fun other given => ?_⟩
      obtain rfl := Option.some.inj (counts.symm.trans given)
      exact tallies

/-- Hosts that are counted: in every expression other than an operator that had
hosts to look at, each entry of what it looked at is sorted and the bad entries
are counted.  These are the different hosts, each of them once, exactly if what
it looked at holds no name twice; and so it is for a query, and for a list that
names no host twice. -/
theorem evaluation_counts_hosts {σ : Type}
    (answer : (request : Request) → σ → request.Answer × σ) {store : Store}
    (keeps : store.KeepsHosts) {now : Instant} {freshness : Span} {check : Check}
    {hosts : List Host} (told : store.hostsOf now freshness check = .ok hosts) {s found later : σ}
    (resolved : (resolve freshness check).run answer s = (some (.ok hosts), found))
    {list : List Expression} {failing : Bool}
    (ran : (evaluate freshness check).run answer s = (some (.ok (list, failing)), later)) :
    List.Forall₂ (fun e evaluated => evaluated.kind = e.kind ∧
        ∀ minHost, e.kind.minHost? = some minHost → lookedAt check hosts e.kind ≠ [] →
          evaluated.result.CountsEntries minHost (lookedAt check hosts e.kind) ∧
          (evaluated.result.CountsHosts minHost (lookedAt check hosts e.kind) ↔
            (lookedAt check hosts e.kind).Nodup) ∧
          (check.listedHosts.Nodup →
            evaluated.result.CountsHosts minHost (lookedAt check hosts e.kind)))
      check.expressions list := by
  -- What the hosts are is settled; only the expressions are left to run.
  have yields : Yields (fun result => ∀ list failing, result = Except.ok (list, failing) →
      List.Forall₂ (Evaluated check hosts) check.expressions list) (do
        let evaluated ← expressions check hosts check.expressions
        pure (.ok (evaluated, Verdict.reduce evaluated) :
          Except EvaluationError (List Expression × Bool))) :=
    (expressions_evaluated check hosts check.expressions).bind fun evaluated each =>
      .done _ fun list failing same => (Prod.mk.inj (Except.ok.inj same)).1 ▸ each
  have ranOn := (run_bind_some answer _ _ s found (.ok hosts) resolved).symm.trans ran
  have each := yields.run answer found later _ ranOn list failing rfl
  have differ := keeps.hostsOf_nodup told
  refine each.imp fun e evaluated isSo => ⟨isSo.kind, fun minHost given nonempty => ?_⟩
  have counts := (isSo.tallies minHost given nonempty).countsEntries
  exact ⟨counts, counts.countsHosts_iff, fun once =>
    counts.countsHosts_iff.mpr (lookedAt_nodup once (differ once) e.kind)⟩

/-- A store to which two hosts of a cluster reported, and one of another cluster
with the name of one of them. -/
def pairStore : Store :=
  [Write.host 1 ⟨"web", ⟨0⟩, [], []⟩, .host 2 ⟨"web", ⟨0⟩, [], []⟩,
    .host 1 ⟨"mail", ⟨0⟩, [], []⟩].foldl Store.after (.memory .empty)

def webDown (store : Store) : Surroundings :=
  { quietAround store with silence := ⟨["web"], [], []⟩ }

def pairCheck : Check where
  id := 1
  clusterId := 1
  name := "pair"
  interval := "1m"
  hosts := .query "hostname != db"
  expressions :=
    [.ofKind (.ping ⟨2⟩), .ofKind (.operator .or), .ofKind (.raw ⟨"load", .greater, 1, 2⟩)]
  triggers := []
  silenced := false

def pairFound : List Expression :=
  [⟨.ping ⟨2⟩, ⟨false, "", ["web"], ["mail"]⟩⟩, ⟨.operator .or, .empty⟩,
    ⟨.raw ⟨"load", .greater, 1, 2⟩, ⟨true, "", ["mail", "web"], []⟩⟩]

theorem pair_is_counted :
    ∃ hosts, pairStore.KeepsHosts ∧ pairStore.hostsOf ⟨0⟩ ⟨1000⟩ pairCheck = .ok hosts ∧
      ((resolve ⟨1000⟩ pairCheck).runIn (webDown pairStore)) =
        (some (.ok hosts), webDown pairStore) ∧
      ((evaluate ⟨1000⟩ pairCheck).runIn (webDown pairStore)) =
        (some (.ok (pairFound, true)), webDown pairStore) ∧
      CountsHosts 2 ["mail", "web"] ⟨false, "", ["web"], ["mail"]⟩ ∧
      CountsHosts 2 ["mail", "web"] ⟨true, "", ["mail", "web"], []⟩ := by
  have keeps : pairStore.KeepsHosts := Store.KeepsHosts.empty.writes _
  have told : pairStore.hostsOf ⟨0⟩ ⟨1000⟩ pairCheck =
      .ok [⟨"mail", ⟨0⟩, [], []⟩, ⟨"web", ⟨0⟩, [], []⟩] := rfl
  have resolved : (resolve ⟨1000⟩ pairCheck).run Surroundings.answer (webDown pairStore) =
      (some (.ok [⟨"mail", ⟨0⟩, [], []⟩, ⟨"web", ⟨0⟩, [], []⟩]), webDown pairStore) := rfl
  have ran : (evaluate ⟨1000⟩ pairCheck).run Surroundings.answer (webDown pairStore) =
      (some (.ok (pairFound, true)), webDown pairStore) := rfl
  have each := evaluation_counts_hosts Surroundings.answer keeps told resolved ran
  obtain ⟨⟨-, ping⟩, rest⟩ := List.forall₂_cons.mp each
  obtain ⟨-, rest⟩ := List.forall₂_cons.mp rest
  obtain ⟨⟨-, raw⟩, -⟩ := List.forall₂_cons.mp rest
  exact ⟨_, keeps, told, resolved, ran, (ping 2 rfl (by decide)).2.2 .nil,
    (raw 2 rfl (by decide)).2.2 .nil⟩

def listedCheck (names : List String) : Check :=
  { pairCheck with hosts := .list names, expressions := [.ofKind (.ping ⟨2⟩)] }

/-- A host that a list names twice is bad twice, and alone makes two bad hosts. -/
theorem repeated_host_counts_twice :
    ((evaluate ⟨1000⟩ (listedCheck ["web", "web"])).runIn (webDown (.memory .empty))).1 =
        some (.ok ([⟨.ping ⟨2⟩, ⟨true, "", ["web", "web"], []⟩⟩], true)) ∧
      (["web", "web"] : List String).dedup.length < 2 ∧
      ¬ CountsHosts 2 ["web", "web"] ⟨true, "", ["web", "web"], []⟩ := by
  refine ⟨rfl, by decide, fun counts => ?_⟩
  have few := counts.failing.mp rfl
  exact absurd few (by decide)

end Evaluation

end FleetMonitor
