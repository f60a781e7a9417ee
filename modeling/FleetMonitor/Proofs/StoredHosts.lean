import FleetMonitor.Proofs.Filing
import FleetMonitor.Proofs.Likeness
import FleetMonitor.Proofs.Rows
import FleetMonitor.Surroundings

/-!
# The hosts of a stored check

A check that is written to a store and read back looks at the hosts it looked at before, in
whatever surroundings it is evaluated.  The one exception is by design: a query of blanks,
which selects every fresh host, has no columns of its own and is stored as a list of none.
-/

set_option autoImplicit false

namespace FleetMonitor

/-! ## Rows by their ids -/

structure Keyed (rows : List (Int × StoredCheck)) : Prop where
  ascending : rows.Pairwise fun a b => a.1 < b.1
  ids : ∀ entry ∈ rows, entry.1 = entry.2.id

variable {rows : List (Int × StoredCheck)} {row : StoredCheck}

theorem Keyed.inOrder (keyed : Keyed rows) : Ascending (fun a b : Int => decide (a < b)) rows :=
  keyed.ascending.imp fun less => decide_eq_true less

theorem Keyed.putRow (keyed : Keyed rows) (row : StoredCheck) : Keyed (putRow rows row) := by
  refine ⟨(keyed.inOrder.putSorted ordersIds row.id row).imp of_decide_eq_true, ?_⟩
  intro entry member
  rcases of_mem_putSorted member with rfl | old
  · rfl
  · exact keyed.ids entry old

namespace Store

def checkRows : Store → List (Int × StoredCheck)
  | memory store => store.checks
  | file store => store.checks

def Keeps (store : Store) : Prop :=
  Keyed store.checkRows

theorem insertCheck_rows {store later : Store} {check : Check}
    (inserted : store.insertCheck check = .ok later) :
    later.checkRows = putRow store.checkRows (StoredCheck.ofCheck check) ∧
      later.allChecks = .ok (later.checkRows.map (·.2)) := by
  cases store with
  | memory store =>
      obtain rfl := Except.ok.inj inserted
      exact ⟨rfl, rfl⟩
  | file store =>
      simp only [insertCheck, FileStore.insertCheck, FileStore.whenOpen] at inserted
      cases isOpen : store.isOpen with
      | false => rw [isOpen] at inserted; cases inserted
      | true =>
          rw [isOpen] at inserted
          obtain rfl := Except.ok.inj inserted
          refine ⟨rfl, ?_⟩
          simp [allChecks, FileStore.allChecks, FileStore.whenOpen, checkRows]

theorem Keeps.insertCheck {store later : Store} (keeps : store.Keeps) {check : Check}
    (inserted : store.insertCheck check = .ok later) : later.Keeps := by
  unfold Keeps
  rw [(insertCheck_rows inserted).1]
  exact Keyed.putRow keeps _

def hostRows : Store → List ((Int × String) × Host)
  | memory store => store.hosts
  | file store => store.hosts

/-- Only a write of a check touches a row of a check, and only a report of a host one of a
host. -/
theorem after_rows (store : Store) (write : Write) :
    ((∀ definition, write ≠ .check definition) →
        (store.after write).checkRows = store.checkRows) ∧
      ((∀ clusterId report, write ≠ .host clusterId report) →
        (store.after write).hostRows = store.hostRows) := by
  cases write with
  | check definition =>
      refine ⟨fun other => absurd rfl (other definition), fun _ => ?_⟩
      cases store with
      | memory store => rfl
      | file store =>
          simp only [after, insertCheck, FileStore.insertCheck, FileStore.whenOpen]
          cases store.isOpen <;> rfl
  | host clusterId report =>
      refine ⟨fun _ => ?_, fun other => absurd rfl (other clusterId report)⟩
      cases store with
      | memory store => rfl
      | file store =>
          simp only [after, upsertHost, FileStore.upsertHost, FileStore.whenOpen]
          cases store.isOpen <;> rfl
  | sample m =>
      cases store with
      | memory store => exact ⟨fun _ => rfl, fun _ => rfl⟩
      | file store =>
          simp only [after, addSample, FileStore.addSample, FileStore.whenOpen]
          cases store.isOpen <;> exact ⟨fun _ => rfl, fun _ => rfl⟩
  | log line =>
      cases store with
      | memory store => exact ⟨fun _ => rfl, fun _ => rfl⟩
      | file store =>
          simp only [after, addLog, FileStore.addLog, FileStore.whenOpen]
          cases store.isOpen <;> exact ⟨fun _ => rfl, fun _ => rfl⟩
  | retention clusterId table days =>
      cases store with
      | memory store => exact ⟨fun _ => rfl, fun _ => rfl⟩
      | file store =>
          simp only [after, setRetention, FileStore.setRetention, FileStore.retentionMap,
            FileStore.putRetentionMap, FileStore.whenOpen]
          cases store.isOpen <;> exact ⟨fun _ => rfl, fun _ => rfl⟩
  | record now clusterId checkId failing expressions seconds =>
      simp only [after, create]
      cases now.plus? seconds with
      | none => exact ⟨fun _ => rfl, fun _ => rfl⟩
      | some expires =>
          cases store with
          | memory store => exact ⟨fun _ => rfl, fun _ => rfl⟩
          | file store =>
              simp only [addRecord, FileStore.addRecord, FileStore.whenOpen]
              cases store.isOpen <;> exact ⟨fun _ => rfl, fun _ => rfl⟩

theorem Keeps.after {store : Store} (keeps : store.Keeps) (write : Write) :
    (store.after write).Keeps := by
  by_cases isCheck : ∃ definition, write = .check definition
  · obtain ⟨definition, rfl⟩ := isCheck
    change ((store.insertCheck definition).toOption.getD store).Keeps
    cases inserted : store.insertCheck definition with
    | error cause => exact keeps
    | ok later => exact keeps.insertCheck inserted
  · unfold Keeps
    rw [(after_rows store write).1 fun definition same => isCheck ⟨definition, same⟩]
    exact keeps

theorem Keeps.writes {store : Store} (keeps : store.Keeps) (writes : List Write) :
    (writes.foldl Store.after store).Keeps := by
  induction writes generalizing store with
  | nil => exact keeps
  | cons write writes ih => exact ih (keeps.after write)

theorem Keeps.empty : (memory .empty).Keeps :=
  ⟨.nil, List.forall_mem_nil _⟩

theorem Keeps.create (path : String) : (file (.create path)).Keeps :=
  ⟨.nil, List.forall_mem_nil _⟩

end Store

/-! ## Hosts -/

/-- The check that is read back from rows looks at the hosts that the check looks at. -/
structure Check.FoundIn (check : Check) (rows : List StoredCheck) : Prop where
  filed : StoredCheck.ofCheck check ∈ rows
  only : ∀ row ∈ rows, row.id = check.id → row = StoredCheck.ofCheck check
  readable : check.InRange → check.ReadsBack →
    ∃ back, (StoredCheck.ofCheck check).definition? = .ok back
  /-- The same is asked for hosts, so the same hosts are found whatever the store holds and
  whatever the clock shows. -/
  resolves : ∀ row ∈ rows, row.id = check.id → ∀ back, row.definition? = .ok back →
    ∀ freshness, Evaluation.resolve freshness back = Evaluation.resolve freshness check
  targets : ∀ row ∈ rows, row.id = check.id → ∀ back, row.definition? = .ok back →
    ∀ hosts, Evaluation.targets back hosts = Evaluation.targets check hosts

/-- Writing a check to a store does not change which hosts it is evaluated against, unless it
has a query of nothing but blanks. -/
theorem Store.insertCheck_keeps_hosts {store later : Store} {check : Check}
    (keeps : store.Keeps) (inserted : store.insertCheck check = .ok later)
    (asks : ∀ text, check.hosts = .query text → Text.allBlank text = false) :
    ∃ rows, later.allChecks = .ok rows ∧ check.FoundIn rows := by
  obtain ⟨isRows, listed⟩ := insertCheck_rows inserted
  have keyed : Keyed later.checkRows := keeps.insertCheck inserted
  have filed : ((StoredCheck.ofCheck check).id, StoredCheck.ofCheck check) ∈ later.checkRows := by
    rw [isRows]
    exact mem_putSorted _ _ _ _
  have only : ∀ row ∈ later.checkRows.map (·.2), row.id = check.id →
      row = StoredCheck.ofCheck check := by
    intro row member same
    obtain ⟨entry, ofEntry, rfl⟩ := List.mem_map.mp member
    have isKey : entry.1 = (StoredCheck.ofCheck check).id := (keyed.ids entry ofEntry).trans same
    exact congrArg Prod.snd (keyed.inOrder.eq_of_key ordersIds ofEntry filed isKey)
  have asked : check.hosts.filed = check.hosts := by
    cases hosts : check.hosts with
    | list names => rfl
    | query text => exact if_neg (ne_true_of_eq_false (asks text hosts))
  have hosts : ∀ row ∈ later.checkRows.map (·.2), row.id = check.id → ∀ back,
      row.definition? = .ok back → back.hosts = check.hosts ∧ back.clusterId = check.clusterId := by
    intro row member same back read
    obtain ⟨found, -, -, selected, -, -, rfl⟩ := StoredCheck.definition?_cases read
    obtain rfl := only row member same
    rw [StoredCheck.selection?_ofCheck, asked] at selected
    exact ⟨(Except.ok.inj selected).symm, rfl⟩
  refine ⟨_, listed, List.mem_map_of_mem filed, only, ?_, ?_, ?_⟩
  · exact fun inRange back => ⟨_, StoredCheck.definition?_ofCheck inRange back⟩
  · intro row member same back read freshness
    obtain ⟨sameHosts, sameCluster⟩ := hosts row member same back read
    unfold Evaluation.resolve
    rw [sameHosts, sameCluster]
  · intro row member same back read found
    obtain ⟨sameHosts, -⟩ := hosts row member same back read
    unfold Evaluation.targets Check.listedHosts
    rw [sameHosts]

def webCheck (query : String) : Check where
  id := 1
  clusterId := 1
  name := "web"
  interval := "1m"
  hosts := .query query
  expressions := [.ofKind (.ping ⟨1⟩)]
  triggers := []
  silenced := false

def webStore : Store :=
  [Write.host 1 ⟨"web", ⟨0⟩, [], []⟩, .check (webCheck "hostname = \"mail\"")].foldl Store.after
    (.memory .empty)

theorem web_query_is_read_back :
    ∃ later rows, webStore.insertCheck (webCheck "hostname = \"web\"") = .ok later ∧
      later.allChecks = .ok rows ∧ (webCheck "hostname = \"web\"").FoundIn rows := by
  have asks : ∀ text, (webCheck "hostname = \"web\"").hosts = .query text →
      Text.allBlank text = false := by
    intro text same
    obtain rfl := Selection.query.inj same
    decide +kernel
  have keeps : webStore.Keeps := Store.Keeps.empty.writes _
  have inserted : webStore.insertCheck (webCheck "hostname = \"web\"") = .ok _ := rfl
  obtain ⟨rows, listed, found⟩ := Store.insertCheck_keeps_hosts keeps inserted asks
  exact ⟨_, rows, inserted, listed, found⟩

def quietAround (store : Store) : Surroundings where
  now := ⟨0⟩
  store := store
  foreignRows := []
  faults := []
  silence := ⟨[], [], []⟩
  probeDelay := ⟨0⟩
  mailReply := fun _ => .ok ()
  pageReply := fun _ _ => .ok ""
  outbox := ⟨[], []⟩
  keys := .empty

/-- A check with an empty query looks at every fresh host; read back from its row, it looks at
none. -/
theorem empty_query_is_stored_as_no_hosts :
    ∃ later, webStore.insertCheck (webCheck "") = .ok later ∧
      later.allChecks = .ok [StoredCheck.ofCheck (webCheck "")] ∧
      (StoredCheck.ofCheck (webCheck "")).definition? =
        .ok { webCheck "" with hosts := .list [] } ∧
      ((Evaluation.resolve ⟨1000000000⟩ (webCheck "")).runIn (quietAround later)).1 =
        some (.ok [⟨"web", ⟨0⟩, [], []⟩]) ∧
      ((Evaluation.resolve ⟨1000000000⟩ { webCheck "" with hosts := .list [] }).runIn
        (quietAround later)).1 = some (.ok []) := by
  have readable : (StoredCheck.ofCheck (webCheck "")).definition? =
      .ok { webCheck "" with hosts := .list [] } :=
    StoredCheck.definition?_eq_ok (by decide +kernel)
  refine ⟨_, rfl, ?_, readable, ?_, ?_⟩
  · rfl
  · rfl
  · rfl

end FleetMonitor
