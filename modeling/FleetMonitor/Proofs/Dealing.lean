import FleetMonitor.Daemon
import Mathlib

/-!
# One deal for all daemons

Every daemon reads the rows for itself, lists the daemons that it sees and keeps
its own hand.  Daemons that see each other list the same names in the same order,
and rows with distinct ids have one order however they were read.  So the hands
of all daemons come from one deal.
-/

set_option autoImplicit false

namespace FleetMonitor

namespace Dealing

/-! ## The order of the deal -/

theorem order_perm (checks : List Check) : (order checks).Perm checks :=
  List.mergeSort_perm checks _

theorem order_descending (checks : List Check) :
    (order checks).Pairwise fun a b => b.id ≤ a.id := by
  have sorted : (order checks).Pairwise fun a b => decide (b.id ≤ a.id) = true := by
    apply List.pairwise_mergeSort
    · intro a b c first second
      simp only [decide_eq_true_eq] at *
      exact Int.le_trans second first
    · intro a b
      simp only [Bool.or_eq_true, decide_eq_true_eq]
      exact Int.le_total _ _
  exact sorted.imp fun holds => of_decide_eq_true holds

theorem order_eq_of_perm (checks others : List Check) (same : checks.Perm others)
    (distinct : (checks.map (·.id)).Nodup) : order checks = order others := by
  have perm : (order checks).Perm (order others) :=
    (order_perm checks).trans (same.trans (order_perm others).symm)
  apply perm.eq_of_pairwise _ (order_descending checks) (order_descending others)
  intro a b aMem bMem down up
  have aIn : a ∈ checks := (order_perm checks).mem_iff.mp aMem
  have bIn : b ∈ checks := same.mem_iff.mpr ((order_perm others).mem_iff.mp bMem)
  exact List.inj_on_of_nodup_map distinct aIn bIn (Int.le_antisymm up down)

/-! ## Hands -/

/-- Items that are sorted into pots by a key, every key with a pot, fill the pots
together exactly once. -/
theorem pots_perm {α κ : Type} [DecidableEq κ] (pots : List κ) (key : α → Option κ)
    (items : List α) (distinct : pots.Nodup)
    (covered : ∀ item ∈ items, ∃ pot ∈ pots, key item = some pot) :
    (pots.flatMap fun pot => items.filter fun item => key item == some pot).Perm items := by
  induction pots generalizing items with
  | nil =>
      cases items with
      | nil => exact List.Perm.refl _
      | cons item rest =>
          obtain ⟨pot, member, _⟩ := covered item (by simp)
          simp at member
  | cons pot rest ih =>
      obtain ⟨fresh, restDistinct⟩ := List.nodup_cons.mp distinct
      let others := items.filter fun item => !(key item == some pot)
      have othersCovered : ∀ item ∈ others, ∃ other ∈ rest, key item = some other := by
        intro item member
        obtain ⟨itemMem, notPot⟩ := List.mem_filter.mp member
        obtain ⟨other, otherMem, keyEq⟩ := covered item itemMem
        rcases List.mem_cons.mp otherMem with rfl | inRest
        · simp [keyEq] at notPot
        · exact ⟨other, inRest, keyEq⟩
      -- Items of the other pots are not in this one.
      have restEq : (rest.flatMap fun other => items.filter fun item => key item == some other) =
          rest.flatMap fun other => others.filter fun item => key item == some other := by
        refine List.flatMap_congr fun other otherMem => ?_
        rw [List.filter_filter]
        refine List.filter_congr fun item _ => ?_
        have ne : other ≠ pot := fun eq => fresh (eq ▸ otherMem)
        by_cases isOther : key item = some other
        · simp [isOther, ne]
        · simp [isOther]
      rw [List.flatMap_cons, restEq]
      exact ((ih others restDistinct othersCovered).append_left _).trans
        (List.filter_append_perm _ items)

theorem turn_mem (daemons : List String) (seated : daemons ≠ []) (turn : Nat) :
    ∃ daemon ∈ daemons, daemons[turn % daemons.length]? = some daemon := by
  have bound : turn % daemons.length < daemons.length :=
    Nat.mod_lt _ (List.length_pos_iff.mpr seated)
  exact ⟨daemons[turn % daemons.length], List.getElem_mem bound, List.getElem?_eq_getElem bound⟩

theorem hands_perm (checks : List Check) (daemons : List String) (seated : daemons ≠ [])
    (distinct : daemons.Nodup) :
    (daemons.flatMap (hand checks daemons)).Perm checks := by
  have dealt := pots_perm daemons (fun item : Check × Nat => daemons[item.2 % daemons.length]?)
    (order checks).zipIdx distinct fun item _ => turn_mem daemons seated item.2
  have firsts := dealt.map Prod.fst
  rw [List.map_flatMap, List.zipIdx_map_fst] at firsts
  exact firsts.trans (order_perm checks)

theorem hand_length (checks : List Check) (daemons : List String) (daemon : String) :
    (hand checks daemons daemon).length =
      checks.length.count fun turn => daemons[turn % daemons.length]? = some daemon := by
  have turns : (order checks).zipIdx.map Prod.snd = List.range checks.length := by
    rw [List.zipIdx_map_snd, (order_perm checks).length_eq, List.range_eq_range']
  rw [hand, List.length_map, Nat.count, ← turns, List.countP_map, List.countP_eq_length_filter]
  congr 1
  refine List.filter_congr fun item _ => ?_
  exact beq_eq_decide _ _

/-- The seat of one of distinct daemons comes up in every round once. -/
theorem hand_length_bounds (checks : List Check) (daemons : List String) (daemon : String)
    (distinct : daemons.Nodup) (member : daemon ∈ daemons) :
    checks.length / daemons.length ≤ (hand checks daemons daemon).length ∧
      (hand checks daemons daemon).length ≤ checks.length / daemons.length + 1 := by
  obtain ⟨seat, bound, rfl⟩ := List.getElem_of_mem member
  have turnIff : ∀ turn, daemons[turn % daemons.length]? = some daemons[seat] ↔
      turn ≡ seat [MOD daemons.length] := by
    intro turn
    have turnBound : turn % daemons.length < daemons.length := Nat.mod_lt _ (by omega)
    rw [List.getElem?_eq_getElem turnBound, Option.some.injEq, distinct.getElem_inj_iff,
      Nat.ModEq, Nat.mod_eq_of_lt bound]
  have counted : (hand checks daemons daemons[seat]).length =
      checks.length.count (· ≡ seat [MOD daemons.length]) := by
    rw [hand_length]
    simp only [turnIff]
  rw [counted, Nat.count_modEq_card _ (by omega)]
  split <;> omega

/-! ## What a daemon reads -/

theorem definition?_id (row : StoredCheck) (check : Check)
    (read : row.definition? = .ok check) : check.id = row.id := by
  obtain ⟨-, -, -, -, -, -, rfl⟩ := StoredCheck.definition?_cases read
  rfl

theorem readable_ids (rows : List StoredCheck) :
    ((readable rows).map (·.id)).Sublist (rows.map (·.id)) := by
  induction rows with
  | nil => exact List.Sublist.refl _
  | cons row rest ih =>
      cases read : row.definition? with
      | error e =>
          simp only [readable, List.filterMap_cons, read, Except.toOption, List.map_cons]
          exact ih.cons _
      | ok check =>
          simp only [readable, List.filterMap_cons, read, Except.toOption, List.map_cons]
          rw [definition?_id row check read]
          exact ih.cons_cons _

theorem mem_readable_iff (rows : List StoredCheck) (check : Check) :
    check ∈ readable rows ↔ ∃ row ∈ rows, row.definition? = .ok check := by
  rw [readable, List.mem_filterMap]
  refine exists_congr fun row => and_congr_right fun _ => ?_
  cases row.definition? <;> simp [Except.toOption]

theorem readable_distinct (rows : List StoredCheck) (distinct : (rows.map (·.id)).Nodup) :
    ((readable rows).map (·.id)).Nodup :=
  distinct.sublist (readable_ids rows)

theorem readable_perm (rows others : List StoredCheck) (same : rows.Perm others) :
    (readable rows).Perm (readable others) :=
  same.filterMap _

theorem readable_filter (rows : List StoredCheck) :
    readable (rows.filter fun row => row.definition?.isOk) = readable rows := by
  rw [readable, List.filterMap_filter]
  refine List.filterMap_congr fun row _ => ?_
  cases read : row.definition? <;> simp [Except.isOk, Except.toBool, Except.toOption]

theorem hand_eq_of_perm (checks others : List Check) (daemons : List String)
    (daemon : String) (same : checks.Perm others) (distinct : (checks.map (·.id)).Nodup) :
    hand checks daemons daemon = hand others daemons daemon := by
  rw [hand, hand, order_eq_of_perm checks others same distinct]

end Dealing

namespace Peers

/-! ## Who shares the checks -/

theorem eraseDups_nodup {α : Type} [BEq α] [LawfulBEq α] (items : List α) :
    items.eraseDups.Nodup := by
  match items with
  | [] => simp
  | item :: rest =>
      rw [List.eraseDups_cons, List.nodup_cons]
      refine ⟨?_, eraseDups_nodup (rest.filter fun other => !other == item)⟩
      intro member
      have inRest := List.mem_eraseDups.mp member
      simp at inRest
termination_by items.length
decreasing_by
  have := List.length_filter_le (fun other => !other == item) rest
  simp only [List.length_cons]
  omega

theorem eraseDups_sublist {α : Type} [BEq α] [LawfulBEq α] (items : List α) :
    items.eraseDups.Sublist items := by
  match items with
  | [] => simp
  | item :: rest =>
      rw [List.eraseDups_cons]
      exact ((eraseDups_sublist (rest.filter fun other => !other == item)).trans
        List.filter_sublist).cons_cons item
termination_by items.length
decreasing_by
  have := List.length_filter_le (fun other => !other == item) rest
  simp only [List.length_cons]
  omega

theorem daemons_ascending (peers : Peers) (now : Span) (self : String) :
    (peers.daemons now self).Pairwise (· ≤ ·) := by
  have sorted : ((self :: peers.all now).mergeSort fun a b => decide (a ≤ b)).Pairwise
      fun a b => decide (a ≤ b) = true := by
    apply List.pairwise_mergeSort
    · intro a b c first second
      simp only [decide_eq_true_eq] at *
      exact String.le_trans first second
    · intro a b
      simp only [Bool.or_eq_true, decide_eq_true_eq]
      exact String.le_total a b
  exact (sorted.imp fun holds => of_decide_eq_true holds).sublist (eraseDups_sublist _)

theorem mem_daemons (peers : Peers) (now : Span) (self address : String) :
    address ∈ peers.daemons now self ↔ address = self ∨ address ∈ peers.all now := by
  rw [daemons, List.mem_eraseDups, List.mem_mergeSort, List.mem_cons]

theorem daemons_eq_sort (peers : Peers) (now : Span) (self : String) (all : Finset String)
    (seen : insert self (peers.all now).toFinset = all) :
    peers.daemons now self = all.sort (· ≤ ·) := by
  have distinct : (peers.daemons now self).Nodup := eraseDups_nodup _
  have members : (peers.daemons now self).toFinset = all := by
    ext address
    rw [List.mem_toFinset, mem_daemons, ← seen, Finset.mem_insert, List.mem_toFinset]
  rw [← members]
  exact ((List.toFinset_sort _ distinct).mpr (daemons_ascending peers now self)).symm

end Peers

namespace Daemon

/-! ## The shares of daemons that see each other -/

/-- Daemons, each at its own address and its own time, that see exactly each other. -/
structure Assembly (all : Finset String) (fleet : String → Daemon) (now : String → Span) :
    Prop where
  named : ∀ address ∈ all, (fleet address).address = address
  seen : ∀ address ∈ all,
    insert address ((fleet address).peers.all (now address)).toFinset = all

/-- A daemon of an assembly takes its hand from the one deal, whatever stands in
rows that cannot be read. -/
theorem share_eq_hand (all : Finset String) (fleet : String → Daemon) (now : String → Span)
    (assembly : Assembly all fleet now) (rows others : List StoredCheck)
    (distinct : (rows.map (·.id)).Nodup)
    (same : (Dealing.readable rows).Perm (Dealing.readable others))
    (address : String) (member : address ∈ all) :
    (fleet address).share (now address) others =
      Dealing.hand (Dealing.readable rows) (all.sort (· ≤ ·)) address := by
  rw [share, assembly.named address member,
    Peers.daemons_eq_sort _ _ _ all (assembly.seen address member)]
  exact (Dealing.hand_eq_of_perm _ _ _ _ same (Dealing.readable_distinct rows distinct)).symm

/-- The shares, one after another in the order of the addresses, are a deal of the checks whose
rows can be read. -/
theorem shares_perm (all : Finset String) (someone : all.Nonempty) (fleet : String → Daemon)
    (now : String → Span) (assembly : Assembly all fleet now) (rows : List StoredCheck)
    (distinct : (rows.map (·.id)).Nodup) (reading : String → List StoredCheck)
    (read : ∀ address ∈ all, (reading address).Perm rows) :
    ((all.sort (· ≤ ·)).flatMap fun address =>
      (fleet address).share (now address) (reading address)).Perm (Dealing.readable rows) := by
  have seated : all.sort (· ≤ ·) ≠ [] := by
    obtain ⟨address, member⟩ := someone
    exact List.ne_nil_of_mem ((Finset.mem_sort _).mpr member)
  have hands : ((all.sort (· ≤ ·)).flatMap fun address =>
      (fleet address).share (now address) (reading address)) =
        (all.sort (· ≤ ·)).flatMap (Dealing.hand (Dealing.readable rows) (all.sort (· ≤ ·))) := by
    refine List.flatMap_congr fun address seat => ?_
    have member := (Finset.mem_sort _).mp seat
    exact share_eq_hand all fleet now assembly rows _ distinct
      (Dealing.readable_perm _ _ (read address member).symm) address member
  rw [hands]
  exact Dealing.hands_perm (Dealing.readable rows) _ seated (Finset.sort_nodup _ _)

/-- Daemons that see exactly each other share the checks among them: no check goes to two of
them, none goes to one of them twice, the checks that they have are those of the rows that can
be read, their shares differ by at most one check, and rows that cannot be read change
nothing. -/
theorem assembly_shares_rows_once (all : Finset String) (someone : all.Nonempty)
    (fleet : String → Daemon) (now : String → Span) (assembly : Assembly all fleet now)
    (rows : List StoredCheck) (distinct : (rows.map (·.id)).Nodup)
    (reading : String → List StoredCheck)
    (read : ∀ address ∈ all, (reading address).Perm rows) :
    let shareOf := fun address => (fleet address).share (now address) (reading address)
    (∀ one ∈ all, ∀ other ∈ all, one ≠ other →
        List.Disjoint ((shareOf one).map (·.id)) ((shareOf other).map (·.id))) ∧
      (∀ address ∈ all, ((shareOf address).map (·.id)).Nodup) ∧
      (∀ check, (∃ address ∈ all, check ∈ shareOf address) ↔
        ∃ row ∈ rows, row.definition? = .ok check) ∧
      (∀ one ∈ all, ∀ other ∈ all, (shareOf one).length ≤ (shareOf other).length + 1) ∧
      (∀ address ∈ all, ∀ others : List StoredCheck,
        (others.filter fun row => row.definition?.isOk).Perm
            (rows.filter fun row => row.definition?.isOk) →
          (fleet address).share (now address) others = shareOf address) := by
  intro shareOf
  have shareEq : ∀ address ∈ all,
      shareOf address = Dealing.hand (Dealing.readable rows) (all.sort (· ≤ ·)) address :=
    fun address member => share_eq_hand all fleet now assembly rows _ distinct
      (Dealing.readable_perm _ _ (read address member).symm) address member
  have dealt : ((all.sort (· ≤ ·)).flatMap shareOf).Perm (Dealing.readable rows) :=
    shares_perm all someone fleet now assembly rows distinct reading read
  have ids : (((all.sort (· ≤ ·)).flatMap shareOf).map (·.id)).Nodup :=
    (dealt.map _).nodup_iff.mpr (Dealing.readable_distinct rows distinct)
  rw [List.map_flatMap] at ids
  obtain ⟨eachOnce, apart⟩ := List.nodup_flatMap.mp ids
  refine ⟨?_, fun address member => eachOnce address ((Finset.mem_sort _).mpr member), ?_, ?_, ?_⟩
  · intro one oneMem other otherMem ne
    have symmetric : Std.Symm (Function.onFun List.Disjoint fun address =>
        (shareOf address).map (·.id)) := ⟨fun _ _ disjoint => List.Disjoint.symm disjoint⟩
    exact apart.forall ((Finset.mem_sort _).mpr oneMem) ((Finset.mem_sort _).mpr otherMem) ne
  · intro check
    rw [← Dealing.mem_readable_iff, ← dealt.mem_iff, List.mem_flatMap]
    simp only [Finset.mem_sort]
  · intro one oneMem other otherMem
    have oneBounds := Dealing.hand_length_bounds (Dealing.readable rows) (all.sort (· ≤ ·)) one
      (Finset.sort_nodup _ _) ((Finset.mem_sort _).mpr oneMem)
    have otherBounds := Dealing.hand_length_bounds (Dealing.readable rows) (all.sort (· ≤ ·))
      other (Finset.sort_nodup _ _) ((Finset.mem_sort _).mpr otherMem)
    rw [shareEq one oneMem, shareEq other otherMem]
    omega
  · intro address member others same
    have readSame : (Dealing.readable rows).Perm (Dealing.readable others) := by
      rw [← Dealing.readable_filter rows, ← Dealing.readable_filter others]
      exact Dealing.readable_perm _ _ same.symm
    rw [share_eq_hand all fleet now assembly rows others distinct readSame address member,
      shareEq address member]

def pair (address : String) : Daemon :=
  { spawn { address } ⟨[], false, ""⟩ .empty ⟨0⟩ with
    peers := if address = "a" then ⟨[("b", ⟨9⟩), ("c", ⟨2⟩)]⟩ else ⟨[("b", ⟨9⟩), ("a", ⟨8⟩)]⟩ }

def pairTimes (address : String) : Span :=
  if address = "a" then ⟨3⟩ else ⟨4⟩

def threeRows : List StoredCheck :=
  [⟨1, 1, "disk", "1m", false, "", "", "", ""⟩, ⟨2, 1, "load", "1m", false, "", "", "x", ""⟩,
    ⟨3, 1, "mail", "1m", false, "", "", "", ""⟩]

theorem pair_assembly : Assembly {"a", "b"} pair pairTimes where
  named address _ := rfl
  seen address member := by
    ext other
    simp only [Finset.mem_insert, Finset.mem_singleton] at member
    rcases member with rfl | rfl
    · simp [pair, pairTimes, Peers.all]
    · simp [pair, pairTimes, Peers.all, or_comm]

def pairReading (address : String) : List StoredCheck :=
  if address = "a" then threeRows else threeRows.reverse

def plainCheck (id : Int) (name : String) : Check :=
  ⟨id, 1, name, "1m", .list [], [], [], false⟩

/-- Two daemons that read three rows in different orders. -/
theorem pair_shares_three_rows :
    Assembly {"a", "b"} pair pairTimes ∧ (threeRows.map (·.id)).Nodup ∧
      threeRows.map (fun row => row.definition?.toOption) =
        [some (plainCheck 1 "disk"), none, some (plainCheck 3 "mail")] ∧
      (pair "a").share (pairTimes "a") (pairReading "a") = [plainCheck 3 "mail"] ∧
      (pair "b").share (pairTimes "b") (pairReading "b") = [plainCheck 1 "disk"] ∧
      ∃ address ∈ ({"a", "b"} : Finset String),
        plainCheck 1 "disk" ∈
          (pair address).share (pairTimes address) (pairReading address) := by
  have distinct : (threeRows.map (·.id)).Nodup := by decide
  have read : ∀ address ∈ ({"a", "b"} : Finset String),
      (pairReading address).Perm threeRows := by
    intro address _
    unfold pairReading
    split
    · exact List.Perm.refl _
    · exact List.reverse_perm _
  obtain ⟨-, -, members, -⟩ := assembly_shares_rows_once {"a", "b"} ⟨"a", by simp⟩ pair pairTimes
    pair_assembly threeRows distinct pairReading read
  refine ⟨pair_assembly, distinct, rfl, by cbv, by cbv, (members (plainCheck 1 "disk")).mpr ?_⟩
  exact ⟨⟨1, 1, "disk", "1m", false, "", "", "", ""⟩, by simp [threeRows], rfl⟩

end Daemon

end FleetMonitor
