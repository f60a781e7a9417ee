import FleetMonitor.Json.Basic
import FleetMonitor.Proofs.Keys
import FleetMonitor.Proofs.Rows
import Mathlib.Data.List.Induction
import Mathlib.Data.List.TakeDrop

/-!
# Entries under names

Members are sorted by putting one after the other into rows in the order of
their names.  So no name comes to be there twice, and what is found under a name
is what was put there last.
-/

set_option autoImplicit false

namespace FleetMonitor

def nameBefore (a b : String) : Bool :=
  decide (a < b)

theorem ordersNames : OrdersKeys nameBefore where
  irrefl key := by simp [nameBefore]
  trans a b c early late := by
    simp only [nameBefore, decide_eq_true_eq] at early late ⊢
    exact String.lt_trans early late
  total a b other isBehind := by
    simp only [nameBefore, decide_eq_true_eq, decide_eq_false_iff_not] at isBehind ⊢
    exact lt_of_le_of_ne (not_lt.mp isBehind) other.symm

section Rows

variable {κ α : Type} [BEq κ] [LawfulBEq κ]

theorem lookup_putSorted [DecidableEq κ] (before : κ → κ → Bool) (key other : κ) (value : α)
    (rows : List (κ × α)) :
    (putSorted before key value rows).lookup other =
      if other = key then some value else rows.lookup other := by
  have front (rest : List (κ × α)) : ((key, value) :: rest).lookup other =
      if other = key then some value else rest.lookup other := by
    by_cases own : other = key
    · rw [own, if_pos rfl, IncidentKeys.lookup_cons_of_eq]
    · rw [if_neg own, IncidentKeys.lookup_cons_of_ne _ _ _ _ own]
  induction rows with
  | nil => exact front []
  | cons entry rest ih =>
    obtain ⟨place, former⟩ := entry
    unfold putSorted
    split
    · next same =>
      obtain rfl : place = key := eq_of_beq same
      rw [front]
      by_cases own : other = place
      · rw [if_pos own, if_pos own]
      · rw [if_neg own, if_neg own, IncidentKeys.lookup_cons_of_ne _ _ _ _ own]
    · next differs =>
      have differs : place ≠ key := fun same => differs (beq_iff_eq.mpr same)
      split
      · by_cases own : other = place
        · rw [own, IncidentKeys.lookup_cons_of_eq, IncidentKeys.lookup_cons_of_eq,
            if_neg differs]
        · rw [IncidentKeys.lookup_cons_of_ne _ _ _ _ own, ih,
            IncidentKeys.lookup_cons_of_ne _ _ _ _ own]
      · exact front ((place, former) :: rest)

theorem lookup_eq_some_iff_mem_of_nodup {rows : List (κ × α)}
    (distinct : (rows.map (·.1)).Nodup) (key : κ) (value : α) :
    rows.lookup key = some value ↔ (key, value) ∈ rows := by
  refine ⟨fun found => ?_, fun member => ?_⟩
  · obtain ⟨before, rest, rfl, -⟩ := List.lookup_eq_some_iff.mp found
    simp
  · obtain ⟨before, rest, rfl⟩ := List.append_of_mem member
    refine List.lookup_eq_some_iff.mpr ⟨before, rest, rfl, fun entry earlier => ?_⟩
    rw [List.map_append, List.nodup_append] at distinct
    have apart : entry.1 ≠ key :=
      distinct.2.2 entry.1 (List.mem_map_of_mem earlier) key (by simp)
    exact bne_iff_ne.mpr apart.symm

end Rows

namespace Json

variable {α : Type}

theorem sortMembers_eq (members : List (String × α)) :
    sortMembers members =
      members.foldl (fun rows member => putSorted nameBefore member.1 member.2 rows) [] := by
  unfold sortMembers
  refine congrArg (fun put => members.foldl put []) (funext₂ fun rows member => ?_)
  obtain ⟨key, value⟩ := member
  simp only [List.span_eq_takeWhile_dropWhile]
  induction rows with
  | nil => rfl
  | cons entry rest ih =>
    obtain ⟨place, former⟩ := entry
    unfold putSorted
    by_cases isBefore : place < key
    · have differs : (place == key) = false := beq_eq_false_iff_ne.mpr (ne_of_lt isBefore)
      have further : nameBefore place key = true := decide_eq_true isBefore
      rw [List.takeWhile_cons_of_pos (by simpa using isBefore),
        List.dropWhile_cons_of_pos (by simpa using isBefore), differs, further, ← ih]
      simp only [Bool.false_eq_true, if_false, if_true]
      split
      · rfl
      · split <;> rfl
    · have here : nameBefore place key = false := decide_eq_false isBefore
      rw [List.takeWhile_cons_of_neg (by simpa using isBefore),
        List.dropWhile_cons_of_neg (by simpa using isBefore), here]
      simp only [Bool.false_eq_true, if_false, List.nil_append, beq_iff_eq]

theorem sortMembers_append (members more : List (String × α)) :
    sortMembers (members ++ more) =
      more.foldl (fun rows member => putSorted nameBefore member.1 member.2 rows)
        (sortMembers members) := by
  rw [sortMembers_eq, sortMembers_eq, List.foldl_append]

theorem sortMembers_ascending (members : List (String × α)) :
    Ascending nameBefore (sortMembers members) := by
  induction members using List.reverseRecOn with
  | nil => exact List.Pairwise.nil
  | append_singleton members member ih =>
    rw [sortMembers_append]
    exact ih.putSorted ordersNames member.1 member.2

/-- Under a name stands what came last under it. -/
theorem lookup_sortMembers (members : List (String × α)) (key : String) :
    (sortMembers members).lookup key = members.reverse.lookup key := by
  induction members using List.reverseRecOn with
  | nil => rfl
  | append_singleton members member ih =>
    obtain ⟨place, value⟩ := member
    rw [sortMembers_append, List.reverse_append]
    refine (lookup_putSorted nameBefore place key value _).trans ?_
    rw [ih]
    by_cases own : key = place
    · rw [own, if_pos rfl]
      exact (IncidentKeys.lookup_cons_of_eq place value _).symm
    · rw [if_neg own]
      exact (IncidentKeys.lookup_cons_of_ne place key value _ own).symm

theorem mem_sortMembers {members : List (String × α)}
    (single : ∀ key one other, (key, one) ∈ members → (key, other) ∈ members → one = other)
    (entry : String × α) : entry ∈ sortMembers members ↔ entry ∈ members := by
  obtain ⟨key, value⟩ := entry
  have distinct := (sortMembers_ascending members).keys_nodup ordersNames
  rw [← lookup_eq_some_iff_mem_of_nodup distinct, lookup_sortMembers]
  constructor
  · intro found
    obtain ⟨before, rest, layout, -⟩ := List.lookup_eq_some_iff.mp found
    exact List.mem_reverse.mp (layout ▸ by simp)
  · intro member
    cases found : members.reverse.lookup key with
    | none =>
      have apart := List.lookup_eq_none_iff.mp found (key, value) (List.mem_reverse.mpr member)
      exact absurd rfl (bne_iff_ne.mp apart)
    | some other =>
      obtain ⟨before, rest, layout, -⟩ := List.lookup_eq_some_iff.mp found
      have alsoMember : (key, other) ∈ members := List.mem_reverse.mp (layout ▸ by simp)
      rw [single key other value alsoMember member]

end Json

end FleetMonitor
