import FleetMonitor.Store.Basic
import Mathlib.Data.List.Nodup
import Mathlib.Data.String.Basic

/-!
# Rows in the order of their keys

A value that is put into rows under a key takes the place of the row with that
key, or its place in the order.  So rows in ascending order stay so, and no key
comes to be there twice.
-/

set_option autoImplicit false

namespace FleetMonitor

variable {κ α : Type}

structure OrdersKeys (before : κ → κ → Bool) : Prop where
  irrefl : ∀ key, before key key = false
  trans : ∀ a b c, before a b = true → before b c = true → before a c = true
  total : ∀ a b, a ≠ b → before a b = false → before b a = true

def Ascending (before : κ → κ → Bool) (rows : List (κ × α)) : Prop :=
  rows.Pairwise fun a b => before a.1 b.1 = true

variable [BEq κ] {before : κ → κ → Bool} {key : κ} {value : α} {rows : List (κ × α)}

theorem mem_putSorted (before : κ → κ → Bool) (key : κ) (value : α) (rows : List (κ × α)) :
    (key, value) ∈ putSorted before key value rows := by
  induction rows with
  | nil => exact List.mem_cons_self
  | cons entry rest ih =>
    unfold putSorted
    split
    · exact List.mem_cons_self
    · split
      · exact List.mem_cons_of_mem entry ih
      · exact List.mem_cons_self

theorem of_mem_putSorted {entry : κ × α} (member : entry ∈ putSorted before key value rows) :
    entry = (key, value) ∨ entry ∈ rows := by
  induction rows with
  | nil => exact .inl (List.mem_singleton.mp member)
  | cons head rest ih =>
    unfold putSorted at member
    split at member
    · exact (List.mem_cons.mp member).imp id (List.mem_cons_of_mem head)
    · split at member
      · rcases List.mem_cons.mp member with rfl | later
        · exact .inr List.mem_cons_self
        · exact (ih later).imp id (List.mem_cons_of_mem head)
      · exact List.mem_cons.mp member

theorem Ascending.putSorted [LawfulBEq κ] (orders : OrdersKeys before)
    (ascending : Ascending before rows) (key : κ) (value : α) :
    Ascending before (putSorted before key value rows) := by
  induction rows with
  | nil => exact List.pairwise_singleton _ _
  | cons entry rest ih =>
    obtain ⟨first, others⟩ := List.pairwise_cons.mp ascending
    unfold FleetMonitor.putSorted
    split
    · next same =>
      have same : entry.1 = key := eq_of_beq same
      exact List.pairwise_cons.mpr ⟨fun later member => same ▸ first later member, others⟩
    · next other =>
      have other : entry.1 ≠ key := fun same => other (beq_iff_eq.mpr same)
      split
      · next isBefore =>
        refine List.pairwise_cons.mpr ⟨fun later member => ?_, ih others⟩
        rcases of_mem_putSorted member with rfl | old
        · exact isBefore
        · exact first later old
      · next isBehind =>
        have behind : before key entry.1 = true :=
          orders.total _ _ other (Bool.eq_false_iff.mpr isBehind)
        refine List.pairwise_cons.mpr ⟨fun later member => ?_, ascending⟩
        rcases List.mem_cons.mp member with rfl | old
        · exact behind
        · exact orders.trans _ _ _ behind (first later old)

omit [BEq κ] in
theorem Ascending.keys_nodup (orders : OrdersKeys before) (ascending : Ascending before rows) :
    (rows.map (·.1)).Nodup := by
  refine List.pairwise_map.mpr (ascending.imp fun isBefore same => ?_)
  rw [same, orders.irrefl] at isBefore
  cases isBefore

omit [BEq κ] in
theorem Ascending.eq_of_key (orders : OrdersKeys before) (ascending : Ascending before rows)
    {a b : κ × α} (ofA : a ∈ rows) (ofB : b ∈ rows) (same : a.1 = b.1) : a = b :=
  List.inj_on_of_nodup_map (ascending.keys_nodup orders) ofA ofB same

theorem ordersIds : OrdersKeys fun a b : Int => decide (a < b) where
  irrefl key := by simp
  trans a b c early late := by
    simp only [decide_eq_true_eq] at early late ⊢
    omega
  total a b other isBehind := by
    simp only [decide_eq_true_eq, decide_eq_false_iff_not] at isBehind ⊢
    omega

/-- The order in which hosts are kept: by their clusters, and by their names
within a cluster. -/
def hostBefore (a b : Int × String) : Bool :=
  decide (a.1 < b.1) || a.1 == b.1 && decide (a.2 < b.2)

theorem ordersHosts : OrdersKeys hostBefore where
  irrefl key := by simp [hostBefore]
  trans a b c early late := by
    simp only [hostBefore, Bool.or_eq_true, Bool.and_eq_true, decide_eq_true_eq,
      beq_iff_eq] at early late ⊢
    rcases early with lower | ⟨same, lower⟩ <;> rcases late with lower' | ⟨same', lower'⟩
    · exact .inl (by omega)
    · exact .inl (by omega)
    · exact .inl (by omega)
    · exact .inr ⟨same.trans same', String.lt_trans lower lower'⟩
  total a b other isBehind := by
    simp only [hostBefore, Bool.or_eq_false_iff, Bool.and_eq_false_iff, decide_eq_false_iff_not,
      beq_eq_false_iff_ne] at isBehind
    simp only [hostBefore, Bool.or_eq_true, Bool.and_eq_true, decide_eq_true_eq, beq_iff_eq]
    obtain ⟨notLower, notBefore⟩ := isBehind
    rcases Int.lt_trichotomy a.1 b.1 with lower | same | higher
    · exact absurd lower notLower
    · have names : a.2 ≠ b.2 := fun sameName => other (Prod.ext same sameName)
      have behind : ¬ a.2 < b.2 := notBefore.resolve_left (not_not_intro same)
      exact .inr ⟨same.symm, lt_of_le_of_ne (not_lt.mp behind) names.symm⟩
    · exact .inl higher

end FleetMonitor
