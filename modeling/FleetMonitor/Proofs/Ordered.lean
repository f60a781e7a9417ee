import FleetMonitor.Check.Comparison
import FleetMonitor.Proofs.Doubles
import Mathlib

/-!
# Doubles in order

The doubles that are numbers stand in one line, in which the two zeros share a place; a
comparison of two of them is one of their places.  What is not a number has no place, and no
comparison with it holds.
-/

set_option autoImplicit false

namespace FleetMonitor

namespace Decimal

open Float.Model Float.Model.UnpackedFloat

/-! ## Places -/

/-- The place of a number: by its sign, and then by its exponent and mantissa, which count
backwards below zero. -/
def place : UnpackedFloat → ℤ ×ₗ ℤ ×ₗ ℤ
  | .infinity .negative => toLex (-2, toLex (0, 0))
  | .finite .negative m e _ => toLex (-1, toLex (-e, -m))
  | .zero _ => toLex (0, toLex (0, 0))
  | .finite .positive m e _ => toLex (1, toLex (e, m))
  | .infinity .positive => toLex (2, toLex (0, 0))
  | .notANumber => toLex (0, toLex (0, 0))

theorem then_eq_cmp (e f : Int) (m n : Nat) :
    (compare e f).then (compare m n) = cmp (toLex (e, (m : ℤ))) (toLex (f, (n : ℤ))) := by
  refine Eq.symm (Ordering.Compares.cmp_eq ?_)
  rcases lt_trichotomy e f with less | rfl | greater
  · rw [compare_lt_iff_lt.mpr less]
    simp [Ordering.Compares, Prod.Lex.lt_iff, less]
  · rcases lt_trichotomy m n with less | rfl | greater
    · rw [compare_lt_iff_lt.mpr less]
      simp [Ordering.Compares, Prod.Lex.lt_iff, less]
    · simp [Ordering.Compares]
    · rw [compare_gt_iff_gt.mpr greater]
      simp [Ordering.Compares, Prod.Lex.lt_iff, greater]
  · rw [compare_gt_iff_gt.mpr greater]
    simp [Ordering.Compares, Prod.Lex.lt_iff, greater]

theorem place_positive : StrictMono fun p : ℤ ×ₗ ℤ => toLex ((1 : ℤ), p) :=
  fun _ _ less => Prod.Lex.lt_iff.mpr (.inr ⟨rfl, less⟩)

theorem place_negative :
    StrictAnti fun p : ℤ ×ₗ ℤ => toLex ((-1 : ℤ), toLex (-(ofLex p).1, -(ofLex p).2)) := by
  intro p q less
  refine Prod.Lex.lt_iff.mpr (.inr ⟨rfl, Prod.Lex.lt_iff.mpr ?_⟩)
  simpa [eq_comm] using Prod.Lex.lt_iff.mp less

/-- Numbers compare by their places. -/
theorem compare_eq_place {a b : UnpackedFloat} (isNumber : a.isNaN = false)
    (alsoNumber : b.isNaN = false) : a.compare b = some (cmp (place a) (place b)) := by
  cases a with
  | notANumber => cases isNumber
  | infinity s =>
    cases b with
    | notANumber => cases alsoNumber
    | infinity t => cases s <;> cases t <;> rfl
    | zero t => cases s <;> rfl
    | finite t n f positive => cases s <;> cases t <;> rfl
  | zero s =>
    cases b with
    | notANumber => cases alsoNumber
    | infinity t => cases t <;> rfl
    | zero t => rfl
    | finite t n f positive => cases t <;> rfl
  | finite s m e positive =>
    cases b with
    | notANumber => cases alsoNumber
    | infinity t => cases s <;> cases t <;> rfl
    | zero t => cases s <;> rfl
    | finite t n f alsoPositive =>
      match s, t with
      | .positive, .negative => rfl
      | .negative, .positive => rfl
      | .positive, .positive =>
        refine congrArg some ((then_eq_cmp e f m n).trans ?_)
        exact (place_positive.cmp_map_eq _ _).symm
      | .negative, .negative =>
        refine congrArg some ((congrArg Ordering.swap (then_eq_cmp e f m n)).trans ?_)
        rw [cmp_swap]
        exact (place_negative.cmp_map_eq (toLex (e, (m : ℤ))) (toLex (f, (n : ℤ)))).symm

theorem compare_of_isNaN {a b : UnpackedFloat} (nan : a.isNaN = true ∨ b.isNaN = true) :
    a.compare b = none := by
  rcases nan with nan | nan <;> rw [isNaN_iff] at nan <;> subst nan
  · rfl
  · cases a <;> rfl

/-! ## Comparisons -/

theorem lt_iff (x y : Float) :
    x < y ↔ x.toModel.unpack.compare y.toModel.unpack = some .lt := by
  change decide (x.toModel < y.toModel) = true ↔ _
  rw [decide_eq_true_eq]
  exact beq_iff_eq

theorem le_iff (x y : Float) :
    x ≤ y ↔ (x.toModel.unpack.compare y.toModel.unpack).any Ordering.isLE = true := by
  change decide (x.toModel ≤ y.toModel) = true ↔ _
  rw [decide_eq_true_eq]
  rfl

theorem beq_iff (x y : Float) :
    (x == y) = true ↔ x.toModel.unpack.compare y.toModel.unpack = some .eq := by
  change (x.toModel.unpack.compare y.toModel.unpack == some .eq) = true ↔ _
  exact beq_iff_eq

theorem isNaN_of_isFinite {x : Float} (finite : x.isFinite = true) : x.isNaN = false := by
  change x.toModel.unpack.isNaN = false
  change x.toModel.unpack.isFinite = true at finite
  cases unpacked : x.toModel.unpack with
  | notANumber => rw [unpacked] at finite; cases finite
  | infinity sign => rfl
  | zero sign => rfl
  | finite sign m e positive => rfl

def placeOf (x : Float) : ℤ ×ₗ ℤ ×ₗ ℤ :=
  place x.toModel.unpack

section Numbers

variable {x y : Float} (isNumber : x.isNaN = false) (alsoNumber : y.isNaN = false)
include isNumber alsoNumber

theorem lt_iff_placeOf : x < y ↔ placeOf x < placeOf y := by
  rw [lt_iff, compare_eq_place isNumber alsoNumber, Option.some.injEq, cmp_eq_lt_iff]
  rfl

theorem beq_iff_placeOf : (x == y) = true ↔ placeOf x = placeOf y := by
  rw [beq_iff, compare_eq_place isNumber alsoNumber, Option.some.injEq, cmp_eq_eq_iff]
  rfl

theorem le_iff_placeOf : x ≤ y ↔ placeOf x ≤ placeOf y := by
  rw [le_iff, compare_eq_place isNumber alsoNumber, Option.any_some]
  change (cmp (placeOf x) (placeOf y)).isLE = true ↔ _
  rcases lt_trichotomy (placeOf x) (placeOf y) with less | same | greater
  · simp [less.cmp_eq_lt, less.le]
  · simp [same]
  · simp [greater.cmp_eq_gt, greater]

end Numbers

def Compares (x y : Float) : Prop :=
  x < y ∨ (x == y) = true ∨ y < x

instance (x y : Float) : Decidable (Compares x y) :=
  inferInstanceAs (Decidable (_ ∨ _ ∨ _))

theorem not_numbers {x y : Float} (notBoth : ¬ (x.isNaN = false ∧ y.isNaN = false)) :
    x.toModel.unpack.isNaN = true ∨ y.toModel.unpack.isNaN = true := by
  rw [not_and_or, Bool.not_eq_false, Bool.not_eq_false] at notBoth
  exact notBoth

theorem compares_iff (x y : Float) : Compares x y ↔ x.isNaN = false ∧ y.isNaN = false := by
  unfold Compares
  by_cases numbers : x.isNaN = false ∧ y.isNaN = false
  · obtain ⟨isNumber, alsoNumber⟩ := numbers
    rw [lt_iff_placeOf isNumber alsoNumber, beq_iff_placeOf isNumber alsoNumber,
      lt_iff_placeOf alsoNumber isNumber]
    exact iff_of_true (lt_trichotomy _ _) ⟨isNumber, alsoNumber⟩
  · have nan := not_numbers numbers
    rw [lt_iff, beq_iff, lt_iff, compare_of_isNaN nan, compare_of_isNaN nan.symm]
    exact iff_of_false (by simp) numbers

end Decimal

theorem Comparison.not_holds {x y : Float} (apart : ¬ Decimal.Compares x y)
    (operator : Comparison) : operator.holds x y = false := by
  have nan := Decimal.not_numbers ((not_congr (Decimal.compares_iff x y)).mp apart)
  have uncompared := Decimal.compare_of_isNaN nan
  have reversed := Decimal.compare_of_isNaN nan.symm
  refine Bool.eq_false_iff.mpr ?_
  cases operator with
  | greater =>
    rw [ne_eq, holds, decide_eq_true_eq, gt_iff_lt, Decimal.lt_iff, reversed]
    simp
  | greaterOrEqual =>
    rw [ne_eq, holds, decide_eq_true_eq, ge_iff_le, Decimal.le_iff, reversed]
    simp
  | equal =>
    rw [ne_eq, holds, Decimal.beq_iff, uncompared]
    simp
  | less =>
    rw [ne_eq, holds, decide_eq_true_eq, Decimal.lt_iff, uncompared]
    simp
  | lessOrEqual =>
    rw [ne_eq, holds, decide_eq_true_eq, Decimal.le_iff, uncompared]
    simp

end FleetMonitor
