import FleetMonitor.Proofs.Numerals
import Mathlib

/-!
# Numbers of a text are finite

A number that is read from a text is a whole number of 64 bits or a finite double, wherever
it stands in the document.  For doubles this is a bound on exponents: rounding moves an
exponent up by one at most, and dividing by a power of ten moves it down by more.
-/

set_option autoImplicit false

namespace FleetMonitor

namespace Decimal

open Float.Model Float.Model.UnpackedFloat

/-! ## Rounding -/

theorem shift_mantissa (em : ExtendedMantissa) (k : Nat) :
    (em >>> k).mantissa = em.mantissa / 2 ^ k := by
  induction k with
  | zero => simp [HShiftRight.hShiftRight, Nat.repeat]
  | succ k ih =>
      change (ExtendedMantissa.shiftRightOne (em >>> k)).mantissa = _
      rw [ExtendedMantissa.shiftRightOne, ih, Nat.div_div_eq_div_mul, Nat.pow_succ]

theorem ofMantissaAndAccuracy_mantissa (m : Nat) (accuracy : Accuracy) :
    (ExtendedMantissa.ofMantissaAndAccuracy m accuracy).mantissa = m := by
  cases accuracy with
  | exact => rfl
  | inexact order => cases order <;> rfl

theorem roundToNearestEven_le (m : Nat) (accuracy : Accuracy) :
    accuracy.roundToNearestEven m ≤ m + 1 := by
  cases accuracy with
  | exact => exact Nat.le_succ m
  | inexact order =>
      cases order with
      | lt => exact Nat.le_succ m
      | eq =>
          have bit := Nat.mod_lt m (by decide : 0 < 2)
          change m + m % 2 ≤ m + 1
          omega
      | gt => exact Nat.le_refl _

theorem targetExponent_eq (total : Int) :
    Format.binary64.targetExponent total = max (total - 53) (-1074) := by
  simp only [Format.targetExponent]
  rfl

theorem shifted_lt (m : Nat) (e : Int) :
    m / 2 ^ (Format.binary64.targetExponent (totalExponent m e) - e).toNat < 2 ^ 53 := by
  rw [targetExponent_eq, totalExponent]
  rw [Nat.div_lt_iff_lt_mul (Nat.two_pow_pos _), ← Nat.pow_add]
  refine Nat.lt_of_lt_of_le (Nat.lt_log2_self (n := m)) ?_
  exact Nat.pow_le_pow_right (by decide) (by omega)

def Within (bound : Int) : UnpackedFloat → Prop
  | .zero _ => True
  | .finite _ m e _ => m < 2 ^ 53 ∧ e ≤ bound
  | _ => False

theorem Within.mono {bound wider : Int} {u : UnpackedFloat} (within : Within bound u)
    (le : bound ≤ wider) : Within wider u := by
  cases u with
  | zero sign => trivial
  | finite sign m e positive => exact ⟨within.1, Int.le_trans within.2 le⟩
  | infinity sign => exact within
  | notANumber => exact within

/-- Rounding takes an exponent at most one past the target exponent. -/
theorem roundWithAccuracy_within (sign : Sign) (m : Nat) (e : Int) (accuracy : Accuracy) :
    Within (max e (Format.binary64.targetExponent (totalExponent m e)) + 1)
      (roundWithAccuracy Format.binary64 sign m e accuracy) := by
  have first := shifted_lt m e
  unfold roundWithAccuracy shiftToTargetExponent shiftToExponent
  simp only [shift_mantissa, ofMantissaAndAccuracy_mantissa]
  generalize taken : (Format.binary64.targetExponent (totalExponent m e) - e).toNat = k at first ⊢
  generalize isRounded : ExtendedMantissa.roundedMantissa _ = rounded
  have small : rounded ≤ 2 ^ 53 := by
    have step := roundToNearestEven_le (m / 2 ^ k)
    rw [← isRounded, ExtendedMantissa.roundedMantissa, shift_mantissa,
      ofMantissaAndAccuracy_mantissa]
    exact Nat.le_trans (step _) first
  have bits : rounded.log2 < 54 := by
    by_cases zero : rounded = 0
    · rw [zero]
      decide
    · exact (Nat.log2_lt zero).mpr (Nat.lt_of_le_of_lt small (by decide))
  split
  · trivial
  · refine ⟨shifted_lt rounded (e + k), ?_⟩
    rw [targetExponent_eq] at taken
    rw [targetExponent_eq, targetExponent_eq]
    unfold totalExponent at taken ⊢
    omega

/-! ## Bit patterns -/

theorem unpack_within {bits : BitVec Format.binary64.numBits} {field : Nat}
    (isField : (unpackExponent bits).toNat = field) (notOnes : field < 2047) {bound : Int}
    (low : -1074 ≤ bound) (high : (field : Int) - 1075 ≤ bound) :
    Within bound (UnpackedFloat.unpack Format.binary64 bits) := by
  have notAll : unpackExponent bits ≠ -BitVec.ofNat Format.binary64.exponentBits 1 := by
    intro same
    rw [same] at isField
    have ones : (-BitVec.ofNat Format.binary64.exponentBits 1).toNat = 2047 := by decide
    omega
  have mantissa := (unpackMantissa bits).isLt
  rw [UnpackedFloat.unpack.eq_1, if_neg notAll]
  split
  · rename_i subnormal
    split
    · trivial
    · refine ⟨Nat.lt_trans mantissa (by decide), ?_⟩
      rw [subnormal]
      change (0 : Int) - (1023 + 52) + 1 ≤ bound
      omega
  · refine ⟨(BitVec.ofNat 1 1 ++ unpackMantissa bits).isLt, ?_⟩
    rw [isField]
    change (field : Int) - (1023 + 52) ≤ bound
    omega

theorem unpack_packComponents_within (sign : Sign) {field : Nat} (notOnes : field < 2047)
    (mantissa : BitVec Format.binary64.mantissaBitsWithoutImplicit) {bound : Int}
    (low : -1074 ≤ bound) (high : (field : Int) - 1075 ≤ bound) :
    Within bound (UnpackedFloat.unpack Format.binary64
      (packComponents Format.binary64 sign (BitVec.ofNat _ field) mantissa)) := by
  refine unpack_within ?_ notOnes low high
  rw [unpackExponent_packComponents, BitVec.toNat_ofNat]
  exact Nat.mod_eq_of_lt (Nat.lt_trans notOnes (by decide))

theorem unpack_pack_within {u : UnpackedFloat} {bound : Int} (within : Within bound u)
    (low : -1074 ≤ bound) (high : bound ≤ 971) :
    Within bound (Float.Model.pack u).unpack := by
  change Within bound (UnpackedFloat.unpack Format.binary64 (UnpackedFloat.pack Format.binary64 u))
  cases u with
  | notANumber => exact within.elim
  | infinity sign => exact within.elim
  | zero sign =>
      rw [UnpackedFloat.pack.eq_3, packedZero]
      exact unpack_packComponents_within sign (by decide : 0 < 2047) _ low (by omega)
  | finite sign m e positive =>
      have le : e ≤ bound := within.2
      have isField : (e + Format.binary64.exponentBias +
          Format.binary64.mantissaBitsWithoutImplicit).toNat = (e + 1075).toNat := by
        change (e + 1023 + 52).toNat = _
        rw [Int.add_assoc]
        rfl
      have fits : ¬2 ^ Format.binary64.exponentBits ≤ (e + 1075).toNat + 1 := by
        change ¬2048 ≤ (e + 1075).toNat + 1
        omega
      rw [UnpackedFloat.pack.eq_4, isField, if_neg fits]
      split
      · exact unpack_packComponents_within sign (by omega) _ low (by omega)
      · exact unpack_packComponents_within sign (by decide : 0 < 2047) _ low (by omega)

theorem within_of_isFinite {bits : BitVec Format.binary64.numBits}
    (finite : (UnpackedFloat.unpack Format.binary64 bits).isFinite = true) :
    Within 971 (UnpackedFloat.unpack Format.binary64 bits) := by
  have notOnes : unpackExponent bits ≠ -BitVec.ofNat Format.binary64.exponentBits 1 := by
    intro ones
    rw [UnpackedFloat.unpack.eq_1, if_pos ones] at finite
    split at finite <;> cases finite
  have field : (unpackExponent bits).toNat ≠ 2047 := by
    intro ones
    exact notOnes (BitVec.eq_of_toNat_eq ones)
  have bounded : (unpackExponent bits).toNat < 2048 := (unpackExponent bits).isLt
  exact unpack_within rfl (by omega) (by decide) (by omega)

theorem isFinite_of_within {u : UnpackedFloat} {bound : Int} (within : Within bound u) :
    u.isFinite = true := by
  cases u with
  | zero sign => rfl
  | finite sign m e positive => rfl
  | infinity sign => exact within.elim
  | notANumber => exact within.elim

/-! ## Arithmetic -/

theorem isFinite_iff (x : Float) : x.isFinite = true ↔ Within 971 x.toModel.unpack :=
  ⟨within_of_isFinite, isFinite_of_within⟩

theorem log2_lt_of_lt {m k : Nat} (positive : 0 < m) (lt : m < 2 ^ k) : m.log2 < k :=
  (Nat.log2_lt (Nat.ne_of_gt positive)).mpr lt

theorem mul_finite (sign other : Sign) (m n : Nat) (e f : Int) (positive : 0 < m)
    (alsoPositive : 0 < n) :
    UnpackedFloat.mul Format.binary64 (.finite sign m e positive) (.finite other n f alsoPositive) =
      roundWithAccuracy Format.binary64 (sign * other) (m * n) (e + f) .exact :=
  rfl

theorem mul_within {a b : UnpackedFloat} {left right : Int} (ofLeft : Within left a)
    (ofRight : Within right b) :
    Within (max (left + right + 54) (-1073)) (UnpackedFloat.mul Format.binary64 a b) := by
  cases a with
  | infinity sign => exact ofLeft.elim
  | notANumber => exact ofLeft.elim
  | zero sign =>
      cases b with
      | infinity sign => exact ofRight.elim
      | notANumber => exact ofRight.elim
      | zero sign => trivial
      | finite sign m e positive => trivial
  | finite sign m e positive =>
      cases b with
      | infinity sign => exact ofRight.elim
      | notANumber => exact ofRight.elim
      | zero sign => trivial
      | finite other n f alsoPositive =>
          obtain ⟨small, low⟩ := ofLeft
          obtain ⟨alsoSmall, alsoLow⟩ := ofRight
          have product : m * n < 2 ^ 53 * 2 ^ 53 := Nat.mul_lt_mul'' small alsoSmall
          have bits : (m * n).log2 < 106 :=
            log2_lt_of_lt (Nat.mul_pos positive alsoPositive)
              (Nat.lt_of_lt_of_eq product (by decide))
          refine (roundWithAccuracy_within (sign * other) (m * n) (e + f) .exact).mono ?_
          rw [targetExponent_eq, totalExponent]
          omega

theorem mul_isFinite {x y : Float} (ofX : x.isFinite = true) (ofY : y.isFinite = true)
    (bounded : (x * y).isInf = false) : (x * y).isFinite = true := by
  have within := mul_within ((isFinite_iff x).mp ofX) ((isFinite_iff y).mp ofY)
  change (Float.Model.pack _).unpack.isInf = false at bounded
  change (Float.Model.pack _).unpack.isFinite = true
  generalize UnpackedFloat.mul Format.binary64 x.toModel.unpack y.toModel.unpack = u
    at within bounded ⊢
  cases u with
  | infinity sign => exact within.elim
  | notANumber => exact within.elim
  | zero sign =>
      have inside : Within 971 (.zero sign) := trivial
      exact isFinite_of_within (unpack_pack_within inside (by decide) (by decide))
  | finite sign m e positive =>
      by_cases fits : e ≤ 971
      · have inside : Within 971 (.finite sign m e positive) := ⟨within.1, fits⟩
        exact isFinite_of_within (unpack_pack_within inside (by decide) (by decide))
      · -- The product overflows, and is packed as an infinity.
        have overflow : UnpackedFloat.pack Format.binary64 (.finite sign m e positive) =
            packedInfinity Format.binary64 sign := by
          rw [UnpackedFloat.pack.eq_4, if_pos]
          change 2048 ≤ (e + 1023 + 52).toNat + 1
          omega
        change (UnpackedFloat.unpack Format.binary64
          (UnpackedFloat.pack Format.binary64 (.finite sign m e positive))).isInf = false at bounded
        rw [overflow] at bounded
        cases sign <;> exact absurd bounded (by decide)

theorem log2_div_lt {m n : Nat} (positive : 0 < n) (shift : Nat)
    (quotientPositive : 0 < (m <<< shift) / n) :
    ((m <<< shift) / n).log2 + n.log2 < m.log2 + 1 + shift := by
  have ofQuotient := Nat.log2_self_le (Nat.ne_of_gt quotientPositive)
  have ofDivisor := Nat.log2_self_le (Nat.ne_of_gt positive)
  have ofDividend := Nat.lt_log2_self (n := m)
  have below : 2 ^ (((m <<< shift) / n).log2 + n.log2) < 2 ^ (m.log2 + 1 + shift) := by
    calc 2 ^ (((m <<< shift) / n).log2 + n.log2)
        = 2 ^ ((m <<< shift) / n).log2 * 2 ^ n.log2 := Nat.pow_add ..
      _ ≤ (m <<< shift) / n * n := Nat.mul_le_mul ofQuotient ofDivisor
      _ ≤ m * 2 ^ shift := by
          rw [Nat.shiftLeft_eq]
          exact Nat.div_mul_le_self _ n
      _ < 2 ^ (m.log2 + 1) * 2 ^ shift := Nat.mul_lt_mul_of_pos_right ofDividend (Nat.two_pow_pos _)
      _ = 2 ^ (m.log2 + 1 + shift) := (Nat.pow_add ..).symm
  exact (Nat.pow_lt_pow_iff_right (by decide)).mp below

/-- A divisor of at least eight takes off more than rounding adds. -/
theorem div_within {a : UnpackedFloat} (ofA : Within 971 a) {n : Nat} {f : Int}
    (positive : 0 < n) (large : 4 ≤ totalExponent n f) :
    Within 971 (UnpackedFloat.div Format.binary64 a (.finite .positive n f positive)) := by
  cases a with
  | infinity sign => exact ofA.elim
  | notANumber => exact ofA.elim
  | zero sign => trivial
  | finite sign m e alsoPositive =>
      obtain ⟨small, low⟩ := ofA
      have bits := log2_lt_of_lt alsoPositive small
      change Within 971 (roundWithAccuracy Format.binary64 _ _ _ _)
      refine (roundWithAccuracy_within _ _ _ _).mono ?_
      simp only [targetExponent_eq, totalExponent] at large ⊢
      generalize isTarget : min (e - f) _ = target
      generalize isShift : (e - f - target).toNat = shift
      have quotient := log2_div_lt (m := m) positive shift
      by_cases zero : (m <<< shift) / n = 0
      · have logZero : Nat.log2 0 = 0 := by decide
        rw [zero, logZero]
        omega
      · have bits := quotient (Nat.pos_of_ne_zero zero)
        omega

/-! ## Whole numbers -/

theorem log2_shiftLeft_lt (m shift : Nat) : (m <<< shift).log2 < m.log2 + 1 + shift := by
  by_cases zero : m <<< shift = 0
  · have logZero : Nat.log2 0 = 0 := by decide
    rw [zero, logZero]
    omega
  · have quotientPositive : 0 < (m <<< shift) / 1 := by
      rw [Nat.div_one]
      exact Nat.pos_of_ne_zero zero
    have bits := log2_div_lt (by decide) shift quotientPositive
    rw [Nat.div_one] at bits
    omega

theorem log2_lt_64 {n : Nat} (fits : n < 0x10000000000000000) : n.log2 < 64 := by
  by_cases zero : n = 0
  · rw [zero]
    decide
  · exact log2_lt_of_lt (Nat.pos_of_ne_zero zero) fits

theorem round_within (sign : Sign) {n : Nat} (fits : n < 0x10000000000000000) :
    Within 12 (UnpackedFloat.round Format.binary64 sign n 0) := by
  have bits := log2_lt_64 fits
  unfold UnpackedFloat.round decreaseExponent
  simp only
  generalize (0 - Format.binary64.targetExponent (totalExponent n 0)).toNat = shift
  have shifted := log2_shiftLeft_lt n shift
  refine (roundWithAccuracy_within sign _ _ .exact).mono ?_
  rw [targetExponent_eq, totalExponent]
  omega

theorem toFloat_within (n : UInt64) : Within 12 n.toFloat.toModel.unpack := by
  refine unpack_pack_within ?_ (by decide) (by decide)
  have fits := n.toNat_lt
  change Within 12 (UnpackedFloat.normalize Format.binary64 n.toNat 0 .positive)
  unfold UnpackedFloat.normalize
  split
  · exact round_within .negative (by omega)
  · trivial
  · exact round_within .positive (by omega)

theorem one_within : Within 0 Float.exactlyRepresentablePowersOfTen[0].toModel.unpack :=
  unpack_within (by decide +kernel) (by decide : 1023 < 2047) (by decide) (by decide)

theorem mantissaBits_eq : Format.binary64.mantissaBits = 53 := rfl

theorem ofScientific_within {n : Nat} (fits : n < 0x10000000000000000) :
    Within 971 (UnpackedFloat.ofScientific Format.binary64 n 0) := by
  have bits := log2_lt_64 fits
  have shifted := log2_shiftLeft_lt n 53
  have small : ¬(0 : Int) > 2 ^ 11 := by decide
  have large : ¬(0 : Int) < -(2 ^ 11 + (n.log2 : Int)) := by omega
  unfold UnpackedFloat.ofScientific
  split
  · trivial
  · rw [if_pos (Int.le_refl 0), mul_finite]
    refine (roundWithAccuracy_within _ _ _ .exact).mono ?_
    rw [targetExponent_eq, totalExponent, mantissaBits_eq, Int.toNat_zero, Nat.pow_zero, Nat.mul_one]
    omega

theorem ofNat_isFinite {n : Nat} (fits : n < 0x10000000000000000) :
    (Float.ofNat n).isFinite = true := by
  change (Float.ofScientific n false 0).isFinite = true
  unfold Float.ofScientific
  split
  · have product := mul_within (toFloat_within n.toUInt64) one_within
    exact isFinite_of_within (unpack_pack_within product (by decide) (by decide))
  · exact isFinite_of_within (unpack_pack_within (ofScientific_within fits) (by decide) (by decide))

theorem neg_isFinite {x : Float} (finite : x.isFinite = true) : (-x).isFinite = true := by
  have within := (isFinite_iff x).mp finite
  change (Float.Model.pack x.toModel.unpack.neg).unpack.isFinite = true
  have negated : Within 971 x.toModel.unpack.neg := by
    generalize x.toModel.unpack = u at within ⊢
    cases u with
    | zero sign => trivial
    | finite sign m e positive => exact within
    | infinity sign => exact within.elim
    | notANumber => exact within.elim
  exact isFinite_of_within (unpack_pack_within negated (by decide) (by decide))

/-! ## Decimal numbers -/

def isLarge : UnpackedFloat → Bool
  | .finite .positive m e _ => 4 ≤ totalExponent m e
  | _ => false

theorem powerOfTen_isLarge : ∀ n < 309, n ≠ 0 → isLarge (powerOfTen n).toModel.unpack = true := by
  decide +kernel

theorem powerOfTen_isFinite (n : Nat) (small : n < 309) : (powerOfTen n).isFinite = true := by
  by_cases zero : n = 0
  · rw [zero]
    decide +kernel
  · have large := powerOfTen_isLarge n small zero
    change (powerOfTen n).toModel.unpack.isFinite = true
    unfold isLarge at large
    split at large
    · rename_i same
      rw [same]
      rfl
    · cases large

theorem div_isFinite {x : Float} (finite : x.isFinite = true) {n : Nat} (small : n < 309)
    (nonzero : n ≠ 0) : (x / powerOfTen n).isFinite = true := by
  have large := powerOfTen_isLarge n small nonzero
  have within := (isFinite_iff x).mp finite
  change (Float.Model.pack (UnpackedFloat.div Format.binary64 x.toModel.unpack
    (powerOfTen n).toModel.unpack)).unpack.isFinite = true
  generalize (powerOfTen n).toModel.unpack = divisor at large ⊢
  unfold isLarge at large
  split at large
  · rename_i m e positive
    have quotient := div_within within positive (of_decide_eq_true large)
    exact isFinite_of_within (unpack_pack_within quotient (by decide) (by decide))
  · cases large

theorem scale_isFinite (fuel : Nat) {x y : Float} (exponent : Int) (finite : x.isFinite = true)
    (scaled : scale fuel x exponent = some y) : y.isFinite = true := by
  induction fuel generalizing x exponent with
  | zero =>
      obtain rfl := Option.some.inj scaled
      decide +kernel
  | succ fuel ih =>
      rw [scale] at scaled
      split at scaled
      · rename_i small
        split at scaled
        · simp only at scaled
          split at scaled
          · cases scaled
          · rename_i bounded
            obtain rfl := Option.some.inj scaled
            exact mul_isFinite finite (powerOfTen_isFinite _ (by omega)) (by simpa using bounded)
        · rename_i negative
          obtain rfl := Option.some.inj scaled
          exact div_isFinite finite (by omega) (by omega)
      · split at scaled
        · exact Option.some.inj scaled ▸ finite
        · split at scaled
          · cases scaled
          · exact ih (exponent + 308) (div_isFinite finite (by decide) (by decide)) scaled

end Decimal

def Number.Finite : Number → Prop
  | .whole n => -0x8000000000000000 ≤ n ∧ n < 0x10000000000000000
  | .float x => x.isFinite = true

theorem Number.Finite.toFloat {n : Number} (finite : n.Finite) : n.toFloat.isFinite = true := by
  cases n with
  | float x => exact finite
  | whole n =>
      obtain ⟨low, high⟩ := finite
      cases n with
      | ofNat n =>
          have fits : (n : Int) < 0x10000000000000000 := high
          exact Decimal.ofNat_isFinite (by omega)
      | negSucc n => exact Decimal.neg_isFinite (Decimal.ofNat_isFinite (by omega))

namespace Document

open Decimal

theorem takeDigits_lt (digits : List Char) {significand : Nat}
    (fits : significand < 0x10000000000000000) :
    (takeDigits significand digits).1 < 0x10000000000000000 := by
  induction digits generalizing significand with
  | nil => exact fits
  | cons d rest ih =>
      unfold takeDigits
      simp only
      split
      · exact fits
      · exact ih (by omega)

theorem number?_finite {numeral : Numeral} {n : Number} (value : numeral.number? = some n) :
    n.Finite := by
  have head := takeDigits_lt numeral.whole (by decide : 0 < 0x10000000000000000)
  unfold Numeral.number? at value
  simp only at value
  split at value
  · rename_i whole
    simp only [Bool.and_eq_true, Bool.or_eq_true, decide_eq_true_eq] at whole
    obtain ⟨_, signed⟩ := whole
    obtain rfl := Option.some.inj value
    unfold Number.Finite
    cases negative : numeral.negative with
    | false => simp only [Bool.false_eq_true, if_false]; omega
    | true =>
        rw [negative] at signed
        simp only [Bool.not_true, Bool.false_eq_true, false_or] at signed
        simp only [if_true]
        omega
  · obtain ⟨x, scaled, rfl⟩ := Option.map_eq_some_iff.mp value
    have significand := takeDigits_lt (numeral.fraction.getD []) head
    have finite := scale_isFinite 4 _ (ofNat_isFinite significand) scaled
    unfold Number.Finite
    simp only
    split
    · exact neg_isFinite finite
    · exact finite

inductive Finite : Document → Prop where
  | null : Finite .null
  | bool (b : Bool) : Finite (.bool b)
  | number {n : Number} (finite : n.Finite) : Finite (.number n)
  | string (s : String) : Finite (.string s)
  | array {items : List Document} (each : ∀ item ∈ items, Finite item) : Finite (.array items)
  | object {members : List (Option String × Document)}
      (each : ∀ member ∈ members, Finite member.2) : Finite (.object members)
  | unreadable : Finite .unreadable
  | torn : Finite .torn

theorem readNumber_finite (cs : List Char) : (readNumber cs).1.Finite := by
  rw [readNumber_eq]
  unfold readUnsigned
  simp only
  split
  · exact .torn
  · split
    · exact .torn
    · split
      · exact .torn
      · split
        · rename_i value
          exact .number (number?_finite value)
        · exact .unreadable

theorem nested_finite {depth : Nat} {node : Document} (finite : node.Finite)
    (rest : Option (List Char)) : (nested depth node rest).1.Finite := by
  unfold nested
  split
  · exact .unreadable
  · exact finite

/-- Whatever is read from a text, broken off or not, holds finite numbers only. -/
theorem reads_finite (fuel depth : Nat) (cs : List Char) :
    (readValue fuel depth cs).1.Finite ∧
      (∀ item ∈ (readItems fuel depth cs).1, item.Finite) ∧
      ∀ member ∈ (readMembers fuel depth cs).1, member.2.Finite := by
  induction fuel generalizing depth cs with
  | zero =>
      exact ⟨.torn, List.forall_mem_singleton.mpr .torn, List.forall_mem_singleton.mpr .torn⟩
  | succ fuel ih =>
      refine ⟨?_, ?_, ?_⟩
      · unfold readValue
        split
        · exact .null
        · exact .bool true
        · exact .bool false
        · split
          · exact .string _
          · exact .unreadable
          · exact .torn
        · simp only
          split
          · exact nested_finite (.array (List.forall_mem_nil _)) _
          · exact nested_finite (.array (ih _ _).2.1) _
        · simp only
          split
          · exact nested_finite (.object (List.forall_mem_nil _)) _
          · exact nested_finite (.object (ih _ _).2.2) _
        · exact readNumber_finite _
      · unfold readItems
        simp only
        have first := (ih depth cs).1
        split
        · exact List.forall_mem_singleton.mpr first
        · split
          · exact List.forall_mem_singleton.mpr first
          · exact List.forall_mem_cons.mpr ⟨first, (ih depth _).2.1⟩
          · exact List.forall_mem_cons.mpr ⟨first, List.forall_mem_singleton.mpr .torn⟩
      · unfold readMembers
        split
        · split
          · exact List.forall_mem_singleton.mpr .torn
          · split
            · simp only
              have first := fun rest => (ih depth rest).1
              split
              · exact List.forall_mem_singleton.mpr (first _)
              · split
                · exact List.forall_mem_singleton.mpr (first _)
                · exact List.forall_mem_cons.mpr ⟨first _, (ih depth _).2.2⟩
                · exact List.forall_mem_cons.mpr ⟨first _, List.forall_mem_singleton.mpr .torn⟩
            · exact List.forall_mem_singleton.mpr .torn
        · exact List.forall_mem_singleton.mpr .torn

theorem read_finite (s : String) : (Document.read s).1.Finite :=
  (reads_finite (2 * s.toList.length + 2) 0 s.toList).1

end Document

end FleetMonitor
