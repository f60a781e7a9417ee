import FleetMonitor.Proofs.Doubles
import Mathlib

/-!
# The double nearest to a whole number

A whole number of 64 bits is read as a double to which no other finite double is
nearer.  So it is read as itself wherever a double can be it, and that is so for
every number of 53 bits.
-/

set_option autoImplicit false

namespace FleetMonitor

namespace Decimal

open Float.Model Float.Model.UnpackedFloat

def amount : UnpackedFloat → ℚ
  | .finite sign m e _ => (sign.apply m : ℤ) * 2 ^ e
  | _ => 0

def amountOf (x : Float) : ℚ :=
  amount x.toModel.unpack

/-- No finite double is nearer to a number. -/
structure IsNearest (q : ℚ) (x : Float) : Prop where
  finite : x.isFinite = true
  nearest : ∀ y : Float, y.isFinite = true → |amountOf x - q| ≤ |amountOf y - q|

/-! ## Dropping bits -/

/-- The bits that were shifted out are known by the last one and by whether there is another. -/
theorem shifted_bits (m k : Nat) :
    ((ExtendedMantissa.mk m false false) >>> (k + 1)) =
      ⟨m / 2 ^ (k + 1), m / 2 ^ k % 2 != 0, m % 2 ^ k != 0⟩ := by
  induction k with
  | zero =>
    change ExtendedMantissa.shiftRightOne ⟨m, false, false⟩ = _
    simp [ExtendedMantissa.shiftRightOne, Nat.mod_one]
  | succ k ih =>
    change ExtendedMantissa.shiftRightOne (ExtendedMantissa.mk m false false >>> (k + 1)) = _
    have bits : m % 2 ^ (k + 1) = m % 2 ^ k + 2 ^ k * (m / 2 ^ k % 2) := Nat.mod_pow_succ
    have positive := Nat.two_pow_pos k
    have sticky : (m / 2 ^ k % 2 != 0 || m % 2 ^ k != 0) = (m % 2 ^ (k + 1) != 0) := by
      rw [bits, Bool.eq_iff_iff]
      simp only [Bool.or_eq_true, bne_iff_ne]
      rcases Nat.mod_two_eq_zero_or_one (m / 2 ^ k) with even | odd
      · rw [even]
        omega
      · rw [odd]
        omega
    rw [ih, ExtendedMantissa.shiftRightOne, sticky, Nat.div_div_eq_div_mul, ← Nat.pow_succ]

/-- A mantissa is rounded down, or up if the bits that it loses are half a unit at least. -/
theorem rounded_cases (q rest last : Nat) (isBit : last < 2) :
    (ExtendedMantissa.mk q (last != 0) (rest != 0)).roundedMantissa = q ∧
        (last = 0 ∨ rest = 0) ∨
      (ExtendedMantissa.mk q (last != 0) (rest != 0)).roundedMantissa = q + 1 ∧ last = 1 := by
  rcases (by omega : last = 0 ∨ last = 1) with rfl | rfl
  · refine .inl ⟨?_, .inl rfl⟩
    cases rest <;> rfl
  · cases rest with
    | succ rest => exact .inr ⟨rfl, rfl⟩
    | zero =>
      have tie : (ExtendedMantissa.mk q (1 != 0) (0 != 0)).roundedMantissa = q + q % 2 := rfl
      rw [tie]
      rcases Nat.mod_two_eq_zero_or_one q with even | odd
      · exact .inl ⟨by rw [even, Nat.add_zero], .inr rfl⟩
      · exact .inr ⟨by rw [odd], rfl⟩

theorem rounded_half (m k : Nat) :
    2 * |((ExtendedMantissa.mk m false false >>> k).roundedMantissa : ℤ) * 2 ^ k - m| ≤ 2 ^ k := by
  cases k with
  | zero =>
    change 2 * |((m : ℤ)) * 2 ^ 0 - m| ≤ 2 ^ 0
    simp
  | succ k =>
    have bits : m % 2 ^ (k + 1) = m % 2 ^ k + 2 ^ k * (m / 2 ^ k % 2) := Nat.mod_pow_succ
    have whole : 2 ^ (k + 1) * (m / 2 ^ (k + 1)) + m % 2 ^ (k + 1) = m := Nat.div_add_mod ..
    have below : m % 2 ^ k < 2 ^ k := Nat.mod_lt _ (Nat.two_pow_pos k)
    have isBit : m / 2 ^ k % 2 < 2 := Nat.mod_lt _ (by decide)
    rw [shifted_bits]
    generalize m / 2 ^ (k + 1) = q at whole
    generalize m % 2 ^ k = rest at bits below
    generalize m / 2 ^ k % 2 = last at bits isBit
    have sum : (m : ℤ) = q * 2 ^ (k + 1) + (rest + 2 ^ k * last) := by
      rw [← whole, bits]
      push_cast
      ring
    have unit : (2 : ℤ) ^ (k + 1) = 2 * 2 ^ k := by ring
    have below : (rest : ℤ) < 2 ^ k := by exact_mod_cast below
    rcases rounded_cases q rest last isBit with ⟨down, rfl | rfl⟩ | ⟨up, rfl⟩
    · have off : (q : ℤ) * 2 ^ (k + 1) - m = -rest := by
        rw [sum]
        push_cast
        ring
      rw [down, off, abs_neg, abs_of_nonneg (by omega)]
      omega
    · have off : (q : ℤ) * 2 ^ (k + 1) - m = -(2 ^ k * last) := by
        rw [sum]
        push_cast
        ring
      have bit : (last : ℤ) ≤ 1 := by omega
      rw [down, off, abs_neg, abs_of_nonneg (by positivity)]
      nlinarith
    · have off : ((q + 1 : ℕ) : ℤ) * 2 ^ (k + 1) - m = 2 ^ k - rest := by
        rw [sum]
        push_cast
        ring
      rw [up, off, abs_of_nonneg (by omega)]
      omega

/-- No other multiple of the unit is nearer to the mantissa. -/
theorem rounded_nearest (m k : Nat) (j : ℤ) :
    |((ExtendedMantissa.mk m false false >>> k).roundedMantissa : ℤ) * 2 ^ k - m| ≤
      |j * 2 ^ k - m| := by
  have half := rounded_half m k
  generalize ((ExtendedMantissa.mk m false false >>> k).roundedMantissa : ℤ) = r at half ⊢
  by_cases same : j = r
  · rw [same]
  · -- Another multiple is a whole unit away from the rounded one.
    have apart : 2 ^ k ≤ |j * 2 ^ k - r * 2 ^ k| := by
      rw [← sub_mul, abs_mul, abs_of_pos (by positivity : (0 : ℤ) < 2 ^ k)]
      have one : 1 ≤ |j - r| := Int.one_le_abs (sub_ne_zero.mpr same)
      nlinarith [pow_pos (two_pos : (0 : ℤ) < 2) k]
    have around : |j * 2 ^ k - r * 2 ^ k| ≤ |j * 2 ^ k - m| + |r * 2 ^ k - m| := by
      rw [abs_sub_comm (r * 2 ^ k)]
      exact abs_sub_le ..
    omega

/-! ## Rounding -/

def IsNormal (r : Nat) (e : Int) : Prop :=
  2 ^ 52 ≤ r ∧ r < 2 ^ 53 ∧ -1074 ≤ e

theorem log2_eq_of_isNormal {r : Nat} {e : Int} (normal : IsNormal r e) : r.log2 = 52 :=
  (Nat.log2_eq_iff (by have := normal.1; omega)).mpr ⟨normal.1, normal.2.1⟩

theorem shift_of_large {m : Nat} {e : Int} (large : 52 ≤ m.log2)
    (low : -1021 ≤ totalExponent m e) :
    shiftToTargetExponent Format.binary64 m e .exact =
      (ExtendedMantissa.mk m false false >>> (m.log2 - 52), e + (m.log2 - 52 : Nat)) := by
  have shift : (Format.binary64.targetExponent (totalExponent m e) - e).toNat = m.log2 - 52 := by
    rw [targetExponent_eq]
    rw [totalExponent] at low ⊢
    omega
  simp only [shiftToTargetExponent, shiftToExponent, shift]
  rfl

theorem shift_of_isNormal {r : Nat} {e : Int} (normal : IsNormal r e) :
    shiftToTargetExponent Format.binary64 r e .exact = (⟨r, false, false⟩, e) := by
  have bits := log2_eq_of_isNormal normal
  have low : -1021 ≤ totalExponent r e := by
    have := normal.2.2
    rw [totalExponent, bits]
    omega
  rw [shift_of_large bits.ge low, bits]
  simp only [Nat.sub_self, Nat.cast_zero, add_zero]
  rfl

theorem rounded_bounds {m : Nat} (large : 52 ≤ m.log2) :
    2 ^ 52 ≤ (ExtendedMantissa.mk m false false >>> (m.log2 - 52)).roundedMantissa ∧
      (ExtendedMantissa.mk m false false >>> (m.log2 - 52)).roundedMantissa ≤ 2 ^ 53 := by
  have half := rounded_half m (m.log2 - 52)
  have nonzero : m ≠ 0 := by
    rintro rfl
    exact absurd large (by decide)
  have least := Nat.log2_self_le nonzero
  have most := Nat.lt_log2_self (n := m)
  rw [show m.log2 = m.log2 - 52 + 52 by omega, Nat.pow_add] at least
  rw [show m.log2 + 1 = m.log2 - 52 + 53 by omega, Nat.pow_add] at most
  generalize (ExtendedMantissa.mk m false false >>> (m.log2 - 52)).roundedMantissa = r at half ⊢
  generalize m.log2 - 52 = k at half least most
  have unit := Nat.two_pow_pos k
  zify at least most unit ⊢
  generalize (2 : ℤ) ^ k = p at half least most unit
  obtain ⟨lower, upper⟩ := abs_le.mp (by omega : |(r : ℤ) * p - m| ≤ p / 2)
  constructor
  · by_contra few
    have : (r : ℤ) * p ≤ (2 ^ 52 - 1) * p := mul_le_mul_of_nonneg_right (by omega) unit.le
    omega
  · by_contra many
    have : (2 ^ 53 + 1) * p ≤ (r : ℤ) * p := mul_le_mul_of_nonneg_right (by omega) unit.le
    omega

theorem round_eq (sign : Sign) {m : Nat} {e E : Int} {em : ExtendedMantissa}
    (first : shiftToTargetExponent Format.binary64 m e .exact = (em, E)) (final : ExtendedMantissa)
    (F : Int)
    (second : shiftToTargetExponent Format.binary64 em.roundedMantissa E .exact = (final, F))
    (positive : 0 < final.mantissa) :
    roundWithAccuracy Format.binary64 sign m e .exact = .finite sign final.mantissa F positive := by
  unfold roundWithAccuracy
  simp only [first, second]
  exact dif_neg (Nat.ne_of_gt positive)

theorem round_of_isNormal (sign : Sign) {r : Nat} {e : Int} (normal : IsNormal r e)
    (positive : 0 < r) :
    roundWithAccuracy Format.binary64 sign r e .exact = .finite sign r e positive :=
  round_eq sign (shift_of_isNormal normal) _ _ (shift_of_isNormal normal) positive

theorem round_of_large (sign : Sign) {m : Nat} {e : Int} (large : 52 ≤ m.log2)
    (low : -1021 ≤ totalExponent m e) :
    ∃ r E positive, roundWithAccuracy Format.binary64 sign m e .exact = .finite sign r E positive ∧
      IsNormal r E ∧ E ≤ totalExponent m e - 52 ∧
      (r : ℚ) * 2 ^ E =
        (ExtendedMantissa.mk m false false >>> (m.log2 - 52)).roundedMantissa *
          2 ^ (e + (m.log2 - 52 : Nat)) := by
  obtain ⟨least, most⟩ := rounded_bounds large
  have first := shift_of_large large low
  have isPlace : e + (m.log2 - 52 : Nat) = totalExponent m e - 53 := by
    rw [totalExponent]
    omega
  rw [isPlace] at first ⊢
  have rounds := round_eq sign first
  generalize (ExtendedMantissa.mk m false false >>> (m.log2 - 52)).roundedMantissa = r
    at least most rounds ⊢
  generalize totalExponent m e = total at low rounds ⊢
  rcases Nat.lt_or_eq_of_le most with less | rfl
  · have normal : IsNormal r (total - 53) := ⟨least, less, by omega⟩
    have positive : 0 < r := Nat.lt_of_lt_of_le (by decide) least
    have rounded := rounds _ _ (shift_of_isNormal normal) positive
    exact ⟨r, total - 53, positive, rounded, normal, by omega, rfl⟩
  · -- Rounding up has made a mantissa of 54 bits, whose last one is zero.
    have bits : (2 ^ 53 : Nat).log2 = 53 := Nat.log2_two_pow
    have again : shiftToTargetExponent Format.binary64 (2 ^ 53) (total - 53) .exact =
        (⟨2 ^ 52, false, false⟩, total - 52) := by
      rw [shift_of_large (by rw [bits]; decide) (by rw [totalExponent, bits]; omega), bits]
      refine Prod.ext rfl ?_
      change total - 53 + 1 = total - 52
      omega
    have normal : IsNormal (2 ^ 52) (total - 52) := ⟨le_rfl, by decide, by omega⟩
    refine ⟨2 ^ 52, total - 52, by decide, rounds _ _ again (by decide), normal, le_rfl, ?_⟩
    rw [show total - 52 = total - 53 + 1 by omega, zpow_add_one₀ two_ne_zero]
    push_cast
    ring

/-! ## Bit patterns -/

theorem unpack_of_parts (bits : BitVec Format.binary64.numBits) {field r : Nat}
    (isField : (unpackExponent bits).toNat = field) (normal : 0 < field) (fits : field < 2047)
    (isMantissa : 2 ^ 52 + (unpackMantissa bits).toNat = r) (positive : 0 < r) :
    UnpackedFloat.unpack Format.binary64 bits =
      .finite (Sign.ofBitVec (unpackSign bits)) r (field - 1075) positive := by
  have notOnes : unpackExponent bits ≠ -BitVec.ofNat Format.binary64.exponentBits 1 := by
    intro same
    have ones : (-BitVec.ofNat Format.binary64.exponentBits 1).toNat = 2047 := by decide
    rw [← same, isField] at ones
    omega
  have notZero : unpackExponent bits ≠ BitVec.ofNat Format.binary64.exponentBits 0 := by
    intro same
    have isZero : (BitVec.ofNat Format.binary64.exponentBits 0).toNat = 0 := by decide
    rw [← same, isField] at isZero
    omega
  have leading : (BitVec.ofNat 1 1 ++ unpackMantissa bits).toNat = r := by
    rw [BitVec.toNat_append, ← isMantissa]
    exact (Nat.shiftLeft_add_eq_or_of_lt (unpackMantissa bits).isLt 1).symm
  have isExponent : ((unpackExponent bits).toNat : Int) - (Format.binary64.exponentBias +
      Format.binary64.mantissaBitsWithoutImplicit) = field - 1075 := by
    rw [isField]
    rfl
  rw [UnpackedFloat.unpack.eq_1, if_neg notOnes, if_neg notZero]
  exact UnpackedFloat.finite.injEq .. ▸ ⟨rfl, leading, isExponent⟩

theorem unpack_packComponents (sign : Sign) {field r : Nat} (normal : 0 < field)
    (fits : field < 2047) (least : 2 ^ 52 ≤ r) (less : r < 2 ^ 53) (positive : 0 < r) :
    UnpackedFloat.unpack Format.binary64 (packComponents Format.binary64 sign
        (BitVec.ofNat Format.binary64.exponentBits field)
        (BitVec.ofNat Format.binary64.mantissaBitsWithoutImplicit r)) =
      .finite sign r (field - 1075) positive := by
  refine (unpack_of_parts _ ?_ normal fits ?_ positive).trans ?_
  · rw [unpackExponent_packComponents, BitVec.toNat_ofNat]
    exact Nat.mod_eq_of_lt (Nat.lt_trans fits (by decide))
  · rw [unpackMantissa_packComponents, BitVec.toNat_ofNat]
    change 2 ^ 52 + r % 2 ^ 52 = r
    omega
  · rw [unpackSign_packComponents, Sign.ofBitVec_toBitVec]

theorem unpack_pack_of_isNormal (sign : Sign) {r : Nat} {e : Int} (normal : IsNormal r e)
    (high : e ≤ 971) (positive : 0 < r) :
    (Float.Model.pack (.finite sign r e positive)).unpack = .finite sign r e positive := by
  change UnpackedFloat.unpack Format.binary64 (UnpackedFloat.pack Format.binary64
    (.finite sign r e positive)) = _
  obtain ⟨least, less, low⟩ := id normal
  have isField : (e + Format.binary64.exponentBias +
      Format.binary64.mantissaBitsWithoutImplicit).toNat = (e + 1075).toNat := by
    change (e + 1023 + 52).toNat = _
    rw [Int.add_assoc]
    rfl
  have fits : ¬2 ^ Format.binary64.exponentBits ≤ (e + 1075).toNat + 1 := by
    change ¬2048 ≤ (e + 1075).toNat + 1
    omega
  have bits : r.log2 + 1 = Format.binary64.mantissaBits := by
    rw [log2_eq_of_isNormal normal]
    rfl
  have isExponent : ((e + 1075).toNat : Int) - 1075 = e := by omega
  rw [UnpackedFloat.pack.eq_4, isField, if_neg fits, if_pos bits,
    unpack_packComponents sign (by omega) (by omega) least less positive, isExponent]

theorem unpack_of_flipped (bits other : BitVec Format.binary64.numBits)
    (exponent : unpackExponent other = unpackExponent bits)
    (mantissa : unpackMantissa other = unpackMantissa bits)
    (sign : Sign.ofBitVec (unpackSign other) = -Sign.ofBitVec (unpackSign bits)) :
    UnpackedFloat.unpack Format.binary64 other =
      (UnpackedFloat.unpack Format.binary64 bits).neg := by
  rw [UnpackedFloat.unpack.eq_1, UnpackedFloat.unpack.eq_1]
  simp only [exponent, mantissa, sign]
  split
  · split <;> rfl
  · split
    · split <;> rfl
    · rfl

theorem unpack_pack_unpack (bits : BitVec Format.binary64.numBits) :
    UnpackedFloat.unpack Format.binary64
        (UnpackedFloat.pack Format.binary64 (UnpackedFloat.unpack Format.binary64 bits)) =
      UnpackedFloat.unpack Format.binary64 bits := by
  rw [pack_unpack bits]
  split
  · next isNaN =>
    obtain ⟨ones, mantissaNonzero⟩ := of_decide_eq_true isNaN
    rw [unpack_packedNaN, UnpackedFloat.unpack.eq_1, if_pos ones, if_neg mantissaNonzero]
  · rfl

theorem unpack_pack_neg (bits : BitVec Format.binary64.numBits) :
    UnpackedFloat.unpack Format.binary64
        (UnpackedFloat.pack Format.binary64 (UnpackedFloat.unpack Format.binary64 bits).neg) =
      (UnpackedFloat.unpack Format.binary64 bits).neg := by
  have flipped := unpack_of_flipped bits
    (packComponents Format.binary64 (-Sign.ofBitVec (unpackSign bits))
      (unpackExponent bits) (unpackMantissa bits))
    (unpackExponent_packComponents ..) (unpackMantissa_packComponents ..)
    (by rw [unpackSign_packComponents, Sign.ofBitVec_toBitVec])
  rw [← flipped, unpack_pack_unpack]

theorem unpack_neg (x : Float) : (-x).toModel.unpack = x.toModel.unpack.neg :=
  unpack_pack_neg x.toModel.toBits.toBitVec

/-! ## The nearest double -/

theorem abs_scaled (j : ℤ) (m : Nat) (e : Int) :
    (|j - m| : ℤ) * (2 : ℚ) ^ e = |(j : ℚ) * 2 ^ e - m * 2 ^ e| := by
  have unit : (0 : ℚ) < 2 ^ e := by positivity
  rw [← sub_mul, abs_mul, abs_of_pos unit]
  push_cast
  rfl

/-- A finite double is a multiple of the unit, or lies below every number with so many bits. -/
theorem exists_multiple {v : UnpackedFloat} (within : Within 971 v) {m : Nat} {e : Int}
    (large : 52 ≤ m.log2) :
    ∃ j : ℤ, (|j * 2 ^ (m.log2 - 52) - m| : ℤ) * (2 : ℚ) ^ e ≤ |amount v - m * 2 ^ e| := by
  cases v with
  | infinity sign => exact within.elim
  | notANumber => exact within.elim
  | zero sign =>
    have noAmount : amount (.zero sign) = 0 := rfl
    refine ⟨0, le_of_eq ?_⟩
    rw [abs_scaled, noAmount]
    simp
  | finite sign n f positive =>
    have few : |sign.apply n| < 2 ^ 53 := by
      have small : (n : ℤ) < 2 ^ 53 := by exact_mod_cast within.1
      cases sign <;> simpa [Sign.apply] using small
    change ∃ j : ℤ, _ ≤ |(sign.apply n : ℚ) * 2 ^ f - m * 2 ^ e|
    generalize sign.apply n = signed at few
    by_cases above : e + (m.log2 - 52 : Nat) ≤ f
    · obtain ⟨more, rfl⟩ := Int.le.dest above
      refine ⟨signed * 2 ^ more, le_of_eq ?_⟩
      rw [abs_scaled, zpow_add₀ two_ne_zero, zpow_add₀ two_ne_zero, zpow_natCast, zpow_natCast]
      congr 2
      push_cast
      ring
    · refine ⟨2 ^ 52, ?_⟩
      have bits : (2 : ℤ) ^ 52 * 2 ^ (m.log2 - 52) ≤ m := by
        have nonzero : m ≠ 0 := by
          rintro rfl
          exact absurd large (by decide)
        rw [← pow_add, show 52 + (m.log2 - 52) = m.log2 by omega]
        exact_mod_cast Nat.log2_self_le nonzero
      have unit : (0 : ℚ) < 2 ^ e := by positivity
      have place : ((2 ^ 52 * 2 ^ (m.log2 - 52) : ℤ) : ℚ) * 2 ^ e =
          2 ^ 52 * 2 ^ (e + (m.log2 - 52 : Nat)) := by
        rw [zpow_add₀ two_ne_zero, zpow_natCast]
        push_cast
        ring
      have least : ((2 ^ 52 * 2 ^ (m.log2 - 52) : ℤ) : ℚ) * 2 ^ e ≤ m * 2 ^ e :=
        mul_le_mul_of_nonneg_right (by exact_mod_cast bits) unit.le
      have lower : (signed : ℚ) * 2 ^ f ≤ 2 ^ 52 * 2 ^ (e + (m.log2 - 52 : Nat)) :=
        calc (signed : ℚ) * 2 ^ f ≤ 2 ^ 53 * 2 ^ f := by
              refine mul_le_mul_of_nonneg_right ?_ (by positivity)
              exact_mod_cast (le_abs_self signed).trans few.le
          _ = 2 ^ 52 * 2 ^ (f + 1) := by
              rw [zpow_add_one₀ two_ne_zero]
              ring
          _ ≤ 2 ^ 52 * 2 ^ (e + (m.log2 - 52 : Nat)) := by
              refine mul_le_mul_of_nonneg_left ?_ (by positivity)
              exact zpow_le_zpow_right₀ one_le_two (by omega)
      rw [abs_scaled, abs_of_nonpos (by linarith), abs_of_nonpos (by linarith)]
      linarith

/-- No finite double is nearer than what a large mantissa is rounded to. -/
theorem isNearest_of_round {x : Float} {m : Nat} {e : Int} (large : 52 ≤ m.log2)
    (low : -1021 ≤ totalExponent m e) (high : totalExponent m e ≤ 1023)
    (rounds : x.toModel =
      .pack (roundWithAccuracy Format.binary64 .positive m e .exact)) :
    IsNearest (m * 2 ^ e) x := by
  obtain ⟨r, E, positive, rounded, normal, below, isAmount⟩ := round_of_large .positive large low
  have unpacked : x.toModel.unpack = .finite .positive r E positive := by
    rw [rounds, rounded, unpack_pack_of_isNormal .positive normal (by omega) positive]
  refine ⟨?_, fun y finite => ?_⟩
  · change x.toModel.unpack.isFinite = true
    rw [unpacked]
    rfl
  · obtain ⟨j, further⟩ := exists_multiple ((isFinite_iff y).mp finite) (e := e) large
    have isValue : amountOf x = (r : ℚ) * 2 ^ E := by
      rw [amountOf, unpacked]
      rfl
    refine le_trans ?_ further
    have nearer := rounded_nearest m (m.log2 - 52) j
    generalize (ExtendedMantissa.mk m false false >>> (m.log2 - 52)).roundedMantissa = rounded
      at isAmount nearer
    have place : (rounded : ℚ) * 2 ^ (e + (m.log2 - 52 : Nat)) =
        ((rounded * 2 ^ (m.log2 - 52) : ℤ) : ℚ) * 2 ^ e := by
      rw [zpow_add₀ two_ne_zero, zpow_natCast]
      push_cast
      ring
    rw [isValue, isAmount, place, ← abs_scaled]
    exact mul_le_mul_of_nonneg_right (by exact_mod_cast nearer) (by positivity)

/-! ## Whole numbers -/

theorem amountOf_neg (x : Float) : amountOf (-x) = -amountOf x := by
  rw [amountOf, amountOf, unpack_neg]
  cases x.toModel.unpack with
  | finite sign m e positive =>
    change ((-sign).apply m : ℚ) * 2 ^ e = -((sign.apply m : ℚ) * 2 ^ e)
    cases sign with
    | positive =>
      change ((-(m : ℤ) : ℤ) : ℚ) * 2 ^ e = -(((m : ℤ) : ℚ) * 2 ^ e)
      push_cast
      ring
    | negative =>
      change ((m : ℤ) : ℚ) * 2 ^ e = -(((-(m : ℤ) : ℤ) : ℚ) * 2 ^ e)
      push_cast
      ring
  | _ => exact neg_zero.symm

theorem IsNearest.neg {q : ℚ} {x : Float} (isNearest : IsNearest q x) : IsNearest (-q) (-x) := by
  refine ⟨neg_isFinite isNearest.finite, fun y finite => ?_⟩
  have mirrored := isNearest.nearest (-y) (neg_isFinite finite)
  rw [amountOf_neg] at mirrored ⊢
  calc |-amountOf x - -q| = |amountOf x - q| := by rw [← neg_sub', abs_neg]
    _ ≤ |-amountOf y - q| := mirrored
    _ = |amountOf y - -q| := by rw [← neg_add', abs_neg, sub_neg_eq_add]

theorem isNormal_shifted {n : Nat} (positive : 0 < n) (small : n < 2 ^ 53) :
    IsNormal (n * 2 ^ (52 - n.log2)) (-(52 - n.log2 : Nat)) := by
  have least := Nat.log2_self_le (Nat.ne_of_gt positive)
  have most := Nat.lt_log2_self (n := n)
  have bits := log2_lt_of_lt positive small
  refine ⟨?_, ?_, by omega⟩
  · calc 2 ^ 52 = 2 ^ n.log2 * 2 ^ (52 - n.log2) := by rw [← Nat.pow_add]; congr 1; omega
      _ ≤ n * 2 ^ (52 - n.log2) := Nat.mul_le_mul_right _ least
  · calc n * 2 ^ (52 - n.log2) < 2 ^ (n.log2 + 1) * 2 ^ (52 - n.log2) :=
          Nat.mul_lt_mul_of_pos_right most (Nat.two_pow_pos _)
      _ = 2 ^ 53 := by rw [← Nat.pow_add]; congr 1; omega

theorem unpack_toFloat {n : Nat} (nonzero : 0 < n) (small : n < 2 ^ 53) :
    ∃ positive, n.toUInt64.toFloat.toModel.unpack =
      .finite .positive (n * 2 ^ (52 - n.log2)) (-(52 - n.log2 : Nat)) positive := by
  have normal := isNormal_shifted nonzero small
  have positive : 0 < n * 2 ^ (52 - n.log2) := Nat.mul_pos nonzero (Nat.two_pow_pos _)
  have bits := log2_lt_of_lt nonzero small
  have shift : (0 - Format.binary64.targetExponent (totalExponent n 0)).toNat = 52 - n.log2 := by
    rw [targetExponent_eq, totalExponent]
    omega
  have same : n.toUInt64.toNat = n := Nat.mod_eq_of_lt (Nat.lt_trans small (by decide))
  have rounds : UnpackedFloat.ofUInt64 Format.binary64 n.toUInt64 =
      .finite .positive (n * 2 ^ (52 - n.log2)) (-(52 - n.log2 : Nat)) positive := by
    have isPositive : compare (n : Int) 0 = .gt := compare_gt_iff_gt.mpr (by omega)
    change UnpackedFloat.normalize Format.binary64 n.toUInt64.toNat 0 .positive = _
    rw [same, UnpackedFloat.normalize, isPositive]
    change roundWithAccuracy Format.binary64 .positive (n <<< _) (0 - _) .exact = _
    rw [Int.toNat_natCast, shift, Nat.shiftLeft_eq, zero_sub]
    exact round_of_isNormal .positive normal positive
  refine ⟨positive, ?_⟩
  change (Float.Model.pack (UnpackedFloat.ofUInt64 Format.binary64 n.toUInt64)).unpack = _
  rw [rounds, unpack_pack_of_isNormal .positive normal (by omega) positive]

theorem unpack_one : Float.exactlyRepresentablePowersOfTen[0].toModel.unpack =
    .finite .positive (2 ^ 52) (-52) (by decide) :=
  rfl

theorem log2_mul_pow {m : Nat} (positive : 0 < m) (k : Nat) : (m * 2 ^ k).log2 = m.log2 + k := by
  have least := Nat.log2_self_le (Nat.ne_of_gt positive)
  have most := Nat.lt_log2_self (n := m)
  refine (Nat.log2_eq_iff (Nat.ne_of_gt (Nat.mul_pos positive (Nat.two_pow_pos k)))).mpr ⟨?_, ?_⟩
  · rw [Nat.pow_add]
    exact Nat.mul_le_mul_right _ least
  · rw [Nat.add_right_comm, Nat.pow_add]
    exact Nat.mul_lt_mul_of_pos_right most (Nat.two_pow_pos k)

theorem isNearest_small {n : Nat} (nonzero : 0 < n) (small : n < 2 ^ 53) :
    IsNearest n (n.toUInt64.toFloat * Float.exactlyRepresentablePowersOfTen[0]) := by
  obtain ⟨positive, unpacked⟩ := unpack_toFloat nonzero small
  have normal := isNormal_shifted nonzero small
  have bits := log2_lt_of_lt nonzero small
  have long : (n * 2 ^ (52 - n.log2) * 2 ^ 52).log2 = 104 := by
    rw [log2_mul_pow positive, log2_eq_of_isNormal normal]
  have total : totalExponent (n * 2 ^ (52 - n.log2) * 2 ^ 52) (-(52 - n.log2 : Nat) + -52) =
      n.log2 + 1 := by
    rw [totalExponent, long]
    omega
  have nearest := isNearest_of_round (x := n.toUInt64.toFloat *
      Float.exactlyRepresentablePowersOfTen[0]) (m := n * 2 ^ (52 - n.log2) * 2 ^ 52)
    (e := -(52 - n.log2 : Nat) + -52) (by omega) (by omega) (by omega) ?_
  · have isValue : (n : ℚ) = (n * 2 ^ (52 - n.log2) * 2 ^ 52 : Nat) *
        2 ^ (-(52 - n.log2 : Nat) + -52 : ℤ) := by
      rw [zpow_add₀ two_ne_zero, zpow_neg, zpow_natCast]
      push_cast
      field_simp
      norm_num
    rwa [← isValue] at nearest
  · change Float.Model.pack (UnpackedFloat.mul Format.binary64 n.toUInt64.toFloat.toModel.unpack
      Float.exactlyRepresentablePowersOfTen[0].toModel.unpack) = _
    rw [unpacked, unpack_one, mul_finite]
    rfl

theorem isNearest_large {n : Nat} (large : 2 ^ 53 ≤ n) (fits : n < 0x10000000000000000) :
    IsNearest n ⟨Float.Model.ofScientific n 0⟩ := by
  have positive : 0 < n := Nat.lt_of_lt_of_le (by decide) large
  have least : 53 ≤ n.log2 := (Nat.le_log2 (Nat.ne_of_gt positive)).mpr large
  have most := log2_lt_64 fits
  have long : (n * 2 ^ 53).log2 = n.log2 + 53 := log2_mul_pow positive 53
  have total : totalExponent (n * 2 ^ 53) (-53) = n.log2 + 1 := by
    rw [totalExponent, long]
    omega
  have nearest := isNearest_of_round (x := ⟨Float.Model.ofScientific n 0⟩) (m := n * 2 ^ 53)
    (e := -53) (by omega) (by omega) (by omega) ?_
  · have isValue : (n : ℚ) = (n * 2 ^ 53 : Nat) * 2 ^ (-53 : ℤ) := by
      push_cast
      rw [mul_assoc]
      norm_num
    rwa [← isValue] at nearest
  · have rounds : UnpackedFloat.ofScientific Format.binary64 n 0 =
        roundWithAccuracy Format.binary64 .positive (n * 2 ^ 53) (-53) .exact := by
      have notLarge : ¬(0 : Int) > 2 ^ 11 := by decide
      have notSmall : ¬(0 : Int) < -(2 ^ 11 + (n.log2 : Int)) := by omega
      unfold UnpackedFloat.ofScientific
      rw [dif_neg (Nat.ne_of_gt positive), if_neg notLarge, if_neg notSmall, if_pos le_rfl,
        mul_finite, Int.toNat_zero, Nat.pow_zero, Nat.mul_one, mantissaBits_eq, Nat.shiftLeft_eq]
      rfl
    exact congrArg Float.Model.pack rounds

theorem isNearest_ofNat {n : Nat} (fits : n < 0x10000000000000000) :
    IsNearest n (Float.ofNat n) := by
  rcases Nat.eq_zero_or_pos n with rfl | positive
  · refine ⟨ofNat_isFinite fits, fun y _ => ?_⟩
    have zero : amountOf (Float.ofNat 0) = 0 := rfl
    rw [zero]
    simp
  · change IsNearest n (Float.ofScientific n false 0)
    unfold Float.ofScientific
    split
    · next small => exact isNearest_small positive small.1
    · next large => exact isNearest_large (by omega) fits

/-! ## Numbers that doubles are -/

theorem IsNearest.exact {q : ℚ} {x y : Float} (isNearest : IsNearest q x)
    (finite : y.isFinite = true) (same : amountOf y = q) : amountOf x = q := by
  have near := isNearest.nearest y finite
  rw [same, sub_self, abs_zero] at near
  exact sub_eq_zero.mp (abs_nonpos_iff.mp near)

theorem exists_amountOf_natCast {n : Nat} (small : n < 2 ^ 53) :
    ∃ y : Float, y.isFinite = true ∧ amountOf y = n := by
  rcases Nat.eq_zero_or_pos n with rfl | nonzero
  · exact ⟨0, rfl, rfl⟩
  · obtain ⟨positive, unpacked⟩ := unpack_toFloat nonzero small
    refine ⟨n.toUInt64.toFloat, ?_, ?_⟩
    · change n.toUInt64.toFloat.toModel.unpack.isFinite = true
      rw [unpacked]
      rfl
    · rw [amountOf, unpacked]
      change (((n * 2 ^ (52 - n.log2) : Nat) : ℤ) : ℚ) * 2 ^ (-(52 - n.log2 : Nat) : ℤ) = n
      rw [zpow_neg, zpow_natCast]
      push_cast
      field_simp

theorem exists_amountOf_intCast {n : Int} (small : n.natAbs < 2 ^ 53) :
    ∃ y : Float, y.isFinite = true ∧ amountOf y = n := by
  obtain ⟨m, rfl | rfl⟩ := n.eq_nat_or_neg
  · exact exists_amountOf_natCast small
  · obtain ⟨y, finite, same⟩ := exists_amountOf_natCast (n := m) (by omega)
    refine ⟨-y, neg_isFinite finite, ?_⟩
    rw [amountOf_neg, same, Int.cast_neg]
    rfl

end Decimal

/-- A double is the number that it is to be, or is the double nearest to it, which is the number
itself if that has 53 bits at most. -/
def Number.IsNearest : Number → Float → Prop
  | .whole n, x => Decimal.IsNearest n x ∧ (n.natAbs < 2 ^ 53 → Decimal.amountOf x = n)
  | .float y, x => x = y

theorem Decimal.isNearest_ofInt {n : Int} (low : -0x8000000000000000 ≤ n)
    (high : n < 0x10000000000000000) : IsNearest n (Number.whole n).toFloat := by
  cases n with
  | ofNat n =>
    have fits : (n : Int) < 0x10000000000000000 := high
    exact isNearest_ofNat (by omega)
  | negSucc n =>
    have nearest := (isNearest_ofNat (n := n + 1) (by omega)).neg
    change IsNearest ((Int.negSucc n : ℤ) : ℚ) (-Float.ofNat (n + 1))
    rwa [Int.cast_negSucc]

theorem Number.Finite.isNearest {n : Number} (finite : n.Finite) : n.IsNearest n.toFloat := by
  cases n with
  | float x => exact rfl
  | whole n =>
    have nearest := Decimal.isNearest_ofInt finite.1 finite.2
    refine ⟨nearest, fun small => ?_⟩
    obtain ⟨y, isFinite, same⟩ := Decimal.exists_amountOf_intCast small
    exact nearest.exact isFinite same

end FleetMonitor
