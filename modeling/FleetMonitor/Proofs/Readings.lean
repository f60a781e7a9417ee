import FleetMonitor.Evaluation
import FleetMonitor.Proofs.Ordered

/-!
# Readings that are no number

A threshold on current values is to call a host good only for a number that
does not meet it.  What a host reports is read as a number, and arithmetic
with numbers read from decimals gives numbers; but the word `nan` is read as
well, and then no comparison holds, so a host that reports it is called good.
-/

set_option autoImplicit false

namespace FleetMonitor

/-! ## Decimals are numbers -/

namespace Decimal

open Float.Model Float.Model.UnpackedFloat

theorem isNaN_of_within {bound : Int} {u : UnpackedFloat} (within : Within bound u) :
    u.isNaN = false := by
  cases u with
  | notANumber => exact within.elim
  | infinity sign => rfl
  | zero sign => rfl
  | finite sign m e positive => rfl

theorem isNaN_pack {u : UnpackedFloat} (isNumber : u.isNaN = false) :
    (Float.Model.pack u).unpack.isNaN = false := by
  change (UnpackedFloat.unpack Format.binary64 (UnpackedFloat.pack Format.binary64 u)).isNaN = false
  have infinite (sign : Sign) : (UnpackedFloat.unpack Format.binary64
      (packedInfinity Format.binary64 sign)).isNaN = false := by
    cases sign <;> decide
  have finite (sign : Sign) {field : Nat} (notOnes : field < 2047)
      (mantissa : BitVec Format.binary64.mantissaBitsWithoutImplicit) :
      (UnpackedFloat.unpack Format.binary64
        (packComponents Format.binary64 sign (BitVec.ofNat _ field) mantissa)).isNaN = false :=
    isNaN_of_within (unpack_packComponents_within sign notOnes mantissa
      (by decide : (-1074 : Int) ≤ 972) (by omega))
  cases u with
  | notANumber => cases isNumber
  | infinity sign => exact infinite sign
  | zero sign => exact finite sign (by decide) _
  | finite sign m e positive =>
    rw [UnpackedFloat.pack.eq_4]
    split
    · exact infinite sign
    · rename_i fits
      have notOnes : (e + Format.binary64.exponentBias +
          Format.binary64.mantissaBitsWithoutImplicit).toNat < 2047 := by
        have small : ¬ 2048 ≤ (e + Format.binary64.exponentBias +
          Format.binary64.mantissaBitsWithoutImplicit).toNat + 1 := fits
        omega
      split
      · exact finite sign notOnes _
      · exact finite sign (by decide) _

theorem isNaN_mul {a b : UnpackedFloat} (finite : a.isFinite = true)
    (alsoFinite : b.isFinite = true) :
    (UnpackedFloat.mul Format.binary64 a b).isNaN = false := by
  cases a with
  | notANumber => cases finite
  | infinity sign => cases finite
  | zero sign => cases b <;> first | rfl | cases alsoFinite
  | finite sign m e positive =>
    cases b with
    | notANumber => cases alsoFinite
    | infinity other => cases alsoFinite
    | zero other => rfl
    | finite other n f alsoPositive =>
      exact isNaN_of_within (roundWithAccuracy_within (sign * other) (m * n) (e + f) .exact)

theorem isNaN_div {a : UnpackedFloat} (finite : a.isFinite = true) (sign : Sign) {n : Nat}
    (f : Int) (positive : 0 < n) :
    (UnpackedFloat.div Format.binary64 a (.finite sign n f positive)).isNaN = false := by
  cases a with
  | notANumber => cases finite
  | infinity sign => cases finite
  | zero sign => rfl
  | finite sign m e alsoPositive => exact isNaN_of_within (roundWithAccuracy_within _ _ _ _)

def isPositive : UnpackedFloat → Bool
  | .finite .positive _ _ _ => true
  | _ => false

theorem exists_of_isPositive {u : UnpackedFloat} (positive : isPositive u = true) :
    ∃ m e inMantissa, u = .finite .positive m e inMantissa := by
  unfold isPositive at positive
  split at positive
  · exact ⟨_, _, _, rfl⟩
  · cases positive

theorem powers_positive : ∀ i : Fin Float.exactlyRepresentablePowersOfTen.size,
    isPositive Float.exactlyRepresentablePowersOfTen[i].toModel.unpack = true := by
  decide +kernel

theorem isNaN_unpackedScientific (m : Nat) (e : Int) :
    (UnpackedFloat.ofScientific Format.binary64 m e).isNaN = false := by
  unfold UnpackedFloat.ofScientific
  split
  · rfl
  · split
    · rfl
    · split
      · rfl
      · split
        · exact isNaN_mul rfl rfl
        · exact isNaN_div rfl _ _ _

theorem isNaN_ofScientific (m : Nat) (minus : Bool) (e : Nat) :
    (Float.ofScientific m minus e).isNaN = false := by
  unfold Float.ofScientific
  split
  · rename_i small
    have inTable : e < Float.exactlyRepresentablePowersOfTen.size := by
      have size : Float.exactlyRepresentablePowersOfTen.size = 23 := by decide
      omega
    have finite := isFinite_of_within (toFloat_within m.toUInt64)
    obtain ⟨n, f, positive, power⟩ := exists_of_isPositive (powers_positive ⟨e, inTable⟩)
    have power : Float.exactlyRepresentablePowersOfTen[e].toModel.unpack =
      .finite .positive n f positive := power
    split
    · refine isNaN_pack (u := UnpackedFloat.div Format.binary64 _ _) ?_
      rw [power]
      exact isNaN_div finite _ _ _
    · refine isNaN_pack (u := UnpackedFloat.mul Format.binary64 _ _) ?_
      rw [power]
      exact isNaN_mul finite rfl
  · exact isNaN_pack (isNaN_unpackedScientific m _)

theorem isNaN_rounded (significand : Nat) (exponent : Int) :
    (rounded significand exponent).isNaN = false := by
  have zero : (0 : Float).isNaN = false := isNaN_ofScientific 0 false 0
  rw [rounded]
  split
  · exact zero
  · simp only
    split
    · decide +kernel
    · split
      · exact zero
      · exact isNaN_ofScientific _ _ _

theorem isNaN_neg (x : Float) : (-x).isNaN = x.isNaN := by
  cases isNumber : x.isNaN with
  | false =>
    refine isNaN_pack ?_
    change x.toModel.unpack.isNaN = false at isNumber
    generalize x.toModel.unpack = u at isNumber
    cases u <;> first | rfl | cases isNumber
  | true =>
    change (Float.Model.pack x.toModel.unpack.neg).unpack.isNaN = true
    rw [isNaN_iff.mp isNumber]
    decide

/-- A text names what is not a number: `nan` in any letter case, after a sign or none. -/
def namesNaN (s : String) : Bool :=
  (spanSign s.toList).2.map Char.toLower == "nan".toList

/-- Only by its name is a text read as what is not a number. -/
theorem isNaN_magnitude {cs : List Char} {x : Float} (read : magnitude? cs = some x) :
    x.isNaN = (cs.map Char.toLower == "nan".toList) := by
  unfold magnitude? at read
  simp only at read
  split at read
  · rename_i infinite
    obtain rfl := Option.some.inj read
    have other : (cs.map Char.toLower == "nan".toList) = false := by
      rcases infinite with name | name <;> rw [name] <;> decide
    rw [other]
    decide +kernel
  · split at read
    · rename_i named
      obtain rfl := Option.some.inj read
      rw [named]
      decide +kernel
    · rename_i unnamed
      rw [beq_eq_false_iff_ne.mpr unnamed]
      split at read
      · cases read
      · obtain ⟨exponent, -, rfl⟩ := Option.map_eq_some_iff.mp read
        exact isNaN_rounded _ _

theorem isNaN_float {s : String} {x : Float} (read : float? s = some x) :
    x.isNaN = namesNaN s := by
  unfold float? at read
  simp only at read
  obtain ⟨y, magnitude, rfl⟩ := Option.map_eq_some_iff.mp read
  rw [namesNaN, ← isNaN_magnitude magnitude]
  split
  · exact isNaN_neg y
  · rfl

end Decimal

/-! ## What a host reports -/

def Json.namesNaN : Json → Bool
  | .string s => Decimal.namesNaN (Text.trim s)
  | _ => false

namespace Host

def HoldsNumbers (host : Host) : Prop :=
  ∀ entry ∈ host.data, ∀ n, entry.2 = .number n → n.Finite

theorem mem_of_entry {host : Host} {path : String} {reported : Json}
    (found : host.entry? path = some reported) : ∃ key, (key, reported) ∈ host.data := by
  unfold entry? at found
  split at found
  · rename_i value exact
    obtain rfl := Option.some.inj found
    obtain ⟨front, back, layout, -⟩ := List.lookup_eq_some_iff.mp exact
    exact ⟨path, layout ▸ by simp⟩
  · obtain ⟨⟨key, value⟩, framed, rfl⟩ := Option.map_eq_some_iff.mp found
    exact ⟨key, List.mem_of_find?_eq_some framed⟩

/-- A value is read as what is not a number only where this is reported by name. -/
theorem isNaN_metric {host : Host} (numbers : host.HoldsNumbers) {path : String} {x : Float}
    (read : host.metric? path = some x) :
    x.isNaN = (host.entry? path).any Json.namesNaN := by
  obtain ⟨reported, found, value⟩ := Option.bind_eq_some_iff.mp read
  obtain ⟨key, inData⟩ := mem_of_entry found
  rw [found, Option.any_some]
  cases reported with
  | number n =>
    obtain rfl := Option.some.inj value
    exact Decimal.isNaN_of_isFinite (numbers _ inData n rfl).toFloat
  | string s => exact Decimal.isNaN_float value
  | bool b =>
    obtain rfl := Option.some.inj value
    cases b
    · exact Decimal.isNaN_ofScientific 0 false 0
    · exact Decimal.isNaN_ofScientific 1 false 0
  | null => cases value
  | array items => cases value
  | object members => cases value

end Host

namespace Evaluation

/-! ## What a threshold makes of it -/

/-- A host is good by a number: its value compares with the threshold, and the comparison does
not hold. -/
def isGood (e : MetricThreshold) (host : Host) : Bool :=
  (host.metric? e.metric).any fun value =>
    decide (Decimal.Compares value e.value) && !e.operator.holds value e.value

/-- A host has a value that does not compare with the threshold: the threshold is not a number,
or the host reports its value by that name. -/
def escapes (e : MetricThreshold) (host : Host) : Bool :=
  (host.metric? e.metric).isSome &&
    (e.value.isNaN || (host.entry? e.metric).any Json.namesNaN)

structure JudgesNumbers (e : MetricThreshold) (hosts : List Host) (outcome : Outcome) : Prop where
  good : outcome.good = (hosts.filter fun host => isGood e host).map (·.name)
  bad : outcome.bad = (hosts.filter fun host => !isGood e host).map (·.name)

theorem not_exceeds {e : MetricThreshold} {host : Host} (numbers : host.HoldsNumbers) :
    (!exceeds e host) = (isGood e host || escapes e host) := by
  unfold exceeds isGood escapes
  cases read : host.metric? e.metric with
  | none => rfl
  | some value =>
    simp only [Option.any_some, Option.isSome_some, Bool.true_and,
      ← Host.isNaN_metric numbers read]
    by_cases compares : Decimal.Compares value e.value
    · obtain ⟨isNumber, alsoNumber⟩ := (Decimal.compares_iff value e.value).mp compares
      rw [isNumber, alsoNumber, decide_eq_true compares]
      simp
    · have nan : e.value.isNaN = true ∨ value.isNaN = true :=
        (Decimal.not_numbers ((Decimal.compares_iff value e.value).not.mp compares)).symm
      rw [Comparison.not_holds compares, decide_eq_false compares, Bool.false_and, Bool.false_or,
        Bool.or_eq_true_iff.mpr nan]
      rfl

theorem not_isGood_of_escapes {e : MetricThreshold} {host : Host} (numbers : host.HoldsNumbers)
    (escape : escapes e host = true) : isGood e host = false := by
  unfold escapes at escape
  unfold isGood
  cases read : host.metric? e.metric with
  | none => rfl
  | some value =>
    rw [read, Option.isSome_some, Bool.true_and, ← Host.isNaN_metric numbers read,
      Bool.or_eq_true] at escape
    have apart : ¬ Decimal.Compares value e.value := fun compares => by
      obtain ⟨isNumber, alsoNumber⟩ := (Decimal.compares_iff value e.value).mp compares
      rw [isNumber, alsoNumber] at escape
      cases escape <;> contradiction
    rw [Option.any_some, decide_eq_false apart, Bool.false_and]

theorem raw_sorts (e : MetricThreshold) (hosts : List Host) :
    (raw e hosts).good = (hosts.filter fun host => !exceeds e host).map (·.name) ∧
      (raw e hosts).bad = (hosts.filter fun host => exceeds e host).map (·.name) := by
  unfold raw
  split
  · rename_i isEmpty
    rw [List.isEmpty_iff.mp isEmpty]
    exact ⟨rfl, rfl⟩
  · simp only [Outcome.tally, List.filter_map, List.map_map]
    exact ⟨rfl, rfl⟩

/-- A threshold calls good the hosts that are good by a number, and besides them those whose
value does not compare with it; all others it calls bad.  So it judges numbers exactly if no
host has a value that does not compare, and the only such value that can be reported is the
name `nan`. -/
theorem good_hosts_are_good_by_number_or_escape (e : MetricThreshold) (hosts : List Host)
    (numbers : ∀ host ∈ hosts, host.HoldsNumbers) :
    (raw e hosts).good =
        (hosts.filter fun host => isGood e host || escapes e host).map (·.name) ∧
      (raw e hosts).bad =
        (hosts.filter fun host => !(isGood e host || escapes e host)).map (·.name) ∧
      (JudgesNumbers e hosts (raw e hosts) ↔ ∀ host ∈ hosts, escapes e host = false) := by
  obtain ⟨goods, bads⟩ := raw_sorts e hosts
  have good : (raw e hosts).good =
      (hosts.filter fun host => isGood e host || escapes e host).map (·.name) := by
    rw [goods, List.filter_congr fun host listed => not_exceeds (numbers host listed)]
  have bad : (raw e hosts).bad =
      (hosts.filter fun host => !(isGood e host || escapes e host)).map (·.name) := by
    rw [bads]
    refine congrArg (List.map _) (List.filter_congr fun host listed => ?_)
    rw [← not_exceeds (numbers host listed), Bool.not_not]
  refine ⟨good, bad, fun judges => ?_, fun noEscape => ⟨?_, ?_⟩⟩
  · -- A host that escapes is one good host too many.
    have part : (hosts.filter fun host => isGood e host).Sublist
        (hosts.filter fun host => isGood e host || escapes e host) :=
      List.monotone_filter_right hosts fun host => Bool.left_le_or _ _
    have length := congrArg List.length (judges.good.symm.trans good)
    rw [List.length_map, List.length_map] at length
    have same := part.eq_of_length length
    intro host listed
    by_contra escape
    rw [Bool.not_eq_false] at escape
    have isOne : host ∈ hosts.filter fun host => isGood e host := by
      rw [same]
      exact List.mem_filter.mpr ⟨listed, by rw [escape, Bool.or_true]⟩
    have notGood := not_isGood_of_escapes (numbers host listed) escape
    rw [(List.mem_filter.mp isOne).2] at notGood
    cases notGood
  · rw [good]
    refine congrArg (List.map _) (List.filter_congr fun host listed => ?_)
    rw [noEscape host listed, Bool.or_false]
  · rw [bad]
    refine congrArg (List.map _) (List.filter_congr fun host listed => ?_)
    rw [noEscape host listed, Bool.or_false]

def reporting (name : String) (reported : Json) : Host :=
  ⟨name, ⟨0⟩, [("load", reported)], []⟩

def fourAtMost : MetricThreshold :=
  ⟨"load", .greater, 4, 1⟩

def threeHosts : List Host :=
  [reporting "web-1" (.number (.whole 9)), reporting "web-2" (.number (.whole 1)),
    reporting "web-3" (.string "linux")]

/-- A high load and a word are bad, a low load is good. -/
theorem word_is_bad :
    (∀ host ∈ threeHosts, host.HoldsNumbers) ∧
      JudgesNumbers fourAtMost threeHosts (raw fourAtMost threeHosts) ∧
      (raw fourAtMost threeHosts).good = ["web-2"] := by
  have numbers : ∀ host ∈ threeHosts, host.HoldsNumbers := by
    simp [threeHosts, reporting, Host.HoldsNumbers, Number.Finite]
  have noEscape : ∀ host ∈ threeHosts, escapes fourAtMost host = false := by decide +kernel
  have judged := good_hosts_are_good_by_number_or_escape fourAtMost threeHosts numbers
  exact ⟨numbers, judged.2.2.mpr noEscape, by decide +kernel⟩

/-- A host whose load is `NaN` is good, though its load is no number. -/
theorem nan_is_good :
    (raw fourAtMost [reporting "db-1" (.string "NaN")]).good = ["db-1"] ∧
      ¬ JudgesNumbers fourAtMost [reporting "db-1" (.string "NaN")]
        (raw fourAtMost [reporting "db-1" (.string "NaN")]) := by
  have good : (raw fourAtMost [reporting "db-1" (.string "NaN")]).good = ["db-1"] := by
    decide +kernel
  have notByNumber : ([reporting "db-1" (.string "NaN")].filter fun host =>
      isGood fourAtMost host).map (·.name) = [] := by decide +kernel
  refine ⟨good, fun judges => ?_⟩
  have same := good.symm.trans (judges.good.trans notByNumber)
  cases same

end Evaluation

end FleetMonitor
