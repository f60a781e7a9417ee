import FleetMonitor.Proofs.Likeness
import FleetMonitor.Proofs.Ordered

/-!
# Series of samples in memory

A store in memory draws an id for every metric that it is given a sample of.
The id stays with the metric, and with no other, so what the store is asked by
the id it tells of the samples of that metric: their sum, their average, the
greatest and the least of them.  It tells nothing, and breaks off, only if the
minutes it is to look back over do not end in an instant.
-/

set_option autoImplicit false

namespace FleetMonitor

/-! ## Sums and extremes -/

namespace Decimal

open Float.Model Float.Model.UnpackedFloat

theorem add_negative_zero (u : UnpackedFloat) :
    UnpackedFloat.add Format.binary64 (.zero .negative) u = u := by
  cases u with
  | zero sign => cases sign <;> rfl
  | notANumber => rfl
  | infinity sign => rfl
  | finite sign m e positive => rfl

theorem pack_unpack (x : Float) : Float.ofModel (.pack x.toModel.unpack) = x := by
  obtain ⟨⟨⟨bits⟩, valid⟩⟩ := x
  simp [Float.Model.pack, Float.Model.unpack, pack_unpack_of_valid valid]

theorem unpack_negative_zero : (-0.0 : Float).toModel.unpack = .zero .negative :=
  rfl

/-- A sum that starts from negative zero starts from its first value. -/
theorem negative_zero_add (x : Float) : -0.0 + x = x := by
  have sum : -0.0 + x = Float.ofModel (.pack (UnpackedFloat.add Format.binary64
      (-0.0 : Float).toModel.unpack x.toModel.unpack)) := rfl
  rw [sum, unpack_negative_zero, add_negative_zero, pack_unpack]

end Decimal

def sumOf : List Float → Float
  | [] => 0
  | first :: rest => rest.foldl (· + ·) first

/-- Going through values and keeping what is ahead ends with one of them that no other is ahead
of, if what is ahead shows in a place. -/
theorem foldl_ahead {κ : Type} [LinearOrder κ] (place : Float → κ) (ahead : Float → Float → Prop)
    [DecidableRel ahead] (first : Float) (rest : List Float)
    (shows : ∀ a ∈ first :: rest, ∀ b ∈ first :: rest, ahead a b ↔ place a < place b) :
    rest.foldl (fun a b => if ahead a b then b else a) first ∈ first :: rest ∧
      ∀ v ∈ first :: rest,
        place v ≤ place (rest.foldl (fun a b => if ahead a b then b else a) first) := by
  induction rest generalizing first with
  | nil => simp
  | cons next rest ih =>
    have ofNext : ∀ a ∈ next :: rest, a ∈ first :: next :: rest := fun a isOne =>
      List.mem_cons_of_mem first isOne
    have ofFirst : ∀ a ∈ first :: rest, a ∈ first :: next :: rest := fun a isOne =>
      (List.mem_cons.mp isOne).elim (fun same => same ▸ List.mem_cons_self)
        fun later => ofNext a (List.mem_cons_of_mem next later)
    have decides := shows first List.mem_cons_self next (ofNext next List.mem_cons_self)
    rw [List.foldl_cons]
    by_cases passed : ahead first next
    · obtain ⟨isOne, greatest⟩ := ih next fun a isOne b isOther =>
        shows a (ofNext a isOne) b (ofNext b isOther)
      have below := (decides.mp passed).trans_le (greatest next List.mem_cons_self)
      rw [if_pos passed]
      exact ⟨ofNext _ isOne, List.forall_mem_cons.mpr ⟨below.le, greatest⟩⟩
    · obtain ⟨isOne, greatest⟩ := ih first fun a isOne b isOther =>
        shows a (ofFirst a isOne) b (ofFirst b isOther)
      obtain ⟨atFirst, others⟩ := List.forall_mem_cons.mp greatest
      have notAhead := (not_lt.mp (decides.not.mp passed)).trans atFirst
      rw [if_neg passed]
      exact ⟨ofFirst _ isOne, List.forall_mem_cons.mpr
        ⟨atFirst, List.forall_mem_cons.mpr ⟨notAhead, others⟩⟩⟩

structure Summary.Sums (values : List Float) (summary : Summary) : Prop where
  total : summary.total = sumOf values
  average : summary.average = sumOf values / values.length.toFloat
  greatest_mem : summary.greatest ∈ values
  le_greatest : ∀ v ∈ values, v ≤ summary.greatest
  least_mem : summary.least ∈ values
  least_le : ∀ v ∈ values, summary.least ≤ v

namespace Decimal

open Float.Model Float.Model.UnpackedFloat

theorem placeOf_bounds {x : Float} (finite : x.isFinite = true) :
    placeOf MemoryStore.lowest ≤ placeOf x ∧ placeOf x ≤ placeOf MemoryStore.highest := by
  have low : placeOf MemoryStore.lowest = toLex (-1, toLex (-971, -(2 ^ 53 - 1))) := rfl
  have high : placeOf MemoryStore.highest = toLex (1, toLex (971, 2 ^ 53 - 1)) := rfl
  have within := (isFinite_iff x).mp finite
  rw [low, high, placeOf]
  cases unpacked : x.toModel.unpack with
  | notANumber => rw [unpacked] at within; exact within.elim
  | infinity sign => rw [unpacked] at within; exact within.elim
  | zero sign => exact ⟨by simp [place, Prod.Lex.le_iff], by simp [place, Prod.Lex.le_iff]⟩
  | finite sign m e positive =>
    rw [unpacked] at within
    obtain ⟨few, below⟩ : m < 2 ^ 53 ∧ e ≤ 971 := within
    cases sign <;> simp [place, Prod.Lex.le_iff] <;> omega

theorem eq_of_placeOf {x y : Float} {sign : Sign} {m : Nat} {e : Int} {positive : 0 < m}
    (unpacked : y.toModel.unpack = .finite sign m e positive) (same : placeOf x = placeOf y) :
    x = y := by
  have parts : x.toModel.unpack = .finite sign m e positive := by
    rw [placeOf, placeOf, unpacked] at same
    cases isX : x.toModel.unpack with
    | finite sign' m' e' positive' =>
      rw [isX] at same
      cases sign <;> cases sign' <;> simp_all [place]
    | notANumber => rw [isX] at same; cases sign <;> simp [place] at same
    | zero sign' => rw [isX] at same; cases sign <;> simp [place] at same
    | infinity sign' => rw [isX] at same; cases sign <;> cases sign' <;> simp [place] at same
  rw [← pack_unpack x, ← pack_unpack y, parts, unpacked]

end Decimal

section Extremes

variable {first : Float} {rest : List Float} (finite : ∀ v ∈ first :: rest, v.isFinite = true)
include finite

theorem greatestOf_spec :
    Summary.greatestOf MemoryStore.lowest (first :: rest) ∈ first :: rest ∧
      ∀ v ∈ first :: rest, v ≤ Summary.greatestOf MemoryStore.lowest (first :: rest) := by
  have numbers : ∀ v ∈ MemoryStore.lowest :: first :: rest, v.isNaN = false :=
    List.forall_mem_cons.mpr ⟨rfl, fun v isValue => Decimal.isNaN_of_isFinite (finite v isValue)⟩
  obtain ⟨isOne, greatest⟩ := foldl_ahead Decimal.placeOf (· < ·) MemoryStore.lowest
    (first :: rest) fun a isOne b isOther =>
      Decimal.lt_iff_placeOf (numbers a isOne) (numbers b isOther)
  refine ⟨?_, fun v isValue => (Decimal.le_iff_placeOf (numbers v (.tail _ isValue))
    (numbers _ isOne)).mpr (greatest v (.tail _ isValue))⟩
  -- If no value is above the lowest double, the first one is that itself.
  rcases List.mem_cons.mp isOne with isLowest | isValue
  · have below := greatest first (.tail _ (.head _))
    rw [isLowest] at below
    have same := le_antisymm below (Decimal.placeOf_bounds (finite first (.head _))).1
    have unpacked : MemoryStore.lowest.toModel.unpack =
        .finite .negative (2 ^ 53 - 1) 971 (by decide) := rfl
    have isFirst := isLowest.trans (Decimal.eq_of_placeOf unpacked same).symm
    exact List.mem_cons.mpr (.inl isFirst)
  · exact isValue

theorem leastOf_spec :
    Summary.leastOf MemoryStore.highest (first :: rest) ∈ first :: rest ∧
      ∀ v ∈ first :: rest, Summary.leastOf MemoryStore.highest (first :: rest) ≤ v := by
  have numbers : ∀ v ∈ MemoryStore.highest :: first :: rest, v.isNaN = false :=
    List.forall_mem_cons.mpr ⟨rfl, fun v isValue => Decimal.isNaN_of_isFinite (finite v isValue)⟩
  obtain ⟨isOne, least⟩ := foldl_ahead (fun x => OrderDual.toDual (Decimal.placeOf x))
    (fun a b => b < a) MemoryStore.highest (first :: rest) fun a isOne b isOther =>
      Decimal.lt_iff_placeOf (numbers b isOther) (numbers a isOne)
  refine ⟨?_, fun v isValue => (Decimal.le_iff_placeOf (numbers _ isOne)
    (numbers v (.tail _ isValue))).mpr (least v (.tail _ isValue))⟩
  rcases List.mem_cons.mp isOne with isHighest | isValue
  · have above := OrderDual.toDual_le_toDual.mp (least first (.tail _ (.head _)))
    rw [isHighest] at above
    have same := le_antisymm (Decimal.placeOf_bounds (finite first (.head _))).2 above
    have unpacked : MemoryStore.highest.toModel.unpack =
        .finite .positive (2 ^ 53 - 1) 971 (by decide) := rfl
    have isFirst := isHighest.trans (Decimal.eq_of_placeOf unpacked same).symm
    exact List.mem_cons.mpr (.inl isFirst)
  · exact isValue

end Extremes

def Told (values : List Float) (answer : Timely (Option Summary)) : Prop :=
  (answer = some (.ok none) ↔ values = []) ∧
    (values ≠ [] → ∃ summary, answer = some (.ok (some summary)) ∧ summary.Sums values)

theorem told_summarize {values : List Float} (finite : ∀ v ∈ values, v.isFinite = true) :
    Told values (some (.ok (MemoryStore.summarize values))) := by
  cases values with
  | nil => exact ⟨by simp [MemoryStore.summarize], fun nonempty => absurd rfl nonempty⟩
  | cons first rest =>
    have sum : (first :: rest).foldl (· + ·) (-0.0) = sumOf (first :: rest) := by
      rw [List.foldl_cons, Decimal.negative_zero_add]
      rfl
    refine ⟨by simp [MemoryStore.summarize], fun _ => ⟨_, rfl, ?_⟩⟩
    exact
      { total := sum
        average := by rw [sum, List.length_cons]
        greatest_mem := (greatestOf_spec finite).1
        le_greatest := (greatestOf_spec finite).2
        least_mem := (leastOf_spec finite).1
        least_le := (leastOf_spec finite).2 }

/-! ## Ids of metrics -/

namespace MemoryStore

def sampled (taken : List Measurement) : MemoryStore :=
  taken.foldl
    (fun store m => store.addSample m.clusterId m.key m.hostname m.created m.value) empty

theorem sampled_snoc (taken : List Measurement) (m : Measurement) :
    sampled (taken ++ [m]) =
      (sampled taken).addSample m.clusterId m.key m.hostname m.created m.value := by
  rw [sampled, List.foldl_append]
  rfl

theorem addSample_known {store : MemoryStore} {m : Measurement} {id : Int}
    (known : store.metrics.lookup m.metric = some id) :
    store.addSample m.clusterId m.key m.hostname m.created m.value =
      { store with
        samples := store.samples ++ [⟨m.clusterId, id, m.hostname, m.created, m.value⟩] } := by
  rw [addSample, withMetric_known known]

theorem addSample_new {store : MemoryStore} {m : Measurement}
    (new : store.metrics.lookup m.metric = none) :
    store.addSample m.clusterId m.key m.hostname m.created m.value =
      { store with
        metrics := store.metrics ++ [(m.metric, (store.metrics.length : Int) + 1)]
        samples := store.samples ++
          [⟨m.clusterId, store.metrics.length + 1, m.hostname, m.created, m.value⟩] } := by
  rw [addSample, withMetric_new new]
  rfl

theorem sampled_catalogued (taken : List Measurement) :
    Catalogued (sampled taken).metrics (sampled taken).metrics.length (sampled taken).samples
      taken := by
  induction taken using List.reverseRecOn with
  | nil => exact .nil 0
  | append_singleton taken m ih =>
    rw [sampled_snoc]
    cases old : (sampled taken).metrics.lookup m.metric with
    | some id =>
      rw [addSample_known old]
      exact ih.again (Int.le_refl _) m id old
    | none =>
      rw [addSample_new old]
      refine ih.first m _ old (Int.lt_succ _) ?_
      rw [List.length_append]
      exact Int.le_refl _

theorem addSample_metricId? {store : MemoryStore} (m : Measurement) {clusterId : Int}
    {key : String} {id : Int} (known : store.metricId? clusterId key = some id) :
    (store.addSample m.clusterId m.key m.hostname m.created m.value).metricId? clusterId key =
      some id := by
  cases old : store.metrics.lookup m.metric with
  | some other => rwa [addSample_known old]
  | none =>
    have listed : store.metrics.lookup (clusterId, key) = some id := known
    rw [addSample_new old, metricId?, List.lookup_append, listed, Option.some_or]

theorem sampled_metricId? (taken more : List Measurement) {clusterId : Int} {key : String}
    {id : Int} (known : (sampled taken).metricId? clusterId key = some id) :
    (sampled (taken ++ more)).metricId? clusterId key = some id := by
  induction more using List.reverseRecOn with
  | nil => rwa [List.append_nil]
  | append_singleton more m ih =>
    rw [← List.append_assoc, sampled_snoc]
    exact addSample_metricId? m ih

end MemoryStore

/-! ## Looking back -/

/-- A stretch of minutes that ends at an instant has a start: the minutes are a distance, and
it is within the calendar. -/
def Instant.LooksBack (now : Instant) (minutes : Int) : Prop :=
  (minutes * 60).natAbs ≤ 9223372036854775 ∧
    (⟨now.micros - minutes * 60000000⟩ : Instant).inRange = true

instance (now : Instant) (minutes : Int) : Decidable (now.LooksBack minutes) :=
  inferInstanceAs (Decidable (_ ∧ _))

theorem Instant.minutesBefore?_eq (now : Instant) (minutes : Int) :
    now.minutesBefore? minutes =
      if now.LooksBack minutes then some ⟨now.micros - minutes * 60000000⟩ else none := by
  have start : (⟨now.micros + -(minutes * 60) * second⟩ : Instant) =
      ⟨now.micros - minutes * 60000000⟩ := by
    rw [second]
    congr 1
    ring
  rw [minutesBefore?, minutes?, distance?]
  by_cases isDistance : (minutes * 60).natAbs ≤ 9223372036854775
  · rw [if_pos isDistance]
    change now.plus? (-(minutes * 60)) = _
    simp only [plus?, start, LooksBack, isDistance, true_and]
  · rw [if_neg isDistance, if_neg fun looksBack => isDistance looksBack.1]
    rfl

/-- The values of a series that were taken at or after the start of a stretch of minutes. -/
def valuesSince (taken : List Measurement) (now : Instant) (clusterId : Int)
    (key hostname : String) (minutes : Int) : List Float :=
  (taken.filter
    (·.belongs clusterId key hostname ⟨now.micros - minutes * 60000000⟩)).map (·.value)

namespace MemoryStore

/-- An aggregate is the summary of the values since the start of its minutes, if they have
one. -/
theorem aggregate_sampled (taken : List Measurement) {clusterId : Int} {key : String} {id : Int}
    (known : (sampled taken).metricId? clusterId key = some id) (now : Instant)
    (hostname : String) (minutes : Int) :
    (Store.memory (sampled taken)).aggregate now clusterId id hostname minutes =
      if now.LooksBack minutes then
        some (.ok (summarize (valuesSince taken now clusterId key hostname minutes)))
      else none := by
  have told (since : Instant) : (sampled taken).aggregate clusterId id hostname since =
      summarize ((seriesOf taken clusterId key hostname since).map (·.2)) := by
    rw [aggregate_eq, ← (sampled_catalogued taken).series clusterId key hostname since id known]
    rfl
  rw [Store.aggregate, Instant.minutesBefore?_eq]
  split
  · change some (Except.ok ((sampled taken).aggregate clusterId id hostname _)) = _
    rw [told, seriesOf, List.map_map]
    rfl
  · rfl

/-- After any samples were added, every metric of them has an id, which it keeps whatever is
added later and which no other metric has; and an aggregate under the id is told of the
samples of that metric and host that were taken since the start of its minutes, exactly if
these have a start.  If they have none, asking for it breaks off. -/
theorem aggregates_are_of_their_metric (taken : List Measurement)
    (finite : ∀ m ∈ taken, m.value.isFinite = true) :
    (∀ clusterId key, (sampled taken).metricId? clusterId key ≠ none ↔
      ∃ m ∈ taken, m.metric = (clusterId, key)) ∧
    (∀ more clusterId key id, (sampled taken).metricId? clusterId key = some id →
      (sampled (taken ++ more)).metricId? clusterId key = some id) ∧
    (∀ clusterId key otherCluster otherKey id,
      (sampled taken).metricId? clusterId key = some id →
      (sampled taken).metricId? otherCluster otherKey = some id →
        clusterId = otherCluster ∧ key = otherKey) ∧
    ∀ clusterId key id, (sampled taken).metricId? clusterId key = some id →
      ∀ now hostname minutes,
        (Told (valuesSince taken now clusterId key hostname minutes)
            ((Store.memory (sampled taken)).aggregate now clusterId id hostname minutes) ↔
          now.LooksBack minutes) ∧
        (¬ now.LooksBack minutes →
          (Store.memory (sampled taken)).aggregate now clusterId id hostname minutes = none) := by
  have catalogued := sampled_catalogued taken
  refine ⟨fun clusterId key => catalogued.known (clusterId, key),
    fun more _ _ _ known => sampled_metricId? taken more known, ?_, ?_⟩
  · intro clusterId key otherCluster otherKey id known alsoKnown
    have same := catalogued.apart (clusterId, key) (otherCluster, otherKey) id known alsoKnown
    exact Prod.mk.inj same
  · intro clusterId key id known now hostname minutes
    rw [aggregate_sampled taken known now hostname minutes]
    have valuesFinite : ∀ v ∈ valuesSince taken now clusterId key hostname minutes,
        v.isFinite = true := by
      intro v isValue
      obtain ⟨m, isOne, rfl⟩ := List.mem_map.mp isValue
      exact finite m (List.mem_of_mem_filter isOne)
    by_cases looksBack : now.LooksBack minutes
    · rw [if_pos looksBack]
      exact ⟨iff_of_true (told_summarize valuesFinite) looksBack, fun endless =>
        absurd looksBack endless⟩
    · rw [if_neg looksBack]
      refine ⟨iff_of_false ?_ looksBack, fun _ => rfl⟩
      rintro ⟨nothing, something⟩
      by_cases isEmpty : valuesSince taken now clusterId key hostname minutes = []
      · cases nothing.mpr isEmpty
      · obtain ⟨summary, told, -⟩ := something isEmpty
        cases told

def loads : List Measurement :=
  [⟨1, "load", "web-1", ⟨100⟩, 1⟩, ⟨1, "load", "web-1", ⟨200⟩, 3⟩]

/-- Two loads are told of over the last five minutes. -/
theorem two_loads_are_told :
    (∀ m ∈ loads, m.value.isFinite = true) ∧ (sampled loads).metricId? 1 "load" = some 1 ∧
      Told (valuesSince loads ⟨300⟩ 1 "load" "web-1" 5)
        ((Store.memory (sampled loads)).aggregate ⟨300⟩ 1 1 "web-1" 5) := by
  have finite : ∀ m ∈ loads, m.value.isFinite = true := by decide +kernel
  have known : (sampled loads).metricId? 1 "load" = some 1 := by decide +kernel
  obtain ⟨-, -, -, told⟩ := aggregates_are_of_their_metric loads finite
  exact ⟨finite, known, (told 1 "load" 1 known ⟨300⟩ "web-1" 5).1.mpr (by decide)⟩

/-- Over more minutes than a distance can have, nothing is told, not even of a sample that was
just taken. -/
theorem endless_stretch_tells_nothing :
    (sampled loads).metricId? 1 "load" = some 1 ∧
      (Store.memory (sampled loads)).aggregate ⟨300⟩ 1 1 "web-1" 9223372036854775807 = none ∧
      ¬ Told (valuesSince loads ⟨300⟩ 1 "load" "web-1" 9223372036854775807)
        ((Store.memory (sampled loads)).aggregate ⟨300⟩ 1 1 "web-1" 9223372036854775807) := by
  have known : (sampled loads).metricId? 1 "load" = some 1 := by decide +kernel
  have endless : ¬ (⟨300⟩ : Instant).LooksBack 9223372036854775807 := by decide
  have broken :
      (Store.memory (sampled loads)).aggregate ⟨300⟩ 1 1 "web-1" 9223372036854775807 = none := by
    rw [aggregate_sampled loads known, if_neg endless]
  refine ⟨known, broken, ?_⟩
  rw [broken]
  rintro ⟨nothing, something⟩
  have nonempty : valuesSince loads ⟨300⟩ 1 "load" "web-1" 9223372036854775807 ≠ [] := by
    have count : (valuesSince loads ⟨300⟩ 1 "load" "web-1" 9223372036854775807).length = 2 := by
      decide +kernel
    exact List.ne_nil_of_length_pos (by omega)
  obtain ⟨summary, told, -⟩ := something nonempty
  cases told

end MemoryStore

end FleetMonitor
