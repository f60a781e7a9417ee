import FleetMonitor.Proofs.Keys
import FleetMonitor.Store
import Mathlib.Data.List.Forall2

/-!
# Catalogues of metrics

A store files a sample under an id that it drew for the sample's metric.  Which ids are drawn
is up to the store; what counts is that a metric keeps its id and shares it with no other, so
a series can be asked for by the id as well as by the name.
-/

set_option autoImplicit false

namespace FleetMonitor

structure Measurement where
  clusterId : Int
  key : String
  hostname : String
  created : Instant
  value : Float

namespace Measurement

def metric (m : Measurement) : Int × String :=
  (m.clusterId, m.key)

def belongs (m : Measurement) (clusterId : Int) (key hostname : String) (since : Instant) : Bool :=
  m.metric == (clusterId, key) && m.hostname == hostname && decide (since ≤ m.created)

end Measurement

/-- The times and values of a series since a time, in the order in which they were taken. -/
def seriesOf (measured : List Measurement) (clusterId : Int) (key hostname : String)
    (since : Instant) : List (Instant × Float) :=
  (measured.filter (·.belongs clusterId key hostname since)).map fun m => (m.created, m.value)

structure Sample.Files (metrics : List ((Int × String) × Int)) (sample : Sample)
    (m : Measurement) : Prop where
  clusterId : sample.clusterId = m.clusterId
  metricId : metrics.lookup m.metric = some sample.metricId
  hostname : sample.hostname = m.hostname
  created : sample.created = m.created
  value : sample.value = m.value

/-- The metrics have ids of their own up to the last one that was drawn, and the samples are
filed under them. -/
structure Catalogued (metrics : List ((Int × String) × Int)) (drawn : Int)
    (samples : List Sample) (measured : List Measurement) : Prop where
  drawn : ∀ metric id, metrics.lookup metric = some id → id ≤ drawn
  apart : ∀ metric other id, metrics.lookup metric = some id → metrics.lookup other = some id →
    metric = other
  known : ∀ metric, metrics.lookup metric ≠ none ↔ ∃ m ∈ measured, m.metric = metric
  filed : List.Forall₂ (Sample.Files metrics) samples measured

namespace Catalogued

variable {metrics : List ((Int × String) × Int)} {drawn : Int} {samples : List Sample}
  {measured : List Measurement}

theorem nil (drawn : Int) : Catalogued [] drawn [] [] :=
  ⟨by simp, by simp, by simp, .nil⟩

/-- A series by id is the series by name. -/
theorem series (catalogued : Catalogued metrics drawn samples measured) (clusterId : Int)
    (key hostname : String) (since : Instant) (id : Int)
    (known : metrics.lookup (clusterId, key) = some id) :
    (samples.filter (·.belongs clusterId id hostname since)).map
        (fun sample => (sample.created, sample.value)) =
      seriesOf measured clusterId key hostname since := by
  have apart := catalogued.apart
  have filed := catalogued.filed
  clear catalogued
  unfold seriesOf
  induction filed with
  | nil => rfl
  | @cons sample m samples measured files _ ih =>
      have same : sample.belongs clusterId id hostname since =
          m.belongs clusterId key hostname since := by
        have sameMetric : (m.clusterId = clusterId ∧ sample.metricId = id) ↔
            m.metric = (clusterId, key) := by
          constructor
          · rintro ⟨_, rfl⟩
            exact apart _ _ _ files.metricId known
          · intro own
            have found := files.metricId
            rw [own, known] at found
            exact ⟨congrArg Prod.fst own, (Option.some.inj found).symm⟩
        rw [Bool.eq_iff_iff]
        simp only [Sample.belongs, Measurement.belongs, Bool.and_eq_true, beq_iff_eq,
          decide_eq_true_eq, files.clusterId, files.hostname, files.created, sameMetric]
      rw [List.filter_cons, List.filter_cons, same]
      split
      · rw [List.map_cons, List.map_cons, ih, files.created, files.value]
      · exact ih

theorem unfiled (catalogued : Catalogued metrics drawn samples measured) (clusterId : Int)
    (hostname : String) (since : Instant) (id : Int)
    (unknown : ∀ key, metrics.lookup (clusterId, key) ≠ some id) :
    samples.filter (·.belongs clusterId id hostname since) = [] := by
  have filed := catalogued.filed
  clear catalogued
  induction filed with
  | nil => rfl
  | @cons sample m samples measured files _ ih =>
      rw [List.filter_cons_of_neg, ih]
      intro belongs
      simp only [Sample.belongs, Bool.and_eq_true, beq_iff_eq, files.clusterId] at belongs
      obtain ⟨⟨⟨rfl, rfl⟩, _⟩, _⟩ := belongs
      exact unknown m.key files.metricId

theorem known_snoc (m : Measurement) (metric : Int × String) :
    (∃ other ∈ measured ++ [m], other.metric = metric) ↔
      (∃ other ∈ measured, other.metric = metric) ∨ m.metric = metric := by
  simp only [List.mem_append, List.mem_singleton, or_and_right, exists_or, exists_eq_left]

theorem again (catalogued : Catalogued metrics drawn samples measured) {later : Int}
    (onward : drawn ≤ later) (m : Measurement) (id : Int)
    (known : metrics.lookup m.metric = some id) :
    Catalogued metrics later
      (samples ++ [⟨m.clusterId, id, m.hostname, m.created, m.value⟩]) (measured ++ [m]) where
  drawn metric id found := Int.le_trans (catalogued.drawn metric id found) onward
  apart := catalogued.apart
  known metric := by
    rw [catalogued.known, known_snoc]
    refine ⟨Or.inl, ?_⟩
    rintro (old | rfl)
    · exact old
    · exact (catalogued.known m.metric).mp (by simp [known])
  filed := List.rel_append catalogued.filed (.cons ⟨rfl, known, rfl, rfl, rfl⟩ .nil)

theorem first (catalogued : Catalogued metrics drawn samples measured) {later : Int}
    (m : Measurement) (id : Int) (new : metrics.lookup m.metric = none) (fresh : drawn < id)
    (upTo : id ≤ later) :
    Catalogued (metrics ++ [(m.metric, id)]) later
      (samples ++ [⟨m.clusterId, id, m.hostname, m.created, m.value⟩]) (measured ++ [m]) := by
  have found : ∀ metric other, (metrics ++ [(m.metric, id)]).lookup metric = some other ↔
      metrics.lookup metric = some other ∨ metric = m.metric ∧ id = other := by
    intro metric other
    rw [List.lookup_append]
    by_cases own : metric = m.metric
    · simp [own, new]
    · rw [List.lookup_cons, beq_eq_false_iff_ne.mpr own]
      simp [own]
  refine ⟨?_, ?_, ?_, ?_⟩
  · intro metric other isOther
    rcases (found metric other).mp isOther with old | ⟨_, rfl⟩
    · exact Int.le_trans (catalogued.drawn metric other old) (Int.le_trans (Int.le_of_lt fresh) upTo)
    · exact upTo
  · intro metric other shared isShared alsoShared
    -- The new id is greater than all that were drawn.
    rcases (found metric shared).mp isShared with old | ⟨isNew, same⟩ <;>
      rcases (found other shared).mp alsoShared with older | ⟨alsoNew, alsoSame⟩
    · exact catalogued.apart metric other shared old older
    · rw [← alsoSame] at old
      exact absurd (catalogued.drawn metric id old) (Int.not_le.mpr fresh)
    · rw [← same] at older
      exact absurd (catalogued.drawn other id older) (Int.not_le.mpr fresh)
    · rw [isNew, alsoNew]
  · intro metric
    rw [known_snoc, ← catalogued.known, Option.ne_none_iff_exists', Option.ne_none_iff_exists']
    simp only [found, exists_or]
    constructor
    · rintro (old | ⟨_, rfl, _⟩)
      · exact Or.inl old
      · exact Or.inr rfl
    · rintro (old | rfl)
      · exact Or.inl old
      · exact Or.inr ⟨id, rfl, rfl⟩
  · refine List.rel_append ?_ (.cons ⟨rfl, (found _ _).mpr (Or.inr ⟨rfl, rfl⟩), rfl, rfl, rfl⟩ .nil)
    exact catalogued.filed.imp fun sample other files =>
      ⟨files.clusterId, (found _ _).mpr (Or.inl files.metricId), files.hostname, files.created,
        files.value⟩

end Catalogued

end FleetMonitor
