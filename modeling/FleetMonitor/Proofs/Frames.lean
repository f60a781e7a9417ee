import FleetMonitor.Proofs.Entries
import FleetMonitor.Proofs.Readings

/-!
# Keys at both ends of a path

A path without an entry of its own is read under a key that it starts and ends
with.  Such keys are prefixes of one path, so they come in the order of their
lengths, and the first one is the shortest.  All other entries are of no account.
-/

set_option autoImplicit false

namespace FleetMonitor

namespace Host

def IsFrame (key path : String) : Prop :=
  key.toList <+: path.toList ∧ key.toList <:+ path.toList

instance (key path : String) : Decidable (IsFrame key path) :=
  inferInstanceAs (Decidable (_ ∧ _))

def InOrder (host : Host) : Prop :=
  Ascending nameBefore host.data

structure ShortestFrame (host : Host) (path key : String) (value : Json) : Prop where
  member : (key, value) ∈ host.data
  isFrame : IsFrame key path
  least : ∀ other ∈ host.data, IsFrame other.1 path → key.length ≤ other.1.length

def dropData (host : Host) (gone : String → Bool) : Host :=
  { host with data := host.data.filter fun entry => !gone entry.1 }

theorem frames_iff (key path : String) : frames key path = true ↔ IsFrame key path := by
  simp [frames, IsFrame]

theorem isFrame_self (path : String) : IsFrame path path :=
  ⟨List.prefix_refl _, List.suffix_refl _⟩

/-! ## The order of frames -/

theorem IsFrame.length_le {key other path : String} (isFrame : IsFrame key path)
    (otherFrame : IsFrame other path) (before : key < other) : key.length ≤ other.length := by
  by_contra longer
  have shorter : other.toList.length ≤ key.toList.length := by
    simp only [String.length_toList]
    omega
  have within := List.prefix_of_prefix_length_le otherFrame.1 isFrame.1 shorter
  exact within.le (String.lt_iff_toList_lt.mp before)

theorem IsFrame.eq_of_length {key other path : String} (isFrame : IsFrame key path)
    (otherFrame : IsFrame other path) (same : key.length = other.length) : key = other := by
  have lengths : key.toList.length = other.toList.length := by
    simpa only [String.length_toList] using same
  have within := List.prefix_of_prefix_length_le isFrame.1 otherFrame.1 lengths.le
  exact String.toList_injective (within.eq_of_length lengths)

section Shortest

variable {host : Host} {path key : String} {value : Json}

theorem ShortestFrame.unique (inOrder : host.InOrder)
    (shortest : host.ShortestFrame path key value) {other : String} {otherValue : Json}
    (alsoShortest : host.ShortestFrame path other otherValue) :
    (key, value) = (other, otherValue) := by
  have lengths : key.length = other.length :=
    Nat.le_antisymm (shortest.least _ alsoShortest.member alsoShortest.isFrame)
      (alsoShortest.least _ shortest.member shortest.isFrame)
  have same := shortest.isFrame.eq_of_length alsoShortest.isFrame lengths
  exact inOrder.eq_of_key ordersNames shortest.member alsoShortest.member same

theorem shortestFrame_of_find (inOrder : host.InOrder)
    (found : host.data.find? (fun entry => frames entry.1 path) = some (key, value)) :
    host.ShortestFrame path key value := by
  obtain ⟨isFrame, before, after, layout, others⟩ := List.find?_eq_some_iff_append.mp found
  have isFrame := (frames_iff key path).mp isFrame
  refine ⟨layout ▸ by simp, isFrame, fun other member otherFrame => ?_⟩
  rw [layout] at member
  rcases List.mem_append.mp member with earlier | later
  · have noFrame := others other earlier
    rw [(frames_iff other.1 path).mpr otherFrame] at noFrame
    cases noFrame
  · rcases List.mem_cons.mp later with rfl | behind
    · exact le_rfl
    · rw [InOrder, layout] at inOrder
      have follows := (List.pairwise_cons.mp (List.pairwise_append.mp inOrder).2.1).1 other behind
      exact isFrame.length_le otherFrame (of_decide_eq_true follows)

theorem entry_iff_of_absent (inOrder : host.InOrder) (absent : host.data.lookup path = none) :
    host.entry? path = some value ↔ ∃ key, host.ShortestFrame path key value := by
  have isFound : host.entry? path =
      (host.data.find? (fun entry => frames entry.1 path)).map (·.2) := by
    unfold entry?
    rw [absent]
  rw [isFound]
  constructor
  · intro found
    obtain ⟨⟨key, _⟩, isFirst, rfl⟩ := Option.map_eq_some_iff.mp found
    exact ⟨key, shortestFrame_of_find inOrder isFirst⟩
  · rintro ⟨key, shortest⟩
    cases found : host.data.find? (fun entry => frames entry.1 path) with
    | none =>
      have noFrame := List.find?_eq_none.mp found (key, value) shortest.member
      exact absurd ((frames_iff key path).mpr shortest.isFrame) noFrame
    | some entry =>
      cases shortest.unique inOrder (shortestFrame_of_find inOrder found)
      rfl

end Shortest

/-! ## Data in order -/

theorem inOrder_ofNested (name : String) (updated : Instant) (payload : Json) :
    (ofNested name updated payload).InOrder := by
  cases payload with
  | object members => exact Json.sortMembers_ascending _
  | _ => exact List.Pairwise.nil

theorem inOrder_addData (host : Host) (entries : List (String × Json)) :
    (host.addData entries).InOrder :=
  Json.sortMembers_ascending _

theorem inOrder_dropData {host : Host} (inOrder : host.InOrder) (gone : String → Bool) :
    (host.dropData gone).InOrder :=
  inOrder.filter _

theorem lookup_iff {host : Host} (inOrder : host.InOrder) (key : String) (value : Json) :
    host.data.lookup key = some value ↔ (key, value) ∈ host.data :=
  lookup_eq_some_iff_mem_of_nodup (inOrder.keys_nodup ordersNames) key value

theorem mem_addData_iff {host : Host} (inOrder : host.InOrder) {entries : List (String × Json)}
    {key : String} (other : ∀ entry ∈ entries, entry.1 ≠ key) (value : Json) :
    (key, value) ∈ (host.addData entries).data ↔ (key, value) ∈ host.data := by
  have distinct : (host.data.reverse.map (·.1)).Nodup := by
    rw [List.map_reverse]
    exact List.nodup_reverse.mpr (inOrder.keys_nodup ordersNames)
  have notAdded : entries.reverse.lookup key = none :=
    List.lookup_eq_none_iff.mpr fun entry isOne =>
      bne_iff_ne.mpr (other entry (List.mem_reverse.mp isOne)).symm
  rw [← lookup_iff (host.inOrder_addData entries), addData, Json.lookup_sortMembers,
    List.reverse_append, List.lookup_append, notAdded, Option.none_or,
    lookup_eq_some_iff_mem_of_nodup distinct, List.mem_reverse]

theorem mem_dropData_iff (host : Host) {gone : String → Bool} {key : String}
    (stays : gone key = false) (value : Json) :
    (key, value) ∈ (host.dropData gone).data ↔ (key, value) ∈ host.data := by
  simp [dropData, stays]

/-! ## What a metric depends on -/

theorem ShortestFrame.of_same {host other : Host} {path key : String} {value : Json}
    (shortest : host.ShortestFrame path key value)
    (same : ∀ key value, IsFrame key path →
      ((key, value) ∈ host.data ↔ (key, value) ∈ other.data)) :
    other.ShortestFrame path key value where
  member := (same key value shortest.isFrame).mp shortest.member
  isFrame := shortest.isFrame
  least entry member isFrame :=
    shortest.least entry ((same entry.1 entry.2 isFrame).mpr member) isFrame

theorem metric_eq_of_same {host other : Host} (inOrder : host.InOrder)
    (otherInOrder : other.InOrder) {path : String}
    (same : ∀ key value, IsFrame key path →
      ((key, value) ∈ other.data ↔ (key, value) ∈ host.data)) :
    other.metric? path = host.metric? path := by
  have exact : other.data.lookup path = host.data.lookup path := by
    ext value
    rw [lookup_iff otherInOrder, lookup_iff inOrder]
    exact same path value (isFrame_self path)
  have entries : other.entry? path = host.entry? path := by
    cases found : host.data.lookup path with
    | some value =>
      unfold entry?
      rw [exact, found]
    | none =>
      ext value
      rw [entry_iff_of_absent otherInOrder (exact.trans found), entry_iff_of_absent inOrder found]
      exact exists_congr fun key => ⟨fun shortest => shortest.of_same same,
        fun shortest => shortest.of_same fun key value isFrame => (same key value isFrame).symm⟩
  rw [metric?, metric?, entries]

end Host

def Json.IsNumeral : Json → Prop
  | .number _ => True
  | .string s => ∃ x, Decimal.float? (Text.trim s) = some x ∧ x.isNaN = false
  | _ => False

namespace Host

/-- A value other than the name of what is not a number is read unless it is neither a numeral
nor a flag. -/
theorem reading_eq_none_iff {value : Json} (named : value.namesNaN = false) :
    reading? value = none ↔ ¬ value.IsNumeral ∧ ∀ flag, value ≠ .bool flag := by
  cases value with
  | string s =>
    change Decimal.float? (Text.trim s) = none ↔
      ¬ (∃ x, Decimal.float? (Text.trim s) = some x ∧ x.isNaN = false) ∧ _
    cases spelled : Decimal.float? (Text.trim s) with
    | none => simp
    | some x =>
      have isNumber : x.isNaN = false := (Decimal.isNaN_float spelled).trans named
      exact iff_of_false (by simp) fun notNumeral => notNumeral.1 ⟨x, rfl, isNumber⟩
  | _ => simp [reading?, Json.IsNumeral]

/-- A path without an entry of its own is read under its shortest frame: the shortest of the
keys that it starts and ends with.  There is none if there is no such key, or if the value is
no number, no flag and no text that spells a number.  So entries under keys that are no frames
of the path, which is a frame of itself, can be added and taken out, and it is still read as
before. -/
theorem metric_reads_shortest_frame {host : Host} (inOrder : host.InOrder) (path : String) :
    (host.data.lookup path = none →
      (∀ key value, host.ShortestFrame path key value →
        host.metric? path = reading? value ∧
          (value.namesNaN = false →
            (host.metric? path = none ↔ ¬ value.IsNumeral ∧ ∀ flag, value ≠ .bool flag))) ∧
      ((∃ entry ∈ host.data, IsFrame entry.1 path) →
        ∃ key value, host.ShortestFrame path key value) ∧
      ((∀ entry ∈ host.data, ¬ IsFrame entry.1 path) → host.metric? path = none)) ∧
    (∀ entries, (∀ entry ∈ entries, ¬ IsFrame entry.1 path) →
      (host.addData entries).metric? path = host.metric? path) ∧
    ∀ gone, (∀ key, gone key = true → ¬ IsFrame key path) →
      (host.dropData gone).metric? path = host.metric? path := by
  refine ⟨fun absent => ⟨?_, ?_, ?_⟩, ?_, ?_⟩
  · intro key value shortest
    have found : host.entry? path = some value :=
      (entry_iff_of_absent inOrder absent).mpr ⟨key, shortest⟩
    have read : host.metric? path = reading? value := by rw [metric?, found, Option.bind_some]
    exact ⟨read, fun named => read ▸ reading_eq_none_iff named⟩
  · rintro ⟨entry, member, isFrame⟩
    cases found : host.data.find? (fun entry => frames entry.1 path) with
    | none =>
      exact absurd ((frames_iff entry.1 path).mpr isFrame)
        (List.find?_eq_none.mp found entry member)
    | some first => exact ⟨first.1, first.2, shortestFrame_of_find inOrder found⟩
  · intro noFrame
    have nothing : host.entry? path = none := by
      refine Option.eq_none_iff_forall_not_mem.mpr fun value found => ?_
      obtain ⟨key, shortest⟩ := (entry_iff_of_absent inOrder absent).mp found
      exact noFrame _ shortest.member shortest.isFrame
    rw [metric?, nothing, Option.bind_none]
  · intro entries noFrame
    refine metric_eq_of_same inOrder (host.inOrder_addData entries) fun key value isFrame => ?_
    exact mem_addData_iff inOrder (fun entry isOne same => noFrame entry isOne (same ▸ isFrame)) value
  · intro gone noFrame
    refine metric_eq_of_same inOrder (inOrder_dropData inOrder gone) fun key value isFrame => ?_
    have stays : gone key = false := Bool.eq_false_iff.mpr fun isGone => noFrame key isGone isFrame
    exact mem_dropData_iff host stays value

/-- Entries under two frames of one path, of which the longer one overlaps itself. -/
def twoFrames : Host :=
  ⟨"web-1", ⟨0⟩, [("ab", .string " 7 "), ("abab", .number (.whole 9)), ("b", .null)], []⟩

theorem shorter_frame_is_read :
    twoFrames.InOrder ∧ twoFrames.data.lookup "ababab" = none ∧
      twoFrames.ShortestFrame "ababab" "ab" (.string " 7 ") ∧
      twoFrames.metric? "ababab" = reading? (.string " 7 ") ∧
      (twoFrames.metric? "ababab").isSome = true ∧
      (twoFrames.addData [("a", .null)]).metric? "ababab" = twoFrames.metric? "ababab" := by
  have inOrder : twoFrames.InOrder := by
    unfold InOrder Ascending
    decide
  have absent : twoFrames.data.lookup "ababab" = none := rfl
  have shortest : twoFrames.ShortestFrame "ababab" "ab" (.string " 7 ") :=
    ⟨by simp [twoFrames], by decide, by decide⟩
  obtain ⟨reads, adds, -⟩ := metric_reads_shortest_frame inOrder "ababab"
  exact ⟨inOrder, absent, shortest, ((reads absent).1 _ _ shortest).1, by decide +kernel,
    adds _ (by decide)⟩

def flagged : Host :=
  ⟨"web-1", ⟨0⟩, [("up", .bool true)], []⟩

/-- A flag is no numeral, but it is read. -/
theorem flag_is_read_as_one :
    flagged.InOrder ∧ flagged.data.lookup "upup" = none ∧
      flagged.ShortestFrame "upup" "up" (.bool true) ∧ ¬ (Json.bool true).IsNumeral ∧
      flagged.metric? "upup" = some 1 :=
  ⟨by unfold InOrder Ascending; decide, rfl, ⟨by simp [flagged], by decide, by decide⟩, id, rfl⟩

end Host

end FleetMonitor
