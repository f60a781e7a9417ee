import FleetMonitor.Proofs.Frames
import FleetMonitor.Proofs.Nearest

/-!
# Leaves of nested reports

A nested report is read as flat data: what stands in its objects, at any depth,
under the keys that lead there, joined with points.  As long as no key has a
point in it, the joined keys tell where a leaf stands, so flattening keeps every
leaf, mixes none up and makes none up.
-/

set_option autoImplicit false

namespace FleetMonitor

namespace Json

/-- A part of a value that is no object, and the keys of the objects around it, from the
outermost to the innermost. -/
inductive LeafAt : Json → List String → Json → Prop where
  | here {leaf : Json} (noObject : ∀ members, leaf ≠ .object members) : LeafAt leaf [] leaf
  | inside {members : List (String × Json)} {key : String} {value leaf : Json}
      {keys : List String} (member : (key, value) ∈ members) (below : LeafAt value keys leaf) :
      LeafAt (.object members) (key :: keys) leaf

/-- No object down to the leaves has two members under one key, or a point in a key. -/
inductive Pointless : Json → Prop where
  | leaf {leaf : Json} (noObject : ∀ members, leaf ≠ .object members) : Pointless leaf
  | object {members : List (String × Json)} (distinct : (members.map (·.1)).Nodup)
      (noPoint : ∀ member ∈ members, '.' ∉ member.1.toList)
      (inside : ∀ member ∈ members, Pointless member.2) : Pointless (.object members)

theorem LeafAt.noPoint {value leaf : Json} {keys : List String} (leafAt : value.LeafAt keys leaf)
    (pointless : value.Pointless) : ∀ key ∈ keys, '.' ∉ key.toList := by
  induction leafAt with
  | here noObject => simp
  | inside member below ih =>
    cases pointless with
    | leaf noObject => exact absurd rfl (noObject _)
    | object distinct noPoint inside =>
      exact List.forall_mem_cons.mpr ⟨noPoint _ member, ih (inside _ member)⟩

theorem LeafAt.unique {value leaf other : Json} {keys : List String}
    (leafAt : value.LeafAt keys leaf) (pointless : value.Pointless)
    (otherAt : value.LeafAt keys other) : leaf = other := by
  induction leafAt with
  | here noObject =>
    cases otherAt with
    | here _ => rfl
  | inside member below ih =>
    cases otherAt with
    | inside otherMember otherBelow =>
      cases pointless with
      | leaf noObject => exact absurd rfl (noObject _)
      | object distinct noPoint inside =>
        cases List.inj_on_of_nodup_map distinct member otherMember rfl
        exact ih (inside _ member) otherBelow

end Json

namespace Host

open Json

/-! ## Joined keys -/

theorem joined_step (path key : String) (keys : List String) :
    ".".intercalate ((path ++ "." ++ key) :: keys) = ".".intercalate (path :: key :: keys) := by
  cases keys with
  | nil => simp
  | cons next rest => simp [String.append_assoc]

theorem joined_injective {keys others : List String} (nonempty : keys ≠ [])
    (othersNonempty : others ≠ []) (noPoint : ∀ key ∈ keys, '.' ∉ key.toList)
    (othersNoPoint : ∀ key ∈ others, '.' ∉ key.toList)
    (same : ".".intercalate keys = ".".intercalate others) : keys = others := by
  have parted {keys : List String} (nonempty : keys ≠ [])
      (noPoint : ∀ key ∈ keys, '.' ∉ key.toList) :
      (".".intercalate keys).toList.splitOn '.' = keys.map String.toList := by
    rw [String.toList_intercalate]
    exact List.splitOn_intercalate '.' (by simpa using noPoint) (by simpa using nonempty)
  have pieces := parted nonempty noPoint
  rw [same, parted othersNonempty othersNoPoint] at pieces
  exact (List.map_injective_iff.mpr (fun _ _ => String.toList_injective) pieces).symm

/-! ## The entries of a value -/

mutual

theorem leafAt_of_mem_leaves (value : Json) (path : String) {entry : String × Json}
    (isEntry : entry ∈ leaves path value) :
    ∃ keys, value.LeafAt keys entry.2 ∧ entry.1 = ".".intercalate (path :: keys) := by
  -- The two theorems follow the recursion of a value and its members, of which each is flattened
  -- under a longer path.
  cases value with
  | object members =>
    obtain ⟨key, value, keys, member, below, joined⟩ :=
      leafAt_of_mem_memberLeaves members path isEntry
    exact ⟨key :: keys, .inside member below, joined⟩
  | _ =>
    obtain rfl := List.mem_singleton.mp isEntry
    exact ⟨[], .here (by simp), by simp⟩

theorem leafAt_of_mem_memberLeaves (members : List (String × Json)) (path : String)
    {entry : String × Json} (isEntry : entry ∈ memberLeaves path members) :
    ∃ key value keys, (key, value) ∈ members ∧ value.LeafAt keys entry.2 ∧
      entry.1 = ".".intercalate (path :: key :: keys) := by
  match members with
  | [] => cases isEntry
  | (key, value) :: rest =>
    rcases List.mem_append.mp isEntry with ofFirst | ofRest
    · obtain ⟨keys, below, joined⟩ := leafAt_of_mem_leaves value _ ofFirst
      exact ⟨key, value, keys, List.mem_cons_self, below, joined.trans (joined_step ..)⟩
    · obtain ⟨key, value, keys, member, found⟩ := leafAt_of_mem_memberLeaves rest path ofRest
      exact ⟨key, value, keys, List.mem_cons_of_mem _ member, found⟩

end

theorem mem_memberLeaves {members : List (String × Json)} {key : String} {value : Json}
    {path : String} {entry : String × Json} (member : (key, value) ∈ members)
    (isEntry : entry ∈ leaves (path ++ "." ++ key) value) :
    entry ∈ memberLeaves path members := by
  induction members with
  | nil => cases member
  | cons first rest ih =>
    refine List.mem_append.mpr ?_
    rcases List.mem_cons.mp member with rfl | later
    · exact .inl isEntry
    · exact .inr (ih later)

theorem mem_leaves_of_leafAt {value leaf : Json} {keys : List String}
    (leafAt : value.LeafAt keys leaf) (path : String) :
    (".".intercalate (path :: keys), leaf) ∈ leaves path value := by
  induction leafAt generalizing path with
  | @here leaf noObject =>
    have own : leaves path leaf = [(path, leaf)] := by
      cases leaf with
      | object members => exact absurd rfl (noObject members)
      | _ => rfl
    simp [own]
  | @inside members key value leaf keys member below ih =>
    have isEntry := ih (path ++ "." ++ key)
    rw [joined_step] at isEntry
    exact mem_memberLeaves member isEntry

theorem mem_leaves_iff (value : Json) (path : String) (entry : String × Json) :
    entry ∈ leaves path value ↔
      ∃ keys, value.LeafAt keys entry.2 ∧ entry.1 = ".".intercalate (path :: keys) := by
  refine ⟨leafAt_of_mem_leaves value path, ?_⟩
  rintro ⟨keys, leafAt, joined⟩
  have isEntry := mem_leaves_of_leafAt leafAt path
  rwa [← joined] at isEntry

/-! ## The data of a nested report -/

theorem mem_flatMap_leaves_iff (members : List (String × Json)) (entry : String × Json) :
    entry ∈ (members.flatMap fun (key, value) => leaves key value) ↔
      ∃ keys, (Json.object members).LeafAt keys entry.2 ∧ entry.1 = ".".intercalate keys := by
  obtain ⟨path, leaf⟩ := entry
  simp only [List.mem_flatMap, mem_leaves_iff]
  constructor
  · rintro ⟨⟨key, value⟩, member, keys, below, joined⟩
    exact ⟨key :: keys, .inside member below, joined⟩
  · rintro ⟨keys, leafAt, joined⟩
    cases leafAt with
    | here noObject => exact absurd rfl (noObject members)
    | @inside _ key value _ keys member below => exact ⟨(key, value), member, keys, below, joined⟩

theorem leafAt_inj {members : List (String × Json)} (pointless : (Json.object members).Pointless)
    {keys others : List String} {leaf other : Json}
    (leafAt : (Json.object members).LeafAt keys leaf)
    (otherAt : (Json.object members).LeafAt others other)
    (same : ".".intercalate keys = ".".intercalate others) : keys = others ∧ leaf = other := by
  have nonempty {keys : List String} {leaf : Json}
      (leafAt : (Json.object members).LeafAt keys leaf) : keys ≠ [] := by
    cases leafAt with
    | here noObject => exact absurd rfl (noObject members)
    | inside member below => exact List.cons_ne_nil _ _
  obtain rfl := joined_injective (nonempty leafAt) (nonempty otherAt) (leafAt.noPoint pointless)
    (otherAt.noPoint pointless) same
  exact ⟨rfl, leafAt.unique pointless otherAt⟩

theorem mem_flatten_iff {members : List (String × Json)}
    (pointless : (Json.object members).Pointless) (entry : String × Json) :
    entry ∈ flatten (.object members) ↔
      ∃ keys, (Json.object members).LeafAt keys entry.2 ∧ entry.1 = ".".intercalate keys := by
  refine Iff.trans (mem_sortMembers ?_ entry) (mem_flatMap_leaves_iff members entry)
  intro path one other isEntry alsoEntry
  obtain ⟨keys, leafAt, joined⟩ := (mem_flatMap_leaves_iff members _).mp isEntry
  obtain ⟨others, otherAt, alsoJoined⟩ := (mem_flatMap_leaves_iff members _).mp alsoEntry
  exact (leafAt_inj pointless leafAt otherAt (joined.symm.trans alsoJoined)).2

theorem metric_of_leafAt (name : String) (updated : Instant) {members : List (String × Json)}
    (pointless : (Json.object members).Pointless) {keys : List String} {leaf : Json}
    (leafAt : (Json.object members).LeafAt keys leaf) :
    (ofNested name updated (.object members)).metric? (".".intercalate keys) = reading? leaf := by
  have isEntry := (mem_flatten_iff pointless (".".intercalate keys, leaf)).mpr ⟨keys, leafAt, rfl⟩
  have found := (lookup_iff (inOrder_ofNested name updated (.object members)) _ leaf).mpr isEntry
  rw [metric?, entry?, found]
  rfl

/-- Flattening an object without points in its keys loses no leaf and adds nothing.  The leaves
are the entries, one for one: each stands under its keys, joined with points, with its value as
it is, and nothing else stands under them.  A leaf that is a number is read there as the number:
as itself if it is a double, and a whole number of 64 bits as the nearest double, which is itself
up to 53 bits. -/
theorem leaves_are_the_entries (name : String) (updated : Instant)
    {members : List (String × Json)} (pointless : (Json.object members).Pointless) :
    Set.BijOn (fun leaf : List String × Json => (".".intercalate leaf.1, leaf.2))
        {leaf | (Json.object members).LeafAt leaf.1 leaf.2}
        {entry | entry ∈ (ofNested name updated (.object members)).data} ∧
      ((ofNested name updated (.object members)).data.map (·.1)).Nodup ∧
      ∀ keys n, (Json.object members).LeafAt keys (.number n) →
        (ofNested name updated (.object members)).metric? (".".intercalate keys) =
            some n.toFloat ∧
          (n.Finite → n.IsNearest n.toFloat) := by
  refine ⟨⟨?_, ?_, ?_⟩, (inOrder_ofNested name updated _).keys_nodup ordersNames, ?_⟩
  · intro leaf leafAt
    exact (mem_flatten_iff pointless _).mpr ⟨leaf.1, leafAt, rfl⟩
  · intro leaf leafAt other otherAt same
    obtain ⟨sameKeys, sameLeaf⟩ :=
      leafAt_inj pointless leafAt otherAt (congrArg Prod.fst same)
    exact Prod.ext sameKeys sameLeaf
  · intro entry isEntry
    obtain ⟨keys, leafAt, joined⟩ := (mem_flatten_iff pointless entry).mp isEntry
    exact ⟨(keys, entry.2), leafAt, Prod.ext joined.symm rfl⟩
  · intro keys n leafAt
    exact ⟨metric_of_leafAt name updated pointless leafAt, Number.Finite.isNearest⟩

def nestedMembers : List (String × Json) :=
  [("", .object [("", .number (.float 12.5))]),
    ("/stuff", .object [("Disk", .object []), ("Score", .number (.whole 9007199254740993))])]

theorem nested_report_is_flat :
    (Json.object nestedMembers).Pointless ∧
      (ofNested "web-1" ⟨0⟩ (.object nestedMembers)).data.map (·.1) = [".", "/stuff.Score"] ∧
      (ofNested "web-1" ⟨0⟩ (.object nestedMembers)).metric? "/stuff.Score" =
        some (Number.whole 9007199254740993).toFloat ∧
      (Number.whole 9007199254740993).IsNearest (Number.whole 9007199254740993).toFloat := by
  have pointless : (Json.object nestedMembers).Pointless := by
    have ofNumber (n : Number) : (Json.number n).Pointless := .leaf (by simp)
    refine .object (by decide) (by decide) (List.forall_mem_cons.mpr ⟨?_, ?_⟩)
    · exact .object (by decide) (by decide) (by simpa using ofNumber _)
    · refine List.forall_mem_singleton.mpr (.object (by decide) (by decide) ?_)
      exact List.forall_mem_cons.mpr
        ⟨.object (by decide) (by simp) (by simp), by simpa using ofNumber _⟩
  have score : (Json.object nestedMembers).LeafAt ["/stuff", "Score"]
      (.number (.whole 9007199254740993)) :=
    .inside (.tail _ (.head _)) (.inside (.tail _ (.head _)) (.here (by simp)))
  have flat := leaves_are_the_entries "web-1" ⟨0⟩ pointless
  obtain ⟨read, nearest⟩ := flat.2.2 _ _ score
  exact ⟨pointless, by decide +kernel, read, nearest ⟨by decide, by decide⟩⟩

end Host

end FleetMonitor
