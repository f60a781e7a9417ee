import FleetMonitor.Json.Decode
import FleetMonitor.Proofs.Doubles

/-!
# Fields of written records

A record that names its fields in their order reads as the list of their values, and a tagged
value that begins with its tag reads as the variant of the tag.  What every field of a record
keeps, reading the record keeps.
-/

set_option autoImplicit false

namespace FleetMonitor.Decoder

namespace Record

variable {α : Type} (record : Record α) (source : Source)

def Distinct : Prop :=
  (record.fields.map (·.name)).Nodup

instance : Decidable record.Distinct :=
  inferInstanceAs (Decidable (List.Nodup _))

variable {record}

theorem Distinct.find? (distinct : record.Distinct) {field : Field α}
    (member : field ∈ record.fields) :
    record.fields.find? (fun other => other.name == field.name) = some field := by
  unfold Distinct at distinct
  generalize record.fields = fields at distinct member
  induction fields with
  | nil => cases member
  | cons first rest ih =>
      rw [List.map_cons, List.nodup_cons] at distinct
      obtain ⟨fresh, distinct⟩ := distinct
      rcases List.mem_cons.mp member with rfl | later
      · simp
      · have other : first.name ≠ field.name := by
          intro same
          exact fresh (same ▸ List.mem_map_of_mem later)
        simp [other, ih distinct later]

/-- Members that name the remaining fields in order are read as those fields by position. -/
theorem readMembers_names (distinct : record.Distinct) (members : List (Option String × Document))
    (done todo : List (Field α)) (fields : record.fields = done ++ todo)
    (names : members.map (·.1) = todo.map fun field => some field.name) (index : Nat) (acc : α) :
    record.readMembers source members (done.map (·.name)).reverse acc =
      (record.readItems source todo index (members.map (·.2)) acc).map fun read =>
        ((record.fields.map (·.name)).reverse, read.1) := by
  induction members generalizing done todo index acc with
  | nil =>
      cases todo with
      | nil =>
          rw [List.append_nil] at fields
          rw [fields]
          rfl
      | cons field todo => cases names
  | cons member members ih =>
      obtain ⟨key, value⟩ := member
      cases todo with
      | nil => cases names
      | cons field todo =>
          obtain ⟨first, others⟩ := List.cons.inj names
          obtain rfl : key = some field.name := first
          have mem : field ∈ record.fields := by
            rw [fields]
            exact List.mem_append_right done List.mem_cons_self
          have found := distinct.find? mem
          have unseen : (done.map (·.name)).reverse.contains field.name = false := by
            unfold Distinct at distinct
            rw [fields, List.map_append, List.map_cons, List.nodup_append] at distinct
            obtain ⟨-, -, apart⟩ := distinct
            simp only [List.contains_eq_mem, List.mem_reverse, decide_eq_false_iff_not]
            exact fun seen => apart field.name seen field.name List.mem_cons_self rfl
          have later := fun acc =>
            ih (done ++ [field]) todo (by simp [fields]) others (index + 1) acc
          simp only [readMembers, found, unseen, readItems, List.map_cons]
          cases field.put source value acc with
          | error cause => rfl
          | ok acc =>
              have rest := later acc
              rw [List.map_append, List.reverse_append] at rest
              exact rest

theorem readItems_length (todo : List (Field α)) (index : Nat) (items : List Document)
    (length : items.length = todo.length) (acc value : α) (left : List Document)
    (read : record.readItems source todo index items acc = .ok (value, left)) : left = [] := by
  induction todo generalizing index items acc with
  | nil =>
      obtain rfl := List.length_eq_zero_iff.mp length
      obtain ⟨-, rfl⟩ := Prod.mk.inj (Except.ok.inj read)
      rfl
  | cons field todo ih =>
      cases items with
      | nil => cases length
      | cons item items =>
          simp only [readItems] at read
          cases put : field.put source item acc with
          | error cause => rw [put] at read; cases read
          | ok acc =>
              rw [put] at read
              exact ih (index + 1) items (Nat.succ.inj length) acc read

theorem read_object (distinct : record.Distinct) (members : List (Option String × Document))
    (names : members.map (·.1) = record.fields.map fun field => some field.name) :
    record.read source (.object members) = record.read source (.array (members.map (·.2))) := by
  have named := readMembers_names source distinct members [] record.fields rfl names 0 record.blank
  have complete : record.missing? (record.fields.map (·.name)).reverse = none := by
    rw [missing?, List.find?_eq_none.mpr, Option.map_none]
    intro field member
    have seen : (record.fields.map (·.name)).reverse.contains field.name = true := by
      simpa using ⟨field, member, rfl⟩
    rw [seen, Bool.not_true, Bool.and_false]
    exact Bool.false_ne_true
  have count : (members.map (·.2)).length = record.fields.length := by
    have lengths := congrArg List.length names
    simpa using lengths
  simp only [read]
  rw [List.map_nil, List.reverse_nil] at named
  rw [named]
  cases items : record.readItems source record.fields 0 (members.map (·.2)) record.blank with
  | error cause => rfl
  | ok read =>
      obtain ⟨value, left⟩ := read
      obtain rfl := readItems_length source record.fields 0 _ count record.blank value left items
      simp only [Except.map, bind, Except.bind, complete]
      rfl

variable {source} {β : Type} {presence : Presence} {name : String} {decode : Decoder β}
  {set : α → β → α} {fields : List (Field α)} {items : List Document} {item : Document}

theorem readItems_field {b : β} (decoded : decode source item = .ok b) (index : Nat) {acc : α}
    {result : Except DecodeError (α × List Document)}
    (rest : record.readItems source fields (index + 1) items (set acc b) = result) :
    record.readItems source (field presence name decode set :: fields) index (item :: items) acc =
      result := by
  simp only [readItems, field, decoded]
  exact rest

theorem read_named (distinct : record.Distinct) {members : List (Option String × Document)}
    (names : members.map (·.1) = record.fields.map fun field => some field.name) {value : α}
    (values : record.readItems source record.fields 0 (members.map (·.2)) record.blank =
      .ok (value, [])) : record.read source (.object members) = .ok value := by
  rw [read_object source distinct members names]
  simp only [read, values]
  rfl

end Record

/-! ## What decoding ensures -/

variable {α β : Type}

def Gives (decode : Decoder α) (holds : α → Prop) : Prop :=
  ∀ (source : Source) (document : Document) (value : α), document.Finite →
    decode source document = .ok value → holds value

def Field.Keeps (field : Field α) (holds : α → Prop) : Prop :=
  ∀ (source : Source) (document : Document) (before after : α), document.Finite →
    holds before → field.put source document before = .ok after → holds after

theorem gives_true (decode : Decoder α) : Gives decode fun _ => True :=
  fun _ _ _ _ _ => trivial

theorem Gives.map {decode : Decoder α} {holds : α → Prop} (gives : Gives decode holds)
    (f : α → β) {ensured : β → Prop} (keeps : ∀ a, holds a → ensured (f a)) :
    Gives (fun source document => (decode source document).map f) ensured := by
  intro source document value finite read
  cases decoded : decode source document with
  | error cause => simp only [decoded] at read; cases read
  | ok a =>
      simp only [decoded] at read
      obtain rfl := Except.ok.inj read
      exact keeps a (gives source document a finite decoded)

theorem Gives.nullable {decode : Decoder α} {holds : α → Prop} (gives : Gives decode holds) :
    Gives (nullable decode) fun value => ∀ a ∈ value, holds a := by
  intro source document value finite read
  unfold Decoder.nullable at read
  split at read
  · obtain rfl := Except.ok.inj read
    exact nofun
  · have mapped : Gives (fun source document => (decode source document).map some)
        fun value => ∀ a ∈ value, holds a := by
      refine gives.map some ?_
      intro a ofA b same
      exact Option.some.inj same ▸ ofA
    exact mapped source document value finite read

theorem Gives.nullDefault {decode : Decoder α} {holds : α → Prop} (gives : Gives decode holds)
    {default : α} (ofDefault : holds default) : Gives (nullDefault default decode) holds := by
  refine gives.nullable.map (·.getD default) ?_
  intro value each
  cases value with
  | none => exact ofDefault
  | some a => exact each a rfl

theorem Gives.list {decode : Decoder α} {holds : α → Prop} (gives : Gives decode holds) :
    Gives (list decode) fun values => ∀ a ∈ values, holds a := by
  intro source document values finite read
  unfold Decoder.list at read
  split at read
  · rename_i items
    have each : ∀ item ∈ items, item.Finite := by
      cases finite with
      | array each => exact each
    clear finite
    induction items generalizing values with
    | nil =>
        obtain rfl := Except.ok.inj read
        exact List.forall_mem_nil _
    | cons item items ih =>
        obtain ⟨first, others⟩ := List.forall_mem_cons.mp each
        rw [List.mapM_cons] at read
        cases head : decode source item with
        | error cause => rw [head] at read; cases read
        | ok a =>
            cases tail : items.mapM (decode source) with
            | error cause => rw [head, tail] at read; cases read
            | ok rest =>
                rw [head, tail] at read
                obtain rfl := Except.ok.inj read
                exact List.forall_mem_cons.mpr
                  ⟨gives source item a first head, ih rest tail others⟩
  · cases read

theorem field_keeps {presence : Presence} {name : String} {decode : Decoder β} {set : α → β → α}
    {holds : α → Prop} {given : β → Prop} (gives : Gives decode given)
    (keeps : ∀ a b, holds a → given b → holds (set a b)) :
    (field presence name decode set).Keeps holds := by
  intro source document before after finite ofBefore put
  exact gives.map (set before) (fun b ofB => keeps before b ofBefore ofB) source document after
    finite put

namespace Record

variable {record : Record α} {holds : α → Prop}

theorem readMembers_keeps (keeps : ∀ field ∈ record.fields, field.Keeps holds) (source : Source)
    (members : List (Option String × Document)) (finite : ∀ member ∈ members, member.2.Finite)
    (seen : List String) (acc : α) (ofAcc : holds acc) (result : List String × α)
    (read : record.readMembers source members seen acc = .ok result) : holds result.2 := by
  induction members generalizing seen acc with
  | nil =>
      obtain rfl := Except.ok.inj read
      exact ofAcc
  | cons member members ih =>
      obtain ⟨key, value⟩ := member
      obtain ⟨first, others⟩ := List.forall_mem_cons.mp finite
      cases key with
      | none => cases read
      | some key =>
          unfold readMembers at read
          split at read
          · split at read
            · exact ih others seen acc ofAcc read
            · cases read
          · rename_i field found
            split at read
            · cases read
            · cases put : field.put source value acc with
              | error cause => rw [put] at read; cases read
              | ok next =>
                  rw [put] at read
                  have known := List.mem_of_find?_eq_some found
                  have ofNext := keeps field known source value acc next first ofAcc put
                  exact ih others (key :: seen) next ofNext read

theorem readItems_keeps (source : Source) (fields : List (Field α))
    (keeps : ∀ field ∈ fields, field.Keeps holds) (index : Nat) (items : List Document)
    (finite : ∀ item ∈ items, item.Finite) (acc : α) (ofAcc : holds acc)
    (result : α × List Document)
    (read : record.readItems source fields index items acc = .ok result) : holds result.1 := by
  induction fields generalizing index items acc with
  | nil =>
      obtain rfl := Except.ok.inj read
      exact ofAcc
  | cons field fields ih =>
      obtain ⟨first, others⟩ := List.forall_mem_cons.mp keeps
      cases items with
      | nil =>
          unfold readItems at read
          split at read
          · exact ih others (index + 1) [] finite acc ofAcc read
          · cases read
      | cons item items =>
          obtain ⟨ofItem, ofItems⟩ := List.forall_mem_cons.mp finite
          unfold readItems at read
          cases put : field.put source item acc with
          | error cause => rw [put] at read; cases read
          | ok next =>
              rw [put] at read
              have ofNext := first source item acc next ofItem ofAcc put
              exact ih others (index + 1) items ofItems next ofNext read

/-- What holds of the blank record and is kept by every field holds of whatever is read. -/
theorem read_gives (blank : holds record.blank)
    (keeps : ∀ field ∈ record.fields, field.Keeps holds) : Gives record.read holds := by
  intro source document value finite read
  unfold Record.read at read
  split at read
  · rename_i members
    cases finite with
    | object each =>
        cases named : record.readMembers source members [] record.blank with
        | error cause => rw [named] at read; cases read
        | ok result =>
            rw [named] at read
            have kept := readMembers_keeps keeps source members each [] record.blank blank
              result named
            simp only [bind, Except.bind] at read
            split at read
            · cases read
            · obtain rfl := Except.ok.inj read
              exact kept
  · rename_i items
    cases finite with
    | array each =>
        cases listed : record.readItems source record.fields 0 items record.blank with
        | error cause => rw [listed] at read; cases read
        | ok result =>
            rw [listed] at read
            have kept := readItems_keeps source record.fields keeps 0 items each record.blank blank
              result listed
            simp only [bind, Except.bind] at read
            split at read
            · obtain rfl := Except.ok.inj read
              exact kept
            · cases read
  · cases read

end Record

theorem choose_mem {choices : List (Choice α)} {name : String} {value : α}
    (chosen : choose choices name = .ok value) : ∃ choice ∈ choices, choice.value = value := by
  unfold choose at chosen
  split at chosen
  · rename_i choice found
    exact ⟨choice, List.mem_of_find?_eq_some found, Except.ok.inj chosen⟩
  · cases chosen

namespace Tagged

variable {tagged : Tagged α} {holds : α → Prop}

theorem read_object {name : String} {decode : Decoder α}
    (chosen : choose tagged.variants name = .ok decode) (members : List (String × Json))
    (untagged : ∀ member ∈ members, member.1 ≠ tagged.tag) (source : Source) :
    tagged.read source (.object ((some tagged.tag, .string name) :: Document.ofMembers members)) =
      decode .buffer (.object (Document.ofMembers members)) := by
  have others : ∀ taken : List (Option String × Document),
      tagged.readMembers source (Document.ofMembers members) (some decode) taken =
        .ok (some decode, taken.reverse ++ Document.ofMembers members) := by
    induction members with
    | nil => simp [readMembers, Document.ofMembers]
    | cons member members ih =>
        obtain ⟨key, value⟩ := member
        obtain ⟨first, later⟩ := List.forall_mem_cons.mp untagged
        intro taken
        rw [Document.ofMembers, readMembers, if_neg first, Document.value?_ofJson,
          if_pos (Option.isSome_some), ih later]
        simp
  have all : tagged.readMembers source
      ((some tagged.tag, .string name) :: Document.ofMembers members) none [] =
      .ok (some decode, Document.ofMembers members) := by
    simp only [readMembers, variant, chosen, if_true, Option.isSome_none]
    exact others []
  simp only [read, all, bind, Except.bind]

theorem read_first {name : String} {decode : Decoder α}
    (chosen : choose tagged.variants name = .ok decode) {members rest : List (String × Json)}
    (shape : members = (tagged.tag, .string name) :: rest)
    (untagged : ∀ member ∈ rest, member.1 ≠ tagged.tag) {value : α}
    (read : decode .buffer (.object (Document.ofMembers rest)) = .ok value) (source : Source) :
    tagged.read source (.object (Document.ofMembers members)) = .ok value := by
  rw [shape, Document.ofMembers]
  exact (read_object chosen rest untagged source).trans read

theorem variant_mem {source : Source} {document : Document} {decode : Decoder α}
    (chosen : tagged.variant source document = .ok decode) :
    ∃ choice ∈ tagged.variants, choice.value = decode := by
  unfold variant at chosen
  split at chosen
  · exact choose_mem chosen
  · split at chosen
    · rename_i choice found
      exact ⟨choice, List.mem_of_getElem? found, Except.ok.inj chosen⟩
    · cases chosen
  · cases chosen

theorem readMembers_takes (source : Source) (members : List (Option String × Document))
    (finite : ∀ member ∈ members, member.2.Finite) (variant : Option (Decoder α))
    (ofVariant : ∀ decode ∈ variant, ∃ choice ∈ tagged.variants, choice.value = decode)
    (others : List (Option String × Document)) (ofOthers : ∀ member ∈ others, member.2.Finite)
    (result : Option (Decoder α) × List (Option String × Document))
    (read : tagged.readMembers source members variant others = .ok result) :
    (∀ decode ∈ result.1, ∃ choice ∈ tagged.variants, choice.value = decode) ∧
      ∀ member ∈ result.2, member.2.Finite := by
  induction members generalizing variant others with
  | nil =>
      obtain rfl := Except.ok.inj read
      exact ⟨ofVariant, fun member listed => ofOthers member (List.mem_reverse.mp listed)⟩
  | cons member members ih =>
      obtain ⟨key, value⟩ := member
      obtain ⟨first, later⟩ := List.forall_mem_cons.mp finite
      cases key with
      | none => cases read
      | some key =>
          unfold readMembers at read
          split at read
          · split at read
            · cases read
            · cases chosen : tagged.variant source value with
              | error cause => rw [chosen] at read; cases read
              | ok decode =>
                  rw [chosen] at read
                  refine ih later (some decode) ?_ others ofOthers read
                  intro taken same
                  exact Option.some.inj same ▸ variant_mem chosen
          · split at read
            · exact ih later variant ofVariant ((some key, value) :: others)
                (List.forall_mem_cons.mpr ⟨first, ofOthers⟩) read
            · cases read

theorem read_gives (gives : ∀ choice ∈ tagged.variants, Gives choice.value holds) :
    Gives tagged.read holds := by
  intro source document value finite read
  unfold Tagged.read at read
  split at read
  · rename_i members
    cases finite with
    | object each =>
        cases split : tagged.readMembers source members none [] with
        | error cause => rw [split] at read; cases read
        | ok result =>
            obtain ⟨variant, others⟩ := result
            rw [split] at read
            have takes := readMembers_takes source members each none nofun [] nofun _ split
            cases variant with
            | none => cases read
            | some decode =>
                obtain ⟨choice, listed, rfl⟩ := takes.1 decode rfl
                exact gives choice listed .buffer _ value (.object takes.2) read
  · cases read
  · rename_i tag rest
    cases finite with
    | array each =>
        obtain ⟨-, later⟩ := List.forall_mem_cons.mp each
        cases chosen : tagged.variant source tag with
        | error cause => rw [chosen] at read; cases read
        | ok decode =>
            rw [chosen] at read
            obtain ⟨choice, listed, rfl⟩ := variant_mem chosen
            simp only [bind, Except.bind] at read
            split at read
            · exact gives choice listed .buffer _ value (.array later) read
            · cases read
  · cases read

end Tagged

/-! ## Numbers and their bounds -/

def IsInt64 (n : Int) : Prop :=
  -0x8000000000000000 ≤ n ∧ n ≤ 0x7fffffffffffffff

def IsCount (n : Nat) : Prop :=
  n < 0x10000000000000000

theorem integer_gives (type : String) (low high : Int) :
    Gives (integer type low high) fun n => low ≤ n ∧ n ≤ high := by
  intro source document value finite read
  unfold integer at read
  split at read
  · split at read
    · rename_i bounds
      exact Except.ok.inj read ▸ bounds
    · cases read
  · cases read

theorem int64_gives : Gives int64 IsInt64 :=
  integer_gives _ _ _

theorem count_gives : Gives count IsCount := by
  refine (integer_gives "usize" 0 (Nat.pow 2 64 - 1)).map Int.toNat ?_
  intro n bounds
  change n.toNat < 0x10000000000000000
  have high : n ≤ 0xffffffffffffffff := bounds.2
  omega

theorem float_gives : Gives float fun x => x.isFinite = true := by
  intro source document value finite read
  unfold float at read
  split at read
  · cases finite with
    | number isFinite =>
        obtain rfl := Except.ok.inj read
        exact isFinite.toFloat
  · cases read

end FleetMonitor.Decoder
