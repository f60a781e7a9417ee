import FleetMonitor.Check.Definition
import FleetMonitor.Proofs.Fields
import FleetMonitor.Proofs.Legible

/-!
# Filed checks

A check that was read from a row, written to a row and read again is the same check: no
expression, outcome, trigger or action is lost between the two forms, and neither is the
selection of hosts.  One thing is: a query of blanks is filed as an empty list.
-/

set_option autoImplicit false

namespace FleetMonitor

open Decoder (Gives IsInt64 IsCount)
open Document (Legible ofItems ofMembers)
open Decoder.Record (read_named readItems_field)
open Decoder.Tagged (read_first)

/-! ## Written numbers -/

theorem Document.Legible.int {room : Nat} {n : Int} (fits : IsInt64 n) :
    Legible room (Json.int n) :=
  .number (Document.readNumber_whole n fits.1 (Int.lt_of_le_of_lt fits.2 (by decide)))

theorem Document.Legible.nat {room n : Nat} (fits : IsCount n) : Legible room (Json.nat n) := by
  unfold IsCount at fits
  exact .number (Document.readNumber_whole n (by omega) (by omega))

theorem Document.Legible.float {room : Nat} {x : Float} (back : Json.ReadsBack x) :
    Legible room (Json.float x) :=
  .number (Document.readNumber_float back)

theorem Document.Legible.strings {room : Nat} (texts : List String) :
    Legible (room + 1) (Json.strings texts) := by
  refine .array ?_
  intro item member
  obtain ⟨text, -, rfl⟩ := List.mem_map.mp member
  exact .string text

theorem Decoder.int64_int {n : Int} (fits : IsInt64 n) (source : Source) :
    Decoder.int64 source (Document.ofJson (Json.int n)) = .ok n := by
  unfold IsInt64 at fits
  change (if _ ∧ _ then Except.ok n else _) = _
  rw [if_pos fits]

theorem Decoder.count_nat {n : Nat} (fits : IsCount n) (source : Source) :
    Decoder.count source (Document.ofJson (Json.nat n)) = .ok n := by
  unfold IsCount at fits
  have bounds : (0 : Int) ≤ n ∧ (n : Int) ≤ Nat.pow 2 64 - 1 := by
    have size : Nat.pow 2 64 = 0x10000000000000000 := by decide
    omega
  change (if (0 : Int) ≤ n ∧ (n : Int) ≤ Nat.pow 2 64 - 1 then Except.ok (n : Int) else _).map
    Int.toNat = _
  rw [if_pos bounds]
  rfl

theorem Decoder.list_ofItems {α : Type} {decode : Decoder α} {encode : α → Json}
    (source : Source) (items : List α)
    (back : ∀ a ∈ items, decode source (Document.ofJson (encode a)) = .ok a) :
    Decoder.list decode source (.array (ofItems (items.map encode))) = .ok items := by
  unfold Decoder.list
  simp only
  induction items with
  | nil => rfl
  | cons a items ih =>
      obtain ⟨first, others⟩ := List.forall_mem_cons.mp back
      rw [List.map_cons, ofItems, List.mapM_cons, first, ih others]
      rfl

/-! ## Outcomes -/

namespace Outcome

theorem legible (outcome : Outcome) : Legible 2 outcome.encode := by
  refine .object ?_
  simp only [List.forall_mem_cons]
  exact ⟨.bool _, .string _, .strings _, .strings _, List.forall_mem_nil _⟩

theorem decode_encode (outcome : Outcome) (source : Source) :
    decode source (Document.ofJson outcome.encode) = .ok outcome := by
  have names (texts : List String) : Decoder.nullDefault [] (Decoder.list Decoder.string) source
      (Document.ofJson (Json.strings texts)) = .ok texts := by
    have listed : Decoder.list Decoder.string source (.array (ofItems (texts.map .string))) =
        .ok texts := Decoder.list_ofItems source texts fun _ _ => rfl
    change ((Decoder.list Decoder.string source (.array _)).map some).map _ = _
    rw [listed]
    rfl
  refine read_named (by decide) rfl ?_
  exact readItems_field rfl 0 <| readItems_field rfl 1 <|
    readItems_field (names outcome.bad) 2 <| readItems_field (names outcome.good) 3 rfl

end Outcome

/-! ## Expressions -/

theorem Comparison.decode_symbol (operator : Comparison) (source : Source) :
    decode source (.string operator.symbol) = .ok operator := by
  cases operator <;> rfl

theorem Aggregate.decode_name (aggregate : Aggregate) (source : Source) :
    decode source (.string aggregate.name) = .ok aggregate := by
  cases aggregate <;> rfl

theorem Junction.decode_name (junction : Junction) (source : Source) :
    decode source (.string junction.name) = .ok junction := by
  cases junction <;> rfl

namespace ExpressionKind

structure InRange (kind : ExpressionKind) : Prop where
  finite : ∀ x ∈ kind.threshold?, x.isFinite = true
  count : ∀ n ∈ kind.minHost?, IsCount n
  minutes : ∀ n ∈ kind.range?, IsInt64 n

def ReadsBack (kind : ExpressionKind) : Prop :=
  ∀ x ∈ kind.threshold?, x.isFinite = true → Json.ReadsBack x

variable {kind : ExpressionKind}

theorem legible (inRange : kind.InRange) (back : kind.ReadsBack) :
    ∀ member ∈ kind.members, Legible 1 member.2 := by
  obtain ⟨finite, count, minutes⟩ := inRange
  have threshold : ∀ x ∈ kind.threshold?, Legible 1 (Json.float x) :=
    fun x ofKind => .float (back x ofKind (finite x ofKind))
  cases kind with
  | raw e =>
      simp only [members, List.forall_mem_cons]
      exact ⟨.string _, .string _, .string _, threshold _ rfl, .nat (count _ rfl),
        List.forall_mem_nil _⟩
  | relative e =>
      simp only [members, List.forall_mem_cons]
      exact ⟨.string _, .string _, .string _, threshold _ rfl, .nat (count _ rfl),
        .int (minutes _ rfl), .string _, List.forall_mem_nil _⟩
  | log e =>
      simp only [members, List.forall_mem_cons]
      exact ⟨.string _, .string _, .string _, threshold _ rfl, .nat (count _ rfl),
        .int (minutes _ rfl), List.forall_mem_nil _⟩
  | ping e =>
      simp only [members, List.forall_mem_cons]
      exact ⟨.string _, .nat (count _ rfl), List.forall_mem_nil _⟩
  | ssh e =>
      simp only [members, List.forall_mem_cons]
      exact ⟨.string _, .string _, .string _, .nat (count _ rfl), List.forall_mem_nil _⟩
  | http e =>
      simp only [members, List.forall_mem_cons]
      exact ⟨.string _, .string _, .string _, .string _, .string _, .string _, .string _,
        .string _, .nat (count _ rfl), List.forall_mem_nil _⟩
  | operator junction =>
      simp only [members, List.forall_mem_cons]
      exact ⟨.string _, .string _, List.forall_mem_nil _⟩

theorem members_noResult (kind : ExpressionKind) :
    ∀ member ∈ kind.members, member.1 ≠ "Result" := by
  cases kind <;> simp [members]

theorem read_members (inRange : kind.InRange) (source : Source) :
    tagged.read source (.object (ofMembers kind.members)) = .ok kind := by
  obtain ⟨-, count, minutes⟩ := inRange
  have ofCount (n : Nat) (ofKind : kind.minHost? = some n) :=
    Decoder.count_nat (count n ofKind) .buffer
  have ofMinutes (n : Int) (ofKind : kind.range? = some n) :=
    Decoder.int64_int (minutes n ofKind) .buffer
  -- The tag is taken out first, and the rest is read as the record of the kind.
  cases kind with
  | raw e =>
      have read : MetricThreshold.record.read .buffer
          (.object (ofMembers (raw e).members.tail)) = .ok e := by
        refine read_named (by decide) rfl ?_
        exact readItems_field rfl 0 <| readItems_field (e.operator.decode_symbol .buffer) 1 <|
          readItems_field rfl 2 <| readItems_field (ofCount _ rfl) 3 rfl
      exact read_first rfl rfl (by simp [tagged]) (congrArg (Except.map raw) read) source
  | relative e =>
      have read : RelativeThreshold.record.read .buffer
          (.object (ofMembers (relative e).members.tail)) = .ok e := by
        refine read_named (by decide) rfl ?_
        exact readItems_field rfl 0 <| readItems_field (e.operator.decode_symbol .buffer) 1 <|
          readItems_field rfl 2 <| readItems_field (ofCount _ rfl) 3 <|
          readItems_field (ofMinutes _ rfl) 4 <|
          readItems_field (e.aggregate.decode_name .buffer) 5 rfl
      exact read_first rfl rfl (by simp [tagged]) (congrArg (Except.map relative) read) source
  | log e =>
      have read : LogThreshold.record.read .buffer
          (.object (ofMembers (log e).members.tail)) = .ok e := by
        refine read_named (by decide) rfl ?_
        exact readItems_field rfl 0 <| readItems_field (e.operator.decode_symbol .buffer) 1 <|
          readItems_field rfl 2 <| readItems_field (ofCount _ rfl) 3 <|
          readItems_field (ofMinutes _ rfl) 4 rfl
      exact read_first rfl rfl (by simp [tagged]) (congrArg (Except.map log) read) source
  | ping e =>
      have read : PingProbe.record.read .buffer
          (.object (ofMembers (ping e).members.tail)) = .ok e :=
        read_named (by decide) rfl (readItems_field (ofCount _ rfl) 0 rfl)
      exact read_first rfl rfl (by simp [tagged]) (congrArg (Except.map ping) read) source
  | ssh e =>
      have read : SshProbe.record.read .buffer
          (.object (ofMembers (ssh e).members.tail)) = .ok e := by
        refine read_named (by decide) rfl ?_
        exact readItems_field rfl 0 <| readItems_field rfl 1 <|
          readItems_field (ofCount _ rfl) 2 rfl
      exact read_first rfl rfl (by simp [tagged]) (congrArg (Except.map ssh) read) source
  | http e =>
      have read : HttpProbe.record.read .buffer
          (.object (ofMembers (http e).members.tail)) = .ok e := by
        refine read_named (by decide) rfl ?_
        exact readItems_field rfl 0 <| readItems_field rfl 1 <| readItems_field rfl 2 <|
          readItems_field rfl 3 <| readItems_field rfl 4 <| readItems_field rfl 5 <|
          readItems_field rfl 6 <| readItems_field (ofCount _ rfl) 7 rfl
      exact read_first rfl rfl (by simp [tagged]) (congrArg (Except.map http) read) source
  | operator junction =>
      have read : Junction.record.read .buffer
          (.object (ofMembers (operator junction).members.tail)) = .ok junction :=
        read_named (by decide) rfl
          (readItems_field (junction.decode_name .buffer) 0 rfl)
      exact read_first rfl rfl (by simp [tagged]) (congrArg (Except.map operator) read) source

end ExpressionKind

namespace Expression

theorem legible {e : Expression} (inRange : e.kind.InRange) (back : e.kind.ReadsBack) :
    Legible 3 e.encode := by
  refine .object (List.forall_mem_append.mpr ⟨?_, ?_⟩)
  · intro member ofKind
    exact (ExpressionKind.legible inRange back member ofKind).mono (by decide)
  · exact List.forall_mem_singleton.mpr e.result.legible

theorem readMembers_members (source : Source) (members : List (String × Json))
    (noResult : ∀ member ∈ members, member.1 ≠ "Result") (result : Outcome)
    (taken : List (Option String × Document)) :
    readMembers source (ofMembers (members ++ [("Result", result.encode)])) none taken =
      .ok (result, taken.reverse ++ ofMembers members) := by
  induction members generalizing taken with
  | nil =>
      have decoded : Decoder.nullDefault Outcome.empty Outcome.decode source
          (Document.ofJson result.encode) = .ok result := by
        change ((Outcome.decode source (Document.ofJson result.encode)).map some).map _ = _
        rw [result.decode_encode source]
        rfl
      simp only [List.nil_append, ofMembers, readMembers, if_true, Option.isSome_none, decoded,
        List.append_nil]
      rfl
  | cons member members ih =>
      obtain ⟨key, value⟩ := member
      obtain ⟨first, later⟩ := List.forall_mem_cons.mp noResult
      rw [List.cons_append, ofMembers, readMembers, if_neg first, Document.value?_ofJson,
        if_pos (Option.isSome_some), ih later]
      simp [ofMembers]

theorem decode_encode {e : Expression} (inRange : e.kind.InRange) (source : Source) :
    decode source (Document.ofJson e.encode) = .ok e := by
  have split := readMembers_members source e.kind.members e.kind.members_noResult e.result []
  have kind := ExpressionKind.read_members inRange .buffer
  change decode source (.object (ofMembers (e.kind.members ++ [("Result", e.result.encode)]))) = _
  rw [List.reverse_nil, List.nil_append] at split
  simp only [decode, split, bind, Except.bind, kind]
  rfl

end Expression

/-! ## Triggers -/

namespace Action

theorem legible (action : Action) : Legible 1 action.encode := by
  cases action <;> refine .object ?_ <;> simp only [List.forall_mem_cons]
  · exact ⟨.string _, List.forall_mem_nil _⟩
  · exact ⟨.string _, .string _, List.forall_mem_nil _⟩
  · exact ⟨.string _, .string _, .string _, List.forall_mem_nil _⟩
  · exact ⟨.string _, .string _, .string _, .string _, List.forall_mem_nil _⟩

theorem decode_encode (action : Action) (source : Source) :
    tagged.read source (Document.ofJson action.encode) = .ok action := by
  cases action with
  | nothing => exact read_first rfl rfl (by simp [tagged]) rfl source
  | email address =>
      have read : emailRecord.read .buffer (.object (ofMembers [("Email", .string address)])) =
          .ok (email address) :=
        read_named (by decide) rfl (readItems_field rfl 0 rfl)
      exact read_first rfl rfl (by simp [tagged]) read source
  | sms phone carrier =>
      have read : smsRecord.read .buffer (.object (ofMembers
          [("SMSPhone", .string phone), ("SMSCarrier", .string carrier)])) =
          .ok (phone, carrier) :=
        read_named (by decide) rfl (readItems_field rfl 0 <| readItems_field rfl 1 rfl)
      exact read_first rfl rfl (by simp [tagged])
        (congrArg (Except.map fun r => sms r.1 r.2) read) source
  | pager serviceKey description incidentKey =>
      have read : pagerRecord.read .buffer (.object (ofMembers
          [("PagerDutyServiceKey", .string serviceKey),
           ("PagerDutyDescription", .string description),
           ("PagerDutyIncidentKey", .string incidentKey)])) =
          .ok (serviceKey, description, incidentKey) :=
        read_named (by decide) rfl
          (readItems_field rfl 0 <| readItems_field rfl 1 <| readItems_field rfl 2 rfl)
      exact read_first rfl rfl (by simp [tagged])
        (congrArg (Except.map fun r => pager r.1 r.2.1 r.2.2) read) source

end Action

namespace Trigger

structure InRange (trigger : Trigger) : Prop where
  id : IsInt64 trigger.id
  low : IsInt64 trigger.low
  high : ∀ n ∈ trigger.high, IsInt64 n
  window : IsInt64 trigger.windowMinutes

variable {trigger : Trigger}

theorem legible (inRange : trigger.InRange) : Legible 2 trigger.encode := by
  obtain ⟨id, low, high, window⟩ := inRange
  refine .object ?_
  have ofHigh : Legible 1 (Json.orNull .int trigger.high) := by
    cases bound : trigger.high with
    | none => exact .null
    | some n => exact .int (high n bound)
  simp only [List.forall_mem_cons]
  exact ⟨.int id, .int low, ofHigh, .int window, trigger.action.legible, List.forall_mem_nil _⟩

theorem decode_encode (inRange : trigger.InRange) (source : Source) :
    decode source (Document.ofJson trigger.encode) = .ok trigger := by
  obtain ⟨id, low, high, window⟩ := inRange
  have ofHigh : Decoder.nullable Decoder.int64 source
      (Document.ofJson (Json.orNull .int trigger.high)) = .ok trigger.high := by
    cases bound : trigger.high with
    | none => rfl
    | some n => exact congrArg (Except.map some) (Decoder.int64_int (high n bound) source)
  refine read_named (by decide) rfl ?_
  exact readItems_field (Decoder.int64_int id source) 0 <|
    readItems_field (Decoder.int64_int low source) 1 <| readItems_field ofHigh 2 <|
    readItems_field (Decoder.int64_int window source) 3 <|
    readItems_field (trigger.action.decode_encode source) 4 rfl

end Trigger

/-! ## What is read is in range -/

open Decoder (gives_true field_keeps float_gives count_gives int64_gives)

namespace ExpressionKind

section

variable {α β : Type} {wrap : α → ExpressionKind} {presence : Decoder.Presence} {name : String}

theorem keeps_others {decode : Decoder β} {set : α → β → α}
    (same : ∀ a b, (wrap (set a b)).threshold? = (wrap a).threshold? ∧
      (wrap (set a b)).minHost? = (wrap a).minHost? ∧
      (wrap (set a b)).range? = (wrap a).range?) :
    (Decoder.field presence name decode set).Keeps fun a => (wrap a).InRange := by
  refine field_keeps (gives_true _) ?_
  intro a b inRange _
  obtain ⟨threshold, minHost, range⟩ := same a b
  exact ⟨threshold ▸ inRange.finite, minHost ▸ inRange.count, range ▸ inRange.minutes⟩

theorem keeps_threshold {set : α → Float → α}
    (sets : ∀ a x, (wrap (set a x)).threshold? = some x ∧
      (wrap (set a x)).minHost? = (wrap a).minHost? ∧
      (wrap (set a x)).range? = (wrap a).range?) :
    (Decoder.field presence name Decoder.float set).Keeps fun a => (wrap a).InRange := by
  refine field_keeps float_gives ?_
  intro a x inRange finite
  obtain ⟨threshold, minHost, range⟩ := sets a x
  refine ⟨?_, minHost ▸ inRange.count, range ▸ inRange.minutes⟩
  rw [threshold]
  exact fun _ same => Option.some.inj same ▸ finite

theorem keeps_minHost {set : α → Nat → α}
    (sets : ∀ a n, (wrap (set a n)).threshold? = (wrap a).threshold? ∧
      (wrap (set a n)).minHost? = some n ∧ (wrap (set a n)).range? = (wrap a).range?) :
    (Decoder.field presence name Decoder.count set).Keeps fun a => (wrap a).InRange := by
  refine field_keeps count_gives ?_
  intro a n inRange count
  obtain ⟨threshold, minHost, range⟩ := sets a n
  refine ⟨threshold ▸ inRange.finite, ?_, range ▸ inRange.minutes⟩
  rw [minHost]
  exact fun _ same => Option.some.inj same ▸ count

theorem keeps_range {set : α → Int → α}
    (sets : ∀ a n, (wrap (set a n)).threshold? = (wrap a).threshold? ∧
      (wrap (set a n)).minHost? = (wrap a).minHost? ∧ (wrap (set a n)).range? = some n) :
    (Decoder.field presence name Decoder.int64 set).Keeps fun a => (wrap a).InRange := by
  refine field_keeps int64_gives ?_
  intro a n inRange minutes
  obtain ⟨threshold, minHost, range⟩ := sets a n
  refine ⟨threshold ▸ inRange.finite, minHost ▸ inRange.count, ?_⟩
  rw [range]
  exact fun _ same => Option.some.inj same ▸ minutes

end

theorem zero_isFinite : ∀ x ∈ some (0 : Float), x.isFinite = true := by
  intro x same
  obtain rfl := Option.some.inj same
  decide +kernel

theorem zero_isCount : ∀ n ∈ some 0, IsCount n := by
  intro n same
  obtain rfl := Option.some.inj same
  exact (by decide : 0 < 0x10000000000000000)

theorem zero_isInt64 : ∀ n ∈ some (0 : Int), IsInt64 n := by
  intro n same
  obtain rfl := Option.some.inj same
  exact (by decide : (-0x8000000000000000 : Int) ≤ 0 ∧ (0 : Int) ≤ 0x7fffffffffffffff)

theorem tagged_gives : Gives tagged.read InRange := by
  refine Decoder.Tagged.read_gives ?_
  have keeps (α : Type) (wrap : α → ExpressionKind) (record : Decoder.Record α)
      (blank : (wrap record.blank).InRange)
      (fields : ∀ field ∈ record.fields, field.Keeps fun a => (wrap a).InRange) :
      Gives (fun source document => (record.read source document).map wrap) InRange :=
    (Decoder.Record.read_gives blank fields).map wrap fun _ => id
  simp only [tagged, List.forall_mem_cons]
  refine ⟨?raw, ?relative, ?log, ?ping, ?ssh, ?http, ?operator, List.forall_mem_nil _⟩
  case raw =>
    refine keeps _ raw _ ⟨zero_isFinite, zero_isCount, nofun⟩ ?_
    simp only [MetricThreshold.record, List.forall_mem_cons]
    exact ⟨keeps_others fun _ _ => ⟨rfl, rfl, rfl⟩, keeps_others fun _ _ => ⟨rfl, rfl, rfl⟩,
      keeps_threshold fun _ _ => ⟨rfl, rfl, rfl⟩, keeps_minHost fun _ _ => ⟨rfl, rfl, rfl⟩,
      List.forall_mem_nil _⟩
  case relative =>
    refine keeps _ relative _ ⟨zero_isFinite, zero_isCount, zero_isInt64⟩ ?_
    simp only [RelativeThreshold.record, List.forall_mem_cons]
    exact ⟨keeps_others fun _ _ => ⟨rfl, rfl, rfl⟩, keeps_others fun _ _ => ⟨rfl, rfl, rfl⟩,
      keeps_threshold fun _ _ => ⟨rfl, rfl, rfl⟩, keeps_minHost fun _ _ => ⟨rfl, rfl, rfl⟩,
      keeps_range fun _ _ => ⟨rfl, rfl, rfl⟩, keeps_others fun _ _ => ⟨rfl, rfl, rfl⟩,
      List.forall_mem_nil _⟩
  case log =>
    refine keeps _ log _ ⟨zero_isFinite, zero_isCount, zero_isInt64⟩ ?_
    simp only [LogThreshold.record, List.forall_mem_cons]
    exact ⟨keeps_others fun _ _ => ⟨rfl, rfl, rfl⟩, keeps_others fun _ _ => ⟨rfl, rfl, rfl⟩,
      keeps_threshold fun _ _ => ⟨rfl, rfl, rfl⟩, keeps_minHost fun _ _ => ⟨rfl, rfl, rfl⟩,
      keeps_range fun _ _ => ⟨rfl, rfl, rfl⟩, List.forall_mem_nil _⟩
  case ping =>
    refine keeps _ ping _ ⟨nofun, zero_isCount, nofun⟩ ?_
    simp only [PingProbe.record, List.forall_mem_cons]
    exact ⟨keeps_minHost fun _ _ => ⟨rfl, rfl, rfl⟩, List.forall_mem_nil _⟩
  case ssh =>
    refine keeps _ ssh _ ⟨nofun, zero_isCount, nofun⟩ ?_
    simp only [SshProbe.record, List.forall_mem_cons]
    exact ⟨keeps_others fun _ _ => ⟨rfl, rfl, rfl⟩, keeps_others fun _ _ => ⟨rfl, rfl, rfl⟩,
      keeps_minHost fun _ _ => ⟨rfl, rfl, rfl⟩, List.forall_mem_nil _⟩
  case http =>
    refine keeps _ http _ ⟨nofun, zero_isCount, nofun⟩ ?_
    simp only [HttpProbe.record, List.forall_mem_cons]
    exact ⟨keeps_others fun _ _ => ⟨rfl, rfl, rfl⟩, keeps_others fun _ _ => ⟨rfl, rfl, rfl⟩,
      keeps_others fun _ _ => ⟨rfl, rfl, rfl⟩, keeps_others fun _ _ => ⟨rfl, rfl, rfl⟩,
      keeps_others fun _ _ => ⟨rfl, rfl, rfl⟩, keeps_others fun _ _ => ⟨rfl, rfl, rfl⟩,
      keeps_others fun _ _ => ⟨rfl, rfl, rfl⟩, keeps_minHost fun _ _ => ⟨rfl, rfl, rfl⟩,
      List.forall_mem_nil _⟩
  case operator =>
    refine keeps _ operator _ ⟨nofun, nofun, nofun⟩ ?_
    simp only [Junction.record, List.forall_mem_cons]
    exact ⟨keeps_others fun _ _ => ⟨rfl, rfl, rfl⟩, List.forall_mem_nil _⟩

end ExpressionKind

namespace Expression

theorem readMembers_finite (source : Source) (members : List (Option String × Document))
    (finite : ∀ member ∈ members, member.2.Finite) (result : Option Outcome)
    (others : List (Option String × Document)) (ofOthers : ∀ member ∈ others, member.2.Finite)
    (split : Outcome × List (Option String × Document))
    (read : readMembers source members result others = .ok split) :
    ∀ member ∈ split.2, member.2.Finite := by
  induction members generalizing result others with
  | nil =>
      obtain rfl := Except.ok.inj read
      exact fun member listed => ofOthers member (List.mem_reverse.mp listed)
  | cons member members ih =>
      obtain ⟨key, value⟩ := member
      obtain ⟨first, later⟩ := List.forall_mem_cons.mp finite
      cases key with
      | none => cases read
      | some key =>
          unfold readMembers at read
          split at read
          · split at read
            · cases read
            · cases decoded : Decoder.nullDefault Outcome.empty Outcome.decode source value with
              | error cause => rw [decoded] at read; cases read
              | ok outcome =>
                  rw [decoded] at read
                  exact ih later (some outcome) others ofOthers read
          · split at read
            · exact ih later result ((some key, value) :: others)
                (List.forall_mem_cons.mpr ⟨first, ofOthers⟩) read
            · cases read

theorem decode_gives : Gives decode fun e => e.kind.InRange := by
  intro source document e finite read
  unfold decode at read
  split at read
  · rename_i members
    cases finite with
    | object each =>
        cases split : readMembers source members none [] with
        | error cause => rw [split] at read; cases read
        | ok result =>
            have others := readMembers_finite source members each none [] nofun _ split
            rw [split] at read
            simp only [bind, Except.bind] at read
            cases kind : ExpressionKind.tagged.read .buffer (.object result.2) with
            | error cause => rw [kind] at read; cases read
            | ok value =>
                rw [kind] at read
                obtain rfl := Except.ok.inj read
                exact ExpressionKind.tagged_gives .buffer _ value (.object others) kind
  · cases read

end Expression

theorem Trigger.decode_gives : Gives Trigger.decode Trigger.InRange := by
  have zero : IsInt64 0 := ExpressionKind.zero_isInt64 0 rfl
  refine Decoder.Record.read_gives ⟨zero, zero, nofun, zero⟩ ?_
  simp only [record, List.forall_mem_cons]
  refine ⟨?_, ?_, ?_, ?_, ?_, List.forall_mem_nil _⟩
  · exact field_keeps int64_gives fun t _ h fits => ⟨fits, h.low, h.high, h.window⟩
  · exact field_keeps int64_gives fun t _ h fits => ⟨h.id, fits, h.high, h.window⟩
  · exact field_keeps int64_gives.nullable fun t _ h fits => ⟨h.id, h.low, fits, h.window⟩
  · exact field_keeps int64_gives fun t _ h fits => ⟨h.id, h.low, h.high, fits⟩
  · exact field_keeps (gives_true _) fun t _ h _ => ⟨h.id, h.low, h.high, h.window⟩

/-! ## Columns and rows -/

namespace StoredCheck

theorem column_notBlank (items : List Json) : Text.allBlank (Json.array items).text = false := by
  unfold Text.allBlank Json.text
  rw [String.toList_ofList, Json.chars]
  rfl

theorem decodeColumn_encodeColumn {α : Type} {decode : Decoder α} {encode : α → Json}
    {items : List α} (legible : ∀ a ∈ items, Legible 3 (encode a))
    (back : ∀ a ∈ items, ∀ source, decode source (Document.ofJson (encode a)) = .ok a) :
    decodeColumn decode (encodeColumn encode items) = .ok items := by
  have whole : Legible 4 (Json.array (items.map encode)) := by
    refine .array ?_
    intro item member
    obtain ⟨a, listed, rfl⟩ := List.mem_map.mp member
    exact legible a listed
  have read := whole.read (by decide)
  have listed := Decoder.list_ofItems .text items fun a member => back a member .text
  unfold decodeColumn encodeColumn
  rw [column_notBlank, if_neg Bool.false_ne_true, Decoder.ofText, read]
  change (do
    let value ← ((Decoder.list decode .text (.array (ofItems (items.map encode)))).map some).map
      (Option.getD · [])
    if true then pure value else throw DecodeError.malformed) = _
  rw [listed]
  rfl

theorem decodeColumn_gives {α : Type} {decode : Decoder α} {holds : α → Prop}
    (gives : Gives decode holds) {column : String} {items : List α}
    (read : decodeColumn decode column = .ok items) : ∀ a ∈ items, holds a := by
  unfold decodeColumn at read
  split at read
  · obtain rfl := Except.ok.inj read
    exact List.forall_mem_nil _
  · have finite := Document.read_finite column
    cases whole : Document.read column with
    | mk document clean =>
        rw [whole] at finite
        simp only [Decoder.ofText, whole, bind, Except.bind] at read
        cases found : Decoder.nullDefault [] (Decoder.list decode) .text document with
        | error cause => rw [found] at read; cases read
        | ok values =>
            rw [found] at read
            have each := gives.list.nullDefault (List.forall_mem_nil _) .text document values finite
              found
            cases clean with
            | true => exact Except.ok.inj read ▸ each
            | false => cases read

end StoredCheck

/-- The selection of hosts as its columns hold it: a query of blanks is no query. -/
def Selection.filed : Selection → Selection
  | .query text => if Text.allBlank text then .list [] else .query text
  | .list names => .list names

structure Check.InRange (check : Check) : Prop where
  expressions : ∀ e ∈ check.expressions, e.kind.InRange
  triggers : ∀ trigger ∈ check.triggers, trigger.InRange

def Check.ReadsBack (check : Check) : Prop :=
  ∀ e ∈ check.expressions, e.kind.ReadsBack

namespace StoredCheck

theorem selection?_filed {row : StoredCheck} {hosts : Selection}
    (selected : row.selection? = .ok hosts) : hosts.filed = hosts := by
  unfold selection? at selected
  split at selected
  · cases names : decodeColumn Decoder.string row.hostsList with
    | error cause => rw [names] at selected; cases selected
    | ok listed =>
        rw [names] at selected
        obtain rfl := Except.ok.inj selected
        rfl
  · rename_i notBlank
    obtain rfl := Except.ok.inj selected
    exact if_neg notBlank

theorem selection?_ofCheck (check : Check) :
    (ofCheck check).selection? = .ok check.hosts.filed := by
  cases check with
  | mk id clusterId name interval hosts expressions triggers silenced =>
      cases hosts with
      | query text =>
          have emptyReads : decodeColumn Decoder.string (encodeColumn Json.string []) = .ok [] :=
            decodeColumn_encodeColumn (List.forall_mem_nil _) (List.forall_mem_nil _)
          change decodeColumn Decoder.string "[]" = .ok [] at emptyReads
          unfold selection? ofCheck Selection.filed
          simp only
          split
          · rw [emptyReads]
            rfl
          · rfl
      | list names =>
          have back : decodeColumn Decoder.string (encodeColumn .string names) = .ok names :=
            decodeColumn_encodeColumn (fun name _ => .string name) fun _ _ _ => rfl
          change (decodeColumn Decoder.string (encodeColumn .string names)).map Selection.list = _
          rw [back]
          rfl

/-- A check whose numbers are in range and read back is read from its own row as it is, but
for a query of blanks. -/
theorem definition?_ofCheck {check : Check} (inRange : check.InRange) (back : check.ReadsBack) :
    (ofCheck check).definition? = .ok { check with hosts := check.hosts.filed } := by
  have expressions : decodeColumn Expression.decode
      (encodeColumn Expression.encode check.expressions) = .ok check.expressions :=
    decodeColumn_encodeColumn
      (fun e listed => Expression.legible (inRange.expressions e listed) (back e listed))
      fun e listed source => Expression.decode_encode (inRange.expressions e listed) source
  have triggers : decodeColumn Trigger.decode (encodeColumn Trigger.encode check.triggers) =
      .ok check.triggers :=
    decodeColumn_encodeColumn
      (fun trigger listed => (Trigger.legible (inRange.triggers trigger listed)).mono (by decide))
      fun trigger listed source => Trigger.decode_encode (inRange.triggers trigger listed) source
  have columns : (ofCheck check).expressions = encodeColumn Expression.encode check.expressions ∧
      (ofCheck check).triggers = encodeColumn Trigger.encode check.triggers := ⟨rfl, rfl⟩
  unfold definition?
  rw [selection?_ofCheck, columns.1, columns.2, expressions, triggers]
  rfl

/-- Whatever check is read from a row has its numbers in range and no query of blanks. -/
theorem definition?_inRange {row : StoredCheck} {check : Check}
    (read : row.definition? = .ok check) : check.InRange ∧ check.hosts.filed = check.hosts := by
  obtain ⟨hosts, expressions, triggers, selected, ofExpressions, ofTriggers, rfl⟩ :=
    definition?_cases read
  refine ⟨⟨?_, ?_⟩, ?_⟩
  · exact decodeColumn_gives Expression.decode_gives ofExpressions
  · exact decodeColumn_gives Trigger.decode_gives ofTriggers
  · exact selection?_filed selected

/-- A check that is read from a row, whatever its columns hold, is read again from the row
that is written for it: nothing of it is lost or changed between the two. -/
theorem definition?_settled (row : StoredCheck) (check : Check)
    (read : row.definition? = .ok check) (back : check.ReadsBack) :
    (ofCheck check).definition? = .ok check := by
  obtain ⟨inRange, filed⟩ := definition?_inRange read
  have again := definition?_ofCheck inRange back
  rwa [filed] at again

/-- A row with a blank query, a list and an outcome that are null, a second spelling of an
operator and of a kind, a whole number for a threshold, a member that nothing knows and an
empty column. -/
def loosely : StoredCheck where
  id := 7
  clusterId := 1
  name := "load"
  interval := "1m"
  silenced := false
  hostsQuery := " \t"
  hostsList := "null"
  expressions := "[\x7b\"Extra\":[1],\"Type\":\"RawHostData\",\"Metric\":\"load\",\"Operator\":\"==\",\"Value\":4,\"Result\":null\x7d,\x7b\"Type\":\"HTTPS\"\x7d]"
  triggers := ""

def ofLoosely : Check where
  id := 7
  clusterId := 1
  name := "load"
  interval := "1m"
  hosts := .list []
  expressions := [.ofKind (.raw ⟨"load", .equal, 4, 0⟩),
    .ofKind (.http ⟨"", "", "", "", "", "", "", 0⟩)]
  triggers := []
  silenced := false

theorem definition?_eq_ok {row : StoredCheck} {check : Check}
    (found : row.definition?.toOption = some check) : row.definition? = .ok check := by
  cases decoded : row.definition? with
  | error cause => rw [decoded] at found; cases found
  | ok other =>
      rw [decoded] at found
      rw [Option.some.inj found]

theorem loosely_settled :
    loosely.definition? = .ok ofLoosely ∧ ofLoosely.ReadsBack ∧
      (ofCheck ofLoosely).definition? = .ok ofLoosely ∧ ofCheck ofLoosely ≠ loosely := by
  have read : loosely.definition? = .ok ofLoosely := definition?_eq_ok (by decide +kernel)
  have back : ofLoosely.ReadsBack := by
    simp only [Check.ReadsBack, ofLoosely, List.forall_mem_cons]
    refine ⟨?_, nofun, List.forall_mem_nil _⟩
    intro x same _
    obtain rfl := Option.some.inj same
    decide +kernel
  exact ⟨read, back, definition?_settled loosely ofLoosely read back, by decide +kernel⟩

end StoredCheck

end FleetMonitor
