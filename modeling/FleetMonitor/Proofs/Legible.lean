import FleetMonitor.Proofs.Numerals

/-!
# Written values read back

The compact text of a JSON value is read as the document of that value, whatever follows it:
every string reads back, and so does a list or an object as long as its numbers read back
and its nesting stays within what the reader takes.
-/

set_option autoImplicit false

namespace FleetMonitor

namespace Document

/-! ## Strings -/

/-- How a written character is read: control characters without a letter of their own are
written by their code. -/
def unitOf (c : Char) : StringUnit :=
  if c.toNat < 0x20 ∧ c ∉ ['\x08', '\x0c', '\n', '\r', '\t'] then .code c.toNat else .char c

theorem hex4?_control : ∀ n < 0x20,
    hex4? '0' '0' (Text.hexDigit (n / 16)) (Text.hexDigit (n % 16)) = some n := by
  decide

theorem readUnits_plain {c : Char} (quote : c ≠ '"') (backslash : c ≠ '\\')
    (printable : ¬c.toNat < 0x20) (rest : List Char) :
    readUnits (c :: rest) =
      (readUnits rest).map fun (units, after) => (.char c :: units, after) := by
  rw [readUnits]
  · rw [if_neg (by simp [printable, backslash])]
  · exact fun same => quote same
  · rintro a b c d rest rfl
    exact absurd rfl backslash
  · rintro c rest rfl
    exact absurd rfl backslash

theorem readUnits_escaped (c : Char) (rest : List Char) :
    readUnits (Json.escaped c ++ rest) =
      (readUnits rest).map fun (units, after) => (unitOf c :: units, after) := by
  by_cases lettered : c ∈ ['"', '\\', '\x08', '\x0c', '\n', '\r', '\t']
  · simp only [List.mem_cons, List.not_mem_nil, or_false] at lettered
    rcases lettered with rfl | rfl | rfl | rfl | rfl | rfl | rfl <;> rfl
  · simp only [List.mem_cons, List.not_mem_nil, or_false, not_or] at lettered
    obtain ⟨quote, backslash, backspace, feed, line, carriage, tab⟩ := lettered
    unfold Json.escaped unitOf
    rw [if_neg quote, if_neg backslash, if_neg backspace, if_neg feed, if_neg line,
      if_neg carriage, if_neg tab]
    by_cases control : c.toNat < 0x20
    · have code := hex4?_control c.toNat control
      simp only [control, if_true, List.cons_append, List.nil_append]
      rw [readUnits, code]
      simp [backspace, feed, line, carriage, tab]
    · simp only [control, if_false, false_and, List.cons_append, List.nil_append]
      exact readUnits_plain quote backslash control rest

theorem joinUnits_unitOf (c : Char) (units : List StringUnit) :
    joinUnits (unitOf c :: units) = (joinUnits units).map (c :: ·) := by
  unfold unitOf
  split
  · rename_i control
    -- No control character is half of a pair.
    have noHigh : ¬0xD800 ≤ c.toNat := by omega
    have noLow : ¬0xDC00 ≤ c.toNat := by omega
    cases units with
    | nil => simp [joinUnits, noHigh]
    | cons unit units =>
        cases unit with
        | char d => simp [joinUnits, noHigh]
        | code n => simp [joinUnits, noHigh, noLow]
  · rfl

theorem readUnits_flatMap (cs rest : List Char) :
    readUnits (cs.flatMap Json.escaped ++ '"' :: rest) = some (cs.map unitOf, rest) := by
  induction cs with
  | nil => rfl
  | cons c cs ih => rw [List.flatMap_cons, List.append_assoc, readUnits_escaped, ih]; rfl

theorem joinUnits_map (cs : List Char) : joinUnits (cs.map unitOf) = some cs := by
  induction cs with
  | nil => rfl
  | cons c cs ih => rw [List.map_cons, joinUnits_unitOf, ih]; rfl

theorem readString_stringChars (s : String) (rest : List Char) :
    readString (s.toList.flatMap Json.escaped ++ '"' :: rest) = some (some s, rest) := by
  simp [readString, readUnits_flatMap, joinUnits_map]

/-! ## Values -/

theorem skipBlanks_cons {c : Char} (noBlank : isJsonBlank c = false) (rest : List Char) :
    skipBlanks (c :: rest) = c :: rest := by
  simp [skipBlanks, noBlank]

theorem head_of_readNumber {c : Char} {cs : List Char} {n : Number}
    {after : Option (List Char)} (read : readNumber (c :: cs) = (number n, after)) :
    c = '-' ∨ c.isDigit = true := by
  by_cases minus : c = '-'
  · exact .inl minus
  · cases digit : c.isDigit with
    | true => exact .inr rfl
    | false =>
        have plain : signOf (c :: cs) = (false, c :: cs) := by
          unfold signOf
          split
          · rename_i same
            exact absurd (List.cons.inj same).1 minus
          · rfl
        rw [readNumber_eq, plain] at read
        simp [readUnsigned, Decimal.spanDigits, digit] at read

theorem noBlank_of_head {c : Char} (head : c = '-' ∨ c.isDigit = true) :
    isJsonBlank c = false := by
  rcases head with rfl | digit
  · decide
  · exact Decimal.isDigit_noBlank digit

theorem readValue_of_head {c : Char} (head : c = '-' ∨ c.isDigit = true) (fuel depth : Nat)
    (cs : List Char) : readValue (fuel + 1) depth (c :: cs) = readNumber (c :: cs) := by
  rw [readValue, skipBlanks_cons (noBlank_of_head head)]
  split
  all_goals first
    | rfl
    | rename_i same
      obtain ⟨rfl, -⟩ := List.cons.inj same
      exact absurd head (by decide)

theorem stringChars_append (s : String) (rest : List Char) :
    Json.stringChars s ++ rest = '"' :: (s.toList.flatMap Json.escaped ++ '"' :: rest) := by
  simp [Json.stringChars]

theorem readValue_string (s : String) (fuel depth : Nat) (rest : List Char) :
    readValue (fuel + 1) depth (Json.stringChars s ++ rest) = (string s, some rest) := by
  rw [stringChars_append, readValue, skipBlanks_cons (by decide)]
  simp only [readString_stringChars]

/-- The text of the value is read as its document, in front of whatever stops a number and
within so many levels. -/
def ReadsAs (room : Nat) (json : Json) : Prop :=
  ∀ (fuel depth : Nat) (rest : List Char), 2 * json.chars.length + 1 ≤ fuel →
    depth + room ≤ depthLimit → Stops rest →
    readValue fuel depth (json.chars ++ rest) = (ofJson json, some rest)

theorem ReadsAs.number {n : Number}
    (back : readNumber n.text.toList = (Document.number n, some [])) (room : Nat) :
    ReadsAs room (.number n) := by
  intro fuel depth rest enough deep stops
  obtain ⟨fuel, rfl⟩ : ∃ f, fuel = f + 1 := ⟨fuel - 1, by omega⟩
  have read := readNumber_append back stops
  rw [List.nil_append] at read
  change readValue (fuel + 1) depth (n.text.toList ++ rest) = _
  cases text : n.text.toList with
  | nil => rw [text] at back; cases back
  | cons c cs =>
      rw [text] at back read
      rw [List.cons_append, readValue_of_head (head_of_readNumber back)]
      exact read

theorem stops_of_mem {c : Char} (mem : c ∈ [',', ']', '\x7d']) (rest : List Char) :
    Stops (c :: rest) := by
  intro d head
  obtain rfl := Option.some.inj head
  simp only [List.mem_cons, List.not_mem_nil, or_false] at mem
  rcases mem with rfl | rfl | rfl <;> decide

theorem readItems_itemChars {room : Nat} {items : List Json} (nonempty : items ≠ [])
    (each : ∀ item ∈ items, ReadsAs room item) (fuel depth : Nat) (rest : List Char)
    (enough : 2 * (Json.itemChars items).length + 2 ≤ fuel)
    (deep : depth + room ≤ depthLimit) :
    readItems fuel depth (Json.itemChars items ++ ']' :: rest) =
      (ofItems items, some rest) := by
  induction items generalizing fuel with
  | nil => exact absurd rfl nonempty
  | cons item items ih =>
      obtain ⟨fuel, rfl⟩ : ∃ f, fuel = f + 1 := ⟨fuel - 1, by omega⟩
      obtain ⟨first, others⟩ := List.forall_mem_cons.mp each
      cases items with
      | nil =>
          have read := first fuel depth (']' :: rest) (by simpa [Json.itemChars] using enough)
            deep (stops_of_mem (by decide) rest)
          simp [readItems, Json.itemChars, read, skipBlanks_cons, isJsonBlank, ofItems]
      | cons next items =>
          have chars : Json.itemChars (item :: next :: items) =
              item.chars ++ ',' :: Json.itemChars (next :: items) := rfl
          rw [chars] at enough ⊢
          simp only [List.length_append, List.length_cons] at enough
          have read := first fuel depth (',' :: (Json.itemChars (next :: items) ++ ']' :: rest))
            (by omega) deep (stops_of_mem (by decide) _)
          have left := ih (List.cons_ne_nil next items) others fuel (by omega)
          rw [List.append_assoc, List.cons_append, readItems, read]
          simp only [skipBlanks_cons (c := ',') (by decide), left]
          rfl

theorem readMembers_memberChars {room : Nat} {members : List (String × Json)}
    (nonempty : members ≠ []) (each : ∀ member ∈ members, ReadsAs room member.2)
    (fuel depth : Nat) (rest : List Char)
    (enough : 2 * (Json.memberChars members).length + 2 ≤ fuel)
    (deep : depth + room ≤ depthLimit) :
    readMembers fuel depth (Json.memberChars members ++ '\x7d' :: rest) =
      (ofMembers members, some rest) := by
  induction members generalizing fuel with
  | nil => exact absurd rfl nonempty
  | cons member members ih =>
      obtain ⟨fuel, rfl⟩ : ∃ f, fuel = f + 1 := ⟨fuel - 1, by omega⟩
      obtain ⟨first, others⟩ := List.forall_mem_cons.mp each
      obtain ⟨key, value⟩ := member
      have first : ReadsAs room value := first
      cases members with
      | nil =>
          have chars : Json.memberChars [(key, value)] =
              Json.stringChars key ++ ':' :: value.chars := rfl
          rw [chars] at enough ⊢
          simp only [List.length_append, List.length_cons] at enough
          have read := first fuel depth ('\x7d' :: rest) (by omega) deep
            (stops_of_mem (by decide) rest)
          rw [List.append_assoc, List.cons_append, stringChars_append, readMembers,
            skipBlanks_cons (by decide)]
          simp only [readString_stringChars, skipBlanks_cons (c := ':') (by decide), read,
            skipBlanks_cons (c := '\x7d') (by decide)]
          rfl
      | cons next members =>
          have chars : Json.memberChars ((key, value) :: next :: members) =
              Json.stringChars key ++ ':' :: value.chars ++
                ',' :: Json.memberChars (next :: members) := rfl
          rw [chars] at enough ⊢
          simp only [List.length_append, List.length_cons] at enough
          have read := first fuel depth
            (',' :: (Json.memberChars (next :: members) ++ '\x7d' :: rest)) (by omega) deep
            (stops_of_mem (by decide) _)
          have left := ih (List.cons_ne_nil next members) others fuel (by omega)
          rw [List.append_assoc, List.append_assoc, List.cons_append, List.cons_append,
            stringChars_append, readMembers, skipBlanks_cons (by decide)]
          simp only [readString_stringChars, skipBlanks_cons (c := ':') (by decide), read,
            skipBlanks_cons (c := ',') (by decide), left]
          rfl

/-- A value whose numbers read back and which nests lists and objects no more than so many
times. -/
inductive Legible : Nat → Json → Prop where
  | null {room : Nat} : Legible room .null
  | bool {room : Nat} (b : Bool) : Legible room (.bool b)
  | number {room : Nat} {n : Number}
      (back : readNumber n.text.toList = (Document.number n, some [])) :
      Legible room (.number n)
  | string {room : Nat} (s : String) : Legible room (.string s)
  | array {room : Nat} {items : List Json} (each : ∀ item ∈ items, Legible room item) :
      Legible (room + 1) (.array items)
  | object {room : Nat} {members : List (String × Json)}
      (each : ∀ member ∈ members, Legible room member.2) :
      Legible (room + 1) (.object members)

theorem Legible.mono {room more : Nat} {json : Json} (legible : Legible room json)
    (le : room ≤ more) : Legible more json := by
  induction legible generalizing more with
  | null => exact .null
  | bool b => exact .bool b
  | number back => exact .number back
  | string s => exact .string s
  | array each ih =>
      obtain ⟨more, rfl⟩ : ∃ k, more = k + 1 := ⟨more - 1, by omega⟩
      exact .array fun item member => ih item member (by omega)
  | object each ih =>
      obtain ⟨more, rfl⟩ : ∃ k, more = k + 1 := ⟨more - 1, by omega⟩
      exact .object fun member listed => ih member listed (by omega)

/-- The text of a legible value begins with a character that is neither blank nor the end of
a list. -/
theorem Legible.head {room : Nat} {json : Json} (legible : Legible room json) :
    ∃ c cs, json.chars = c :: cs ∧ isJsonBlank c = false ∧ c ≠ ']' := by
  cases legible with
  | null => exact ⟨'n', _, rfl, by decide, by decide⟩
  | bool b => cases b <;> exact ⟨_, _, rfl, by decide, by decide⟩
  | number back =>
      rename_i n
      change ∃ c cs, n.text.toList = c :: cs ∧ _
      cases text : n.text.toList with
      | nil => rw [text] at back; cases back
      | cons c cs =>
          rw [text] at back
          have head := head_of_readNumber back
          refine ⟨c, cs, rfl, noBlank_of_head head, ?_⟩
          rintro rfl
          exact absurd head (by decide)
  | string s => exact ⟨'"', _, rfl, by decide, by decide⟩
  | array each => exact ⟨'[', _, rfl, by decide, by decide⟩
  | object each => exact ⟨'\x7b', _, rfl, by decide, by decide⟩

theorem itemChars_head {room : Nat} {items : List Json} (nonempty : items ≠ [])
    (each : ∀ item ∈ items, Legible room item) :
    ∃ c cs, Json.itemChars items = c :: cs ∧ isJsonBlank c = false ∧ c ≠ ']' := by
  match items with
  | [] => exact absurd rfl nonempty
  | [item] => exact (each item List.mem_cons_self).head
  | item :: next :: items =>
      obtain ⟨c, cs, chars, noBlank, noEnd⟩ := (each item List.mem_cons_self).head
      refine ⟨c, cs ++ ',' :: Json.itemChars (next :: items), ?_, noBlank, noEnd⟩
      change item.chars ++ ',' :: Json.itemChars (next :: items) = _
      rw [chars, List.cons_append]

theorem memberChars_head {members : List (String × Json)} (nonempty : members ≠ []) :
    ∃ cs, Json.memberChars members = '"' :: cs := by
  match members with
  | [] => exact absurd rfl nonempty
  | [(key, value)] => exact ⟨_, stringChars_append key _⟩
  | (key, value) :: next :: members =>
      exact ⟨_, (List.append_assoc _ _ _).trans (stringChars_append key _)⟩

theorem nested_of_le {depth : Nat} (deep : depth ≤ depthLimit) (node : Document)
    (rest : Option (List Char)) : nested depth node rest = (node, rest) := by
  have shallow : ¬depthLimit < depth := by omega
  simp [nested, shallow]

theorem ReadsAs.array {room : Nat} {items : List Json}
    (each : ∀ item ∈ items, Legible room item) (read : ∀ item ∈ items, ReadsAs room item) :
    ReadsAs (room + 1) (.array items) := by
  intro fuel depth rest enough deep stops
  obtain ⟨fuel, rfl⟩ : ∃ f, fuel = f + 1 := ⟨fuel - 1, by omega⟩
  rw [Json.chars] at enough ⊢
  simp only [List.length_append, List.length_cons] at enough
  have shallow : depth + 1 ≤ depthLimit := by omega
  rw [List.append_assoc, List.cons_append, List.singleton_append, readValue,
    skipBlanks_cons (by decide)]
  by_cases empty : items = []
  · subst empty
    simp only [Json.itemChars, List.nil_append, skipBlanks_cons (c := ']') (by decide)]
    exact nested_of_le shallow _ _
  · obtain ⟨c, cs, chars, noBlank, noEnd⟩ := itemChars_head empty each
    have items := readItems_itemChars empty read fuel (depth + 1) rest (by omega) (by omega)
    rw [chars, List.cons_append] at items ⊢
    simp only [skipBlanks_cons noBlank]
    split
    · rename_i same
      exact absurd (List.cons.inj same).1 noEnd
    · rw [items]
      exact nested_of_le shallow _ _

theorem ReadsAs.object {room : Nat} {members : List (String × Json)}
    (read : ∀ member ∈ members, ReadsAs room member.2) :
    ReadsAs (room + 1) (.object members) := by
  intro fuel depth rest enough deep stops
  obtain ⟨fuel, rfl⟩ : ∃ f, fuel = f + 1 := ⟨fuel - 1, by omega⟩
  rw [Json.chars] at enough ⊢
  simp only [List.length_append, List.length_cons] at enough
  have shallow : depth + 1 ≤ depthLimit := by omega
  rw [List.append_assoc, List.cons_append, List.singleton_append, readValue,
    skipBlanks_cons (by decide)]
  by_cases empty : members = []
  · subst empty
    simp only [Json.memberChars, List.nil_append, skipBlanks_cons (c := '\x7d') (by decide)]
    exact nested_of_le shallow _ _
  · obtain ⟨cs, chars⟩ := memberChars_head empty
    have members := readMembers_memberChars empty read fuel (depth + 1) rest (by omega) (by omega)
    rw [chars, List.cons_append] at members ⊢
    simp only [skipBlanks_cons (c := '"') (by decide)]
    split
    · rename_i same
      exact absurd (List.cons.inj same).1 (by decide)
    · rw [members]
      exact nested_of_le shallow _ _

theorem Legible.readsAs {room : Nat} {json : Json} (legible : Legible room json) :
    ReadsAs room json := by
  induction legible with
  | number back => exact ReadsAs.number back _
  | array each read => exact ReadsAs.array each read
  | object each read => exact ReadsAs.object read
  | null =>
      intro fuel depth rest enough deep stops
      obtain ⟨fuel, rfl⟩ : ∃ f, fuel = f + 1 := ⟨fuel - 1, by omega⟩
      rfl
  | bool b =>
      intro fuel depth rest enough deep stops
      obtain ⟨fuel, rfl⟩ : ∃ f, fuel = f + 1 := ⟨fuel - 1, by omega⟩
      cases b <;> rfl
  | string s =>
      intro fuel depth rest enough deep stops
      obtain ⟨fuel, rfl⟩ : ∃ f, fuel = f + 1 := ⟨fuel - 1, by omega⟩
      exact readValue_string s fuel depth rest

/-- The compact text of a legible value is read as its document and nothing else. -/
theorem Legible.read {room : Nat} {json : Json} (legible : Legible room json)
    (deep : room ≤ depthLimit) : Document.read json.text = (ofJson json, true) := by
  have whole := legible.readsAs (2 * json.chars.length + 2) 0 [] (by omega) (by omega) nofun
  rw [List.append_nil] at whole
  rw [Document.read, Json.text, String.toList_ofList, whole]
  rfl

end Document

end FleetMonitor
