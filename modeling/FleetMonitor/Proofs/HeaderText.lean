import FleetMonitor.Http.Header
import FleetMonitor.Proofs.Conjunction
import FleetMonitor.Proofs.Dealing
import Mathlib.Data.List.FinRange
import Mathlib.Data.List.TakeWhile
import Mathlib.Data.Nat.Digits.Defs

/-!
# Header fields as they are written

Fields stand as `name=value` in one text, with commas and line feeds between
them, with blanks around the names and the values, and with pieces among them
that are no field.  Reading the text gives back what was written: under every
name its values in the order in which they stand, and nothing else.
-/

set_option autoImplicit false

namespace FleetMonitor

namespace Http

namespace Header

/-! ## What can be written -/

def Unparted (cs : List Char) : Prop :=
  ∀ c ∈ cs, isSeparator c = false

/-- Blanks that can stand within a piece: any but the line feed. -/
def IsGap (gap : String) : Prop :=
  Unparted gap.toList ∧ ∀ c ∈ gap.toList, Text.isBlank c = true

/-- A field as it is written: a name and a value that a request takes, with blanks around
both.  An equals sign may stand in the value. -/
structure Written where
  beforeName : String
  name : String
  afterName : String
  beforeValue : String
  value : String
  afterValue : String
  name_isName : isName name = true
  value_allowed : ∀ c ∈ value.toList, isValueChar c = true
  value_bare : Text.trim value = value
  value_unparted : Unparted value.toList
  beforeName_gap : IsGap beforeName
  afterName_gap : IsGap afterName
  beforeValue_gap : IsGap beforeValue
  afterValue_gap : IsGap afterValue

/-- A piece that is no field: it has no equals sign, or what stands before the first one is no
name, or what stands after that has a character that no value has. -/
inductive IsMalformed : List Char → Prop where
  | unequal {cs : List Char} (noSign : '=' ∉ cs) : IsMalformed cs
  | misnamed {before : List Char} (after : List Char) (first : '=' ∉ before)
      (noName : isName (Text.trim (String.ofList before)) = false) :
      IsMalformed (before ++ '=' :: after)
  | misvalued {before after : List Char} (first : '=' ∉ before)
      (noValue : ∃ c ∈ (Text.trim (String.ofList after)).toList, isValueChar c = false) :
      IsMalformed (before ++ '=' :: after)

inductive Piece where
  | field (written : Written)
  | other (text : List Char) (unparted : Unparted text) (isMalformed : IsMalformed text)

abbrev Separator : Type :=
  { c : Char // isSeparator c = true }

namespace Written

def left (written : Written) : List Char :=
  written.beforeName.toList ++ written.name.toList ++ written.afterName.toList

def right (written : Written) : List Char :=
  written.beforeValue.toList ++ written.value.toList ++ written.afterValue.toList

def taken (written : Written) : Header :=
  ⟨Text.lowerAscii written.name, written.value⟩

end Written

namespace Piece

def text : Piece → List Char
  | .field written => written.left ++ '=' :: written.right
  | .other text _ _ => text

def written? : Piece → Option Written
  | .field written => some written
  | .other _ _ _ => none

end Piece

def laidOut (first : Piece) : List (Separator × Piece) → List Char
  | [] => first.text
  | (separator, next) :: rest => first.text ++ separator.val :: laidOut next rest

def writtenIn (first : Piece) (rest : List (Separator × Piece)) : List Written :=
  (first :: rest.map Prod.snd).filterMap Piece.written?

/-! ## Names and values within their blanks -/

def IsBare (c : Char) : Prop :=
  Text.isBlank c = false ∧ c ≠ '=' ∧ isSeparator c = false

instance (c : Char) : Decidable (IsBare c) :=
  inferInstanceAs (Decidable (_ ∧ _ ∧ _))

theorem isBare_of_code {c : Char}
    (code : (48 ≤ c.toNat ∧ c.toNat ≤ 57) ∨ (65 ≤ c.toNat ∧ c.toNat ≤ 90) ∨
      (97 ≤ c.toNat ∧ c.toNat ≤ 122)) : IsBare c := by
  have table : ∀ n < 123, (48 ≤ n ∧ n ≤ 57) ∨ (65 ≤ n ∧ n ≤ 90) ∨ (97 ≤ n ∧ n ≤ 122) →
      IsBare (Char.ofNat n) := by
    decide +kernel
  have ofCode := table c.toNat (by omega) code
  rwa [Char.ofNat_toNat] at ofCode

theorem isBare_of_isTokenChar {c : Char} (inToken : isTokenChar c = true) : IsBare c := by
  delta isTokenChar Char.isAlphanum Char.isAlpha Char.isUpper Char.isLower Char.isDigit at inToken
  simp only [Bool.or_eq_true, Bool.and_eq_true, decide_eq_true_eq, List.contains_iff_mem]
    at inToken
  rcases inToken with ((upper | lower) | digit) | isSign
  · exact isBare_of_code (.inr (.inl upper))
  · exact isBare_of_code (.inr (.inr lower))
  · exact isBare_of_code (.inl digit)
  · have signs : "!#$%&'*+-.^_\x60|~".toList.all (fun d => decide (IsBare d)) = true := by
      decide +kernel
    exact of_decide_eq_true (List.all_eq_true.mp signs c isSign)

theorem trim_within {core before after : String} (bare : Text.trim core = core)
    (gapBefore : IsGap before) (gapAfter : IsGap after) :
    Text.trim (String.ofList (before.toList ++ core.toList ++ after.toList)) = core := by
  have stripped : Text.stripWhile Text.isBlank core.toList = core.toList := by
    simpa [Text.trim] using congrArg String.toList bare
  rw [Text.trim, String.toList_ofList]
  refine (congrArg String.ofList ?_).trans String.ofList_toList
  cases stated : core.toList.all Text.isBlank with
  | true =>
    have nothing {cs : List Char} (blank : ∀ c ∈ cs, Text.isBlank c = true) :
        Text.stripWhile Text.isBlank cs = [] := by
      simp [Text.stripWhile, Text.dropEndWhile, List.dropWhile_eq_nil_iff.mpr blank]
    have blank := List.all_eq_true.mp stated
    rw [nothing blank] at stripped
    rw [← stripped, List.append_nil]
    refine nothing fun c inGap => ?_
    exact (List.mem_append.mp inGap).elim (gapBefore.2 c) (gapAfter.2 c)
  | false =>
    obtain ⟨front, inner, back, layout, solid, blankFront, blankBack⟩ :=
      Query.exists_solid stated
    rw [layout, Query.strip_solid solid blankFront blankBack] at stripped
    rw [layout, ← stripped]
    exact Query.strip_solid solid gapBefore.2 gapAfter.2

theorem isName_all {name : String} (name_isName : isName name = true) :
    name ≠ "" ∧ ∀ c ∈ name.toList, isTokenChar c = true := by
  rw [isName, Bool.and_eq_true, isToken, Bool.and_eq_true] at name_isName
  obtain ⟨⟨notEmpty, tokens⟩, -⟩ := name_isName
  exact ⟨by simpa using notEmpty, List.all_eq_true.mp tokens⟩

theorem trim_name {name : String} (name_isName : isName name = true) : Text.trim name = name := by
  obtain ⟨notEmpty, tokens⟩ := isName_all name_isName
  have notBlank (c : Char) (inName : c ∈ name.toList) : Text.isBlank c = false :=
    (isBare_of_isTokenChar (tokens c inName)).1
  have solid : Query.Solid name.toList :=
    ⟨by simpa using notEmpty, fun c isHead => notBlank c (List.mem_of_mem_head? isHead),
      fun c isLast => notBlank c (List.mem_of_getLast? isLast)⟩
  have stripped : Text.stripWhile Text.isBlank ([] ++ name.toList ++ []) = name.toList :=
    Query.strip_solid solid (by simp) (by simp)
  rw [List.nil_append, List.append_nil] at stripped
  rw [Text.trim, stripped, String.ofList_toList]

/-! ## One piece -/

theorem cut_first {before : List Char} (first : '=' ∉ before) (after : List Char) :
    cut? '=' (before ++ '=' :: after) = some (before, after) := by
  have others : ∀ c ∈ before, (c != '=') = true := fun c inBefore =>
    bne_iff_ne.mpr fun same => first (same ▸ inBefore)
  rw [cut?, List.span_eq_takeWhile_dropWhile, List.takeWhile_append_of_pos others,
    List.dropWhile_append_of_pos others]
  simp

theorem cut_none {cs : List Char} (noSign : '=' ∉ cs) : cut? '=' cs = none := by
  have others : ∀ c ∈ cs, (c != '=') = true := fun c inText =>
    bne_iff_ne.mpr fun same => noSign (same ▸ inText)
  rw [cut?, List.span_eq_takeWhile_dropWhile, List.dropWhile_eq_nil_iff.mpr others]

theorem ofPiece_cut {before : List Char} (first : '=' ∉ before) (after : List Char) :
    ofPiece (before ++ '=' :: after) =
      if isName (Text.trim (String.ofList before)) &&
          (Text.trim (String.ofList after)).toList.all isValueChar then
        some ⟨Text.lowerAscii (Text.trim (String.ofList before)),
          Text.trim (String.ofList after)⟩
      else none := by
  rw [ofPiece, cut_first first after]
  simp only [Option.bind_eq_bind, Option.bind_some, Text.lowerAscii]

theorem IsMalformed.ofPiece {cs : List Char} (isMalformed : IsMalformed cs) :
    ofPiece cs = none := by
  cases isMalformed with
  | unequal noSign => rw [Header.ofPiece, cut_none noSign]; rfl
  | misnamed after first noName => rw [ofPiece_cut first, noName]; rfl
  | misvalued first noValue =>
    rw [ofPiece_cut first, List.all_eq_false.mpr (by simpa using noValue), Bool.and_false]
    rfl

theorem Written.left_unsigned (written : Written) : '=' ∉ written.left := by
  have ofGap {gap : String} (isGap : IsGap gap) : '=' ∉ gap.toList := fun inGap =>
    absurd (isGap.2 '=' inGap) (by decide)
  have ofName : '=' ∉ written.name.toList := fun inName =>
    (isBare_of_isTokenChar ((isName_all written.name_isName).2 '=' inName)).2.1 rfl
  simp [Written.left, ofGap written.beforeName_gap, ofGap written.afterName_gap, ofName]

theorem Written.ofPiece (written : Written) :
    ofPiece (written.left ++ '=' :: written.right) = some written.taken := by
  have ofName : Text.trim (String.ofList written.left) = written.name :=
    trim_within (trim_name written.name_isName) written.beforeName_gap written.afterName_gap
  have ofValue : Text.trim (String.ofList written.right) = written.value :=
    trim_within written.value_bare written.beforeValue_gap written.afterValue_gap
  rw [ofPiece_cut written.left_unsigned, ofName, ofValue, written.name_isName,
    List.all_eq_true.mpr written.value_allowed]
  rfl

theorem Piece.ofPiece (piece : Piece) :
    ofPiece piece.text = piece.written?.map Written.taken := by
  cases piece with
  | field written => exact written.ofPiece
  | other text unparted isMalformed => exact isMalformed.ofPiece

theorem Unparted.append {front back : List Char} (ofFront : Unparted front)
    (ofBack : Unparted back) : Unparted (front ++ back) := fun c inText =>
  (List.mem_append.mp inText).elim (ofFront c) (ofBack c)

theorem Piece.text_unparted (piece : Piece) : Unparted piece.text := by
  cases piece with
  | field written =>
    have ofName : Unparted written.name.toList := fun c inName =>
      (isBare_of_isTokenChar ((isName_all written.name_isName).2 c inName)).2.2
    have ofSign : Unparted ['='] := by simp [Unparted, isSeparator]
    exact ((written.beforeName_gap.1.append ofName).append written.afterName_gap.1).append
      (ofSign.append ((written.beforeValue_gap.1.append written.value_unparted).append
        written.afterValue_gap.1))
  | other text unparted isMalformed => exact unparted

/-! ## The whole text -/

/-- A text falls into the pieces that were laid out. -/
theorem splitOnP_laidOut (first : Piece) (rest : List (Separator × Piece)) :
    (laidOut first rest).splitOnP isSeparator =
      (first :: rest.map Prod.snd).map Piece.text := by
  induction rest generalizing first with
  | nil => exact List.splitOnP_eq_singleton first.text_unparted
  | cons next rest ih =>
    obtain ⟨separator, next⟩ := next
    rw [laidOut, List.splitOnP_append_cons _ _ separator.property,
      List.splitOnP_eq_singleton first.text_unparted, ih next]
    rfl

theorem ofText_laidOut (first : Piece) (rest : List (Separator × Piece)) :
    ofText (String.ofList (laidOut first rest)) =
      (writtenIn first rest).map Written.taken := by
  rw [ofText, String.toList_ofList, splitOnP_laidOut, writtenIn, List.filterMap_map,
    List.map_filterMap]
  exact List.filterMap_congr fun piece _ => piece.ofPiece

theorem values_taken (fields : List Written) (name : String) :
    values (fields.map Written.taken) name =
      (fields.filter fun written => Text.lowerAscii written.name == name).map (·.value) := by
  rw [values, List.filter_map, List.map_map]
  rfl

theorem values_append (front back : List Header) (name : String) :
    values (front ++ back) name = values front name ++ values back name := by
  simp [values]

theorem values_foldlM [table : Table] [table.Lawful] {headers : List Header}
    {start state : table.State} (taken : headers.foldlM Table.append? start = some state)
    (name : String) :
    values (Table.fields state) name = values (Table.fields start) name ++ values headers name := by
  induction headers generalizing start with
  | nil =>
    cases taken
    exact (List.append_nil _).symm
  | cons header rest ih =>
    rw [List.foldlM_cons] at taken
    obtain ⟨middle, first, others⟩ := Option.bind_eq_some_iff.mp taken
    rw [ih others, Table.Lawful.values_append first, List.append_assoc, ← values_append]
    rfl

theorem values_keep [table : Table] [table.Lawful] {headers : List Header} {state : table.State}
    (kept : Table.keep? headers = some state) (name : String) :
    values (Table.fields state) name = values headers name := by
  rw [values_foldlM kept, Table.Lawful.fields_empty]
  rfl

theorem readAll_laidOut [Table] (first : Piece) (rest : List (Separator × Piece)) :
    readAll? (String.ofList (laidOut first rest)) =
      (Table.keep? ((writtenIn first rest).map Written.taken)).map Table.fields := by
  rw [readAll?, ofText_laidOut]

/-- Header fields are read as they are written.  Wherever among them other pieces stand, and
however commas, line feeds and blanks are mixed, the fields that the table of a request is
given are those written in the text, in their order; and if it takes them all, each name, in
any letter case, has its values in the order in which they stand, and nothing else. -/
theorem fields_are_read_as_written [table : Table] [table.Lawful] (first : Piece)
    (rest : List (Separator × Piece)) :
    readAll? (String.ofList (laidOut first rest)) =
        (Table.keep? ((writtenIn first rest).map Written.taken)).map Table.fields ∧
      ∀ headers, readAll? (String.ofList (laidOut first rest)) = some headers → ∀ name,
        values headers name =
          ((writtenIn first rest).filter fun written =>
            Text.lowerAscii written.name == name).map (·.value) := by
  refine ⟨readAll_laidOut first rest, fun headers isRead name => ?_⟩
  rw [readAll_laidOut] at isRead
  obtain ⟨state, kept, rfl⟩ := Option.map_eq_some_iff.mp isRead
  rw [values_keep kept, values_taken]

def plainField (name value : String) (isName : isName name = true)
    (allowed : ∀ c ∈ value.toList, isValueChar c = true) (bare : Text.trim value = value)
    (unparted : Unparted value.toList) : Written where
  beforeName := ""
  name := name
  afterName := ""
  beforeValue := ""
  value := value
  afterValue := ""
  name_isName := isName
  value_allowed := allowed
  value_bare := bare
  value_unparted := unparted
  beforeName_gap := ⟨by simp [Unparted], by simp⟩
  afterName_gap := ⟨by simp [Unparted], by simp⟩
  beforeValue_gap := ⟨by simp [Unparted], by simp⟩
  afterValue_gap := ⟨by simp [Unparted], by simp⟩

def lineFeed : Separator :=
  ⟨'\n', rfl⟩

/-- Two values under one name, and a piece that is no field between them. -/
theorem repeated_name_keeps_its_values :
    let first := .field (plainField "X-Token" "a=b" (by decide +kernel)
      (List.all_eq_true.mp (by decide +kernel)) (by decide +kernel)
      (by simp [Unparted, isSeparator]))
    let last := .field (plainField "x-token" "" (by decide +kernel) (by simp)
      (by decide +kernel) (by simp [Unparted]))
    let rest := [(lineFeed, .other "broken".toList (by simp [Unparted, isSeparator])
      (.unequal (by decide))), (lineFeed, last)]
    (Table.listed 24576).Lawful ∧
      String.ofList (laidOut first rest) = "X-Token=a=b\nbroken\nx-token=" ∧
      ∃ headers, @readAll? (.listed 24576) "X-Token=a=b\nbroken\nx-token=" = some headers ∧
        values headers "x-token" = ["a=b", ""] := by
  intro first last rest
  have text : String.ofList (laidOut first rest) = "X-Token=a=b\nbroken\nx-token=" := by
    decide +kernel
  have read : (@readAll? (.listed 24576) "X-Token=a=b\nbroken\nx-token=").isSome = true := by
    decide +kernel
  obtain ⟨headers, isRead⟩ := Option.isSome_iff_exists.mp read
  have told := (@fields_are_read_as_written (.listed 24576) _ first rest).2 headers
  rw [text] at told
  exact ⟨inferInstance, text, headers, isRead, told isRead "x-token"⟩

/-! ## A table that is full -/

theorem foldlM_listed_full {room : Nat} {headers : List Header} (state : Table.Listed)
    (within : state.names.length ≤ room) (more : room < state.names.length + headers.length)
    (distinct : (headers.map (·.name)).Nodup)
    (new : ∀ header ∈ headers, header.name ∉ state.names) :
    headers.foldlM (@Table.append? (.listed room)) state = none := by
  induction headers generalizing state with
  | nil => exact absurd within (Nat.not_le.mpr more)
  | cons header rest ih =>
    obtain ⟨fresh, others⟩ := List.nodup_cons.mp distinct
    obtain ⟨newFirst, newOthers⟩ := List.forall_mem_cons.mp new
    rw [List.foldlM_cons]
    by_cases free : state.names.length < room
    · have taken : @Table.append? (.listed room) state header =
          some ⟨header.name :: state.names, header :: state.latestFirst⟩ := by
        change (if _ then _ else _) = _
        rw [if_pos free, List.insert_of_not_mem newFirst]
      rw [taken]
      refine ih ⟨header.name :: state.names, _⟩ free ?_ others fun other isOne known => ?_
      · simp only [List.length_cons] at more ⊢
        omega
      · rcases List.mem_cons.mp known with same | before
        · exact fresh (List.mem_map.mpr ⟨other, isOne, same⟩)
        · exact newOthers other isOne before
    · have refused : @Table.append? (.listed room) state header = none := if_neg free
      rw [refused]
      rfl

theorem isName_toDigits {n : Nat} (small : n < longestName) :
    isName (String.ofList (Nat.toDigits 10 n)) = true := by
  have digits : ∀ c ∈ Nat.toDigits 10 n, isTokenChar c = true := fun c isOne => by
    have isDigit := Nat.isDigit_of_mem_toDigits (by decide) (by decide) isOne
    simp [isTokenChar, Char.isAlphanum, isDigit]
  have short : (Nat.toDigits 10 n).length ≤ n + 1 :=
    Nat.toDigits_length 10 n (n + 1) (Nat.succ_pos _)
      ((Nat.lt_succ_self _).trans (Nat.lt_pow_self (by decide)))
  simp only [isName, isToken, Bool.and_eq_true, decide_eq_true_eq]
  refine ⟨⟨by simp, List.all_eq_true.mpr (by simpa using digits)⟩, ?_⟩
  rw [← String.length_toList, String.toList_ofList]
  omega

def numbered {room : Nat} (small : room < longestName) (i : Fin (room + 1)) : Written :=
  plainField (String.ofList (Nat.toDigits 10 i)) "" (isName_toDigits (by omega)) (by simp) rfl
    (by simp [Unparted])

def numberedFields {room : Nat} (small : room < longestName) : List (Separator × Piece) :=
  (List.finRange room).map fun i => (lineFeed, .field (numbered small i.succ))

theorem writtenIn_numbered {room : Nat} (small : room < longestName) :
    writtenIn (.field (numbered small 0)) (numberedFields small) =
      (List.finRange (room + 1)).map (numbered small) := by
  rw [List.finRange_succ, List.map_cons, List.map_map, writtenIn, numberedFields, List.map_map,
    List.filterMap_cons, List.filterMap_map]
  exact congrArg _ (List.filterMap_eq_map_iff_forall_eq_some.mpr fun i _ => rfl)

theorem numbered_distinct {room : Nat} (small : room < longestName) :
    ((((List.finRange (room + 1)).map (numbered small)).map Written.taken).map (·.name)).Nodup := by
  have kept (n : Nat) : (Nat.toDigits 10 n).map Char.toLower = Nat.toDigits 10 n := by
    refine (List.map_congr_left fun c isOne => ?_).trans (List.map_id _)
    have isDigit := Nat.isDigit_of_mem_toDigits (by decide) (by decide) isOne
    have upTo : c.toNat ≤ 57 := (Char.isDigit_iff_toNat.mp isDigit).2
    exact Text.toLower_eq_self (.inl (upTo.trans_lt (by decide)))
  rw [List.map_map, List.map_map]
  refine (List.nodup_finRange _).map fun i j same => ?_
  change Text.lowerAscii (String.ofList (Nat.toDigits 10 i)) =
    Text.lowerAscii (String.ofList (Nat.toDigits 10 j)) at same
  rw [Text.lowerAscii, Text.lowerAscii, String.toList_ofList, String.toList_ofList, kept, kept,
    String.ofList_inj] at same
  have numbers := congrArg (fun digits => Nat.ofDigitChars 10 digits 0) same
  simp only [Nat.ofDigitChars_ten_toDigits] at numbers
  exact Fin.ext numbers

theorem readAll_numbered {room : Nat} (small : room < longestName) :
    @readAll? (.listed room)
      (String.ofList (laidOut (.field (numbered small 0)) (numberedFields small))) = none := by
  have full : @Table.keep? (.listed room)
      (((List.finRange (room + 1)).map (numbered small)).map Written.taken) = none :=
    foldlM_listed_full ⟨[], []⟩ (Nat.zero_le _) (by simp) (numbered_distinct small) (by simp)
  rw [@readAll_laidOut (.listed room), writtenIn_numbered, full]
  rfl

theorem many_below_longest : 24576 < longestName := by
  decide

/-- Where a table has room for 24576 names, a text with one more field gives nothing. -/
theorem full_table_gives_nothing :
    (writtenIn (.field (numbered many_below_longest 0))
        (numberedFields many_below_longest)).length = 24577 ∧
      @readAll? (.listed 24576) (String.ofList (laidOut (.field (numbered many_below_longest 0))
        (numberedFields many_below_longest))) = none := by
  refine ⟨?_, readAll_numbered many_below_longest⟩
  rw [writtenIn_numbered, List.length_map, List.length_finRange]

example : @readAll? (.listed 3) "X-Token=abc, Accept = a=b\nbroken\nx-token=" =
    some [⟨"x-token", "abc"⟩, ⟨"accept", "a=b"⟩, ⟨"x-token", ""⟩] := by
  decide +kernel

end Header

end Http

end FleetMonitor
