import FleetMonitor.Proofs.Conjunction
import Mathlib.Data.List.Infix

/-!
# Quoted values

The value of a statement may stand between quotation marks of either kind.
They are no brackets: a query is parted at every `and` between blanks before
its statements are looked at, and the marks only come off the ends of a value
then.  So a value between marks is taken as it stands, with the blanks at its
ends and whatever signs it holds, exactly if no `and` between blanks is part of
it.
-/

set_option autoImplicit false

namespace FleetMonitor

namespace Query

inductive Subject where
  | name
  | tag (key : String)
deriving DecidableEq, Repr

namespace Subject

def field : Subject → String
  | name => "hostname"
  | tag key => "tags." ++ key

def Written : Subject → Prop
  | name => True
  | tag key => ∀ c ∈ key.toList, isFieldChar c = true

def value? (host : Host) : Subject → Option String
  | name => some host.name
  | tag key => host.tag? key

def condition (negated : Bool) (value : String) : Subject → Condition
  | name => .name value negated
  | tag key => .tag key value negated

theorem condition_holds_iff (subject : Subject) (negated : Bool) (value : String) (host : Host) :
    (subject.condition negated value).holds host = true ↔
      (subject.value? host = some value ↔ negated = false) := by
  cases subject <;> cases negated <;> simp [condition, value?, Condition.holds]

def showing (value : String) : Subject → Host
  | name => ⟨value, default, [], []⟩
  | tag key => ⟨"", default, [], [(key, value)]⟩

theorem value_showing (subject : Subject) (value : String) :
    subject.value? (subject.showing value) = some value := by
  cases subject <;> simp [value?, showing, Host.tag?]

theorem Written.isFieldChar {subject : Subject} (written : subject.Written) :
    ∀ c ∈ subject.field.toList, isFieldChar c = true := by
  cases subject with
  | name => exact List.all_eq_true.mp (by decide +kernel)
  | tag key =>
    rw [field, String.toList_append, List.forall_mem_append]
    exact ⟨List.all_eq_true.mp (by decide +kernel), written⟩

theorem field_ne_nil (subject : Subject) : subject.field.toList ≠ [] := by
  cases subject <;> simp [field]

end Subject

def quotedBy (mark : Char) (value : String) : String :=
  String.singleton mark ++ value ++ String.singleton mark

def AndBetweenBlanks (cs : List Char) : Prop :=
  ∃ front before word after back, cs = front ++ before :: (word ++ after :: back) ∧
    Text.isBlank before = true ∧ IsAnd word ∧ Text.isBlank after = true

def startsWithAnd : List Char → Bool
  | before :: rest => Text.isBlank before && (afterAnd? rest).isSome
  | [] => false

theorem startsWithAnd_iff (cs : List Char) : startsWithAnd cs = true ↔
    ∃ before word after back, cs = before :: (word ++ after :: back) ∧
      Text.isBlank before = true ∧ IsAnd word ∧ Text.isBlank after = true := by
  constructor
  · intro starts
    cases cs with
    | nil => exact absurd starts (by simp [startsWithAnd])
    | cons before rest =>
      obtain ⟨isBlank, follows⟩ := Bool.and_eq_true_iff.mp starts
      obtain ⟨tail, follows⟩ := Option.isSome_iff_exists.mp follows
      obtain ⟨word, after, back, rfl, isAnd, isBlankAfter, -⟩ := afterAnd_eq_some follows
      exact ⟨before, word, after, back, rfl, isBlank, isAnd, isBlankAfter⟩
  · rintro ⟨before, word, after, back, rfl, isBlank, isAnd, isBlankAfter⟩
    obtain ⟨a, n, d, rfl, isA, isN, isD⟩ := isAnd.letters
    simp [startsWithAnd, afterAnd?, isBlank, isBlankAfter, isA, isN, isD]

theorem andBetweenBlanks_iff (cs : List Char) :
    AndBetweenBlanks cs ↔ ∃ rest ∈ cs.tails, startsWithAnd rest = true := by
  simp only [List.mem_tails, startsWithAnd_iff]
  constructor
  · rintro ⟨front, before, word, after, back, rfl, joint⟩
    exact ⟨_, List.suffix_append _ _, before, word, after, back, rfl, joint⟩
  · rintro ⟨-, ⟨front, rfl⟩, before, word, after, back, rfl, joint⟩
    exact ⟨front, before, word, after, back, rfl, joint⟩

instance (cs : List Char) : Decidable (AndBetweenBlanks cs) :=
  decidable_of_iff _ (andBetweenBlanks_iff cs).symm

/-! ## The first `and` between blanks -/

theorem exists_and_of_joined {cs : List Char} (joined : ¬ Unjoined cs) :
    ∃ front before word back, cs = front ++ before :: (word ++ back) ∧
      Text.isBlank before = true ∧ IsAnd word ∧ Text.StartsBlank back := by
  simp only [Unjoined, not_forall, not_not] at joined
  obtain ⟨front, blank, back, rfl, isBlank, word, isWord, isAnd⟩ := joined
  obtain ⟨more, back, rfl, endsBlank, startsBlank⟩ := Text.exists_around_word isWord
  rcases List.eq_nil_or_concat more with rfl | ⟨more, last, rfl⟩
  · exact ⟨front, blank, word, back, by simp, isBlank, isAnd, startsBlank⟩
  · exact ⟨front ++ blank :: more, last, word, back, by simp, endsBlank last (by simp), isAnd,
      startsBlank⟩

theorem isQuote_iff {mark : Char} : isQuote mark = true ↔ mark = '"' ∨ mark = '\'' := by
  simp [isQuote]

theorem noMarks_of_any {cs : List Char} (noMark : cs.any isQuote = false) :
    ∀ c ∈ cs, isQuote c = false := by
  simpa using noMark

theorem isBlank_of_isQuote {mark : Char} (isMark : isQuote mark = true) :
    Text.isBlank mark = false := by
  rcases isQuote_iff.mp isMark with rfl | rfl <;> decide

theorem ne_newline_of_isQuote {mark : Char} (isMark : isQuote mark = true) : '\n' ≠ mark := by
  rcases isQuote_iff.mp isMark with rfl | rfl <;> decide

theorem IsAnd.not_isQuote {word : List Char} (isAnd : IsAnd word) :
    ∀ c ∈ word, isQuote c = false := by
  intro c inWord
  have letter : c.toLower ∈ "and".toList := isAnd ▸ List.mem_map_of_mem inWord
  by_contra isMark
  rcases isQuote_iff.mp (by simpa using isMark) with rfl | rfl <;>
    exact absurd letter (by decide +kernel)

/-- A text with a mark at its end has `and` as a word of its own only between
blanks. -/
theorem unjoined_of_closed {cs : List Char} {mark : Char} (isMark : isQuote mark = true)
    (apart : ¬ AndBetweenBlanks cs) : Unjoined (cs ++ [mark]) := by
  by_contra joined
  obtain ⟨front, before, word, back, layout, isBlank, isAnd, starts⟩ := exists_and_of_joined joined
  -- The `and` does not reach the mark, so the blank that follows it is one of `cs`.
  have isLast : (front ++ before :: (word ++ back)).getLast? = some mark := by simp [← layout]
  rcases List.eq_nil_or_concat back with rfl | ⟨more, last, rfl⟩
  · have inWord : mark ∈ word := by
      apply List.mem_of_getLast?
      simpa [List.getLast?_cons, List.getLast?_eq_some_getLast isAnd.ne_nil] using isLast
    exact absurd isMark (by simp [isAnd.not_isQuote mark inWord])
  · have layout : cs ++ [mark] = (front ++ before :: (word ++ more)) ++ [last] := by
      simpa using layout
    obtain ⟨rfl, closes⟩ := List.append_inj' layout rfl
    obtain rfl := List.singleton_inj.mp closes
    cases more with
    | nil =>
      have isBlankLast := starts mark rfl
      exact absurd isBlankLast (by simp [isBlank_of_isQuote isMark])
    | cons after back =>
      exact apart ⟨front, before, word, after, back, rfl, isBlank, isAnd, starts after rfl⟩

theorem exists_last_gap (cs : List Char) :
    ∃ core gap, cs = core ++ gap ∧ (∀ c ∈ core.getLast?, Text.isBlank c = false) ∧
      ∀ c ∈ gap, Text.isBlank c = true := by
  induction cs using List.reverseRecOn with
  | nil => exact ⟨[], [], rfl, by simp, by simp⟩
  | append_singleton cs c ih =>
    cases blank : Text.isBlank c with
    | false => exact ⟨cs ++ [c], [], by simp, by simpa using blank, by simp⟩
    | true =>
      obtain ⟨core, gap, rfl, ends, blanks⟩ := ih
      exact ⟨core, gap ++ [c], by simp, ends, by simpa [blank, or_imp, forall_and] using blanks⟩

/-- The first `and` between blanks, with the whole gaps around it: no other is
in front of it. -/
theorem exists_first_and (front : List Char) {cs : List Char} {before after : Char}
    {word back : List Char} (layout : cs = front ++ before :: (word ++ after :: back))
    (isBlank : Text.isBlank before = true) (isAnd : IsAnd word)
    (isBlankAfter : Text.isBlank after = true) :
    ∃ head gap word trail tail, cs = head ++ (gap ++ (word ++ trail ++ tail)) ∧
      (∀ c ∈ head.getLast?, Text.isBlank c = false) ∧ Unjoined head ∧
      gap ≠ [] ∧ (∀ c ∈ gap, Text.isBlank c = true) ∧ IsAnd word ∧
      trail ≠ [] ∧ (∀ c ∈ trail, Text.isBlank c = true) ∧
      ∀ c ∈ tail.head?, Text.isBlank c = false := by
  obtain ⟨head, gap, rfl, ends, blankGap⟩ := exists_last_gap front
  by_cases unjoined : Unjoined head
  · obtain ⟨more, last, tail, layoutAfter, blankTrail, starts⟩ := exists_gap isBlankAfter back
    refine ⟨head, gap ++ [before], word, more ++ [last], tail, ?_, ends, unjoined, by simp, ?_,
      isAnd, by simp, blankTrail, starts⟩
    · simp [layout, layoutAfter]
    · simpa [isBlank, or_imp, forall_and] using blankGap
  · obtain ⟨earlier, first, other, rest, layoutHead, isBlankFirst, isAndOther, startsRest⟩ :=
      exists_and_of_joined unjoined
    have startsBlank : Text.StartsBlank (rest ++ (gap ++ [before])) :=
      startsRest.append (Text.StartsBlank.append
        (fun c isHead => blankGap c (List.mem_of_mem_head? isHead)) (by simpa [Text.StartsBlank]))
    obtain ⟨next, more, layoutNext⟩ := List.exists_cons_of_ne_nil
      (show rest ++ (gap ++ [before]) ≠ [] by simp)
    have isBlankNext : Text.isBlank next = true := startsBlank next (by simp [layoutNext])
    have shorter : earlier.length < (head ++ gap).length := by
      simp [layoutHead]
    -- The other `and` is followed by what is left of the head, by its gap, or by `before`.
    have layoutEarlier :=
      calc cs = earlier ++ first ::
            (other ++ (rest ++ (gap ++ [before]) ++ (word ++ after :: back))) := by
            simp [layout, layoutHead]
        _ = earlier ++ first :: (other ++ next :: (more ++ (word ++ after :: back))) := by
            simp [layoutNext]
    exact exists_first_and earlier layoutEarlier isBlankFirst isAndOther isBlankNext
termination_by front.length

/-- A text with `and` between blanks falls apart at the first of them,
whatever is being read before it and whatever mark is behind it. -/
theorem pieces_parted {cs : List Char} (parted : AndBetweenBlanks cs) {mark : Char}
    (isMark : isQuote mark = true) :
    ∃ head gap, head ++ gap <+: cs ∧ gap ≠ [] ∧ (∀ c ∈ head.getLast?, Text.isBlank c = false) ∧
      ∀ current, ∃ others,
        pieces current (cs ++ [mark]) = (current.reverse ++ head) :: others := by
  obtain ⟨front, before, word, after, back, layout, isBlank, isAnd, isBlankAfter⟩ := parted
  obtain ⟨head, gap, word, trail, tail, rfl, ends, unjoined, isGap, blankGap, isAnd, isTrail,
    blankTrail, starts⟩ := exists_first_and front layout isBlank isAnd isBlankAfter
  refine ⟨head, gap, ⟨word ++ trail ++ tail, by simp⟩, isGap, ends, fun current =>
    ⟨pieces [] (tail ++ [mark]), ?_⟩⟩
  have tailStarts : ∀ c ∈ (tail ++ [mark]).head?, Text.isBlank c = false := by
    cases tail with
    | nil => simpa using isBlank_of_isQuote isMark
    | cons c tail => exact starts
  have layout : head ++ (gap ++ (word ++ trail ++ tail)) ++ [mark] =
      head ++ (gap ++ (word ++ trail ++ (tail ++ [mark]))) := by simp
  rw [layout, pieces_up_to_joint ends unjoined isGap blankGap isAnd isTrail blankTrail tailStarts]

/-! ## Reading a comparison -/

def comparing (negated : Bool) : QueryOperator :=
  if negated then .notEqual else .equal

namespace Subject

def lead (subject : Subject) (negated : Bool) : List Char :=
  subject.field.toList ++ ' ' :: ((comparing negated).symbol.toList ++ [' '])

end Subject

theorem pieces_word {word : List Char} (notBlank : ∀ c ∈ word, Text.isBlank c = false)
    (current rest : List Char) :
    pieces current (word ++ rest) = pieces (word.reverse ++ current) rest := by
  induction word generalizing current with
  | nil => rfl
  | cons c word ih =>
    obtain ⟨first, others⟩ := List.forall_mem_cons.mp notBlank
    rw [List.cons_append, pieces_char first, ih others]
    simp

theorem isBlank_space : Text.isBlank ' ' = true := by decide

theorem pieces_blank {c : Char} (notBlank : Text.isBlank c = false) (differs : c.toLower ≠ 'a')
    (current rest : List Char) :
    pieces current (' ' :: c :: rest) = pieces (' ' :: current) (c :: rest) := by
  have next : afterAnd? (c :: rest) = none := by
    by_contra follows
    obtain ⟨tail, follows⟩ := Option.ne_none_iff_exists'.mp follows
    obtain ⟨word, blank, back, layout, isAnd, -⟩ := afterAnd_eq_some follows
    obtain ⟨a, n, d, rfl, isA, -⟩ := isAnd.letters
    exact differs ((List.cons.inj layout).1 ▸ isA)
  have isGap : ∀ d ∈ [' '], Text.isBlank d = true := by simp [isBlank_space]
  exact pieces_gap (by simp) isGap (by simpa using notBlank) current next

theorem not_isBlank_of_isFieldChar {c : Char} (ofField : isFieldChar c = true) :
    Text.isBlank c = false := by
  have between : 45 ≤ c.toNat ∧ c.toNat ≤ 122 := by
    delta isFieldChar Char.isAlphanum Char.isAlpha Char.isUpper Char.isLower Char.isDigit at ofField
    simp only [Bool.or_eq_true, Bool.and_eq_true, decide_eq_true_eq] at ofField
    rcases ofField with (((((⟨fromA, toZ⟩ | ⟨fromA, toZ⟩) | ⟨from0, to9⟩) | rfl) | rfl) | rfl) | rfl
    · exact ⟨Nat.le_trans (by decide) fromA, Nat.le_trans toZ (by decide)⟩
    · exact ⟨Nat.le_trans (by decide) fromA, Nat.le_trans toZ (by decide)⟩
    · exact ⟨Nat.le_trans (by decide) from0, Nat.le_trans to9 (by decide)⟩
    all_goals exact ⟨by decide, by decide⟩
  by_contra blank
  simp only [Bool.not_eq_false, Text.isBlank, Bool.or_eq_true, Bool.and_eq_true,
    decide_eq_true_eq] at blank
  omega

theorem Subject.Written.not_isBlank {subject : Subject} (written : subject.Written) :
    ∀ c ∈ subject.field.toList, Text.isBlank c = false := fun c inField =>
  not_isBlank_of_isFieldChar (written.isFieldChar c inField)

theorem pieces_lead (subject : Subject) (written : subject.Written) (negated : Bool) {mark : Char}
    (isMark : isQuote mark = true) (rest : List Char) :
    pieces [] (subject.lead negated ++ mark :: rest) =
      pieces (subject.lead negated ++ [mark]).reverse rest := by
  have notBlank := isBlank_of_isQuote isMark
  have markDiffers : mark.toLower ≠ 'a' := by
    rcases isQuote_iff.mp isMark with rfl | rfl <;> decide
  obtain ⟨c, sign, isSign, signNotBlank, signDiffers⟩ : ∃ c sign,
      (comparing negated).symbol.toList = c :: sign ∧
        (∀ d ∈ c :: sign, Text.isBlank d = false) ∧ c.toLower ≠ 'a' := by
    have equalsNotBlank : ∀ d ∈ ['='], Text.isBlank d = false :=
      List.forall_mem_singleton.mpr (by decide)
    cases negated
    · exact ⟨'=', [], rfl, equalsNotBlank, by decide⟩
    · exact ⟨'!', ['='], rfl, List.forall_mem_cons.mpr ⟨by decide, equalsNotBlank⟩, by decide⟩
  calc pieces [] (subject.lead negated ++ mark :: rest)
      = pieces [] (subject.field.toList ++ ' ' :: c :: (sign ++ ' ' :: mark :: rest)) := by
        simp [Subject.lead, isSign]
    _ = pieces (subject.field.toList.reverse ++ []) (' ' :: c :: (sign ++ ' ' :: mark :: rest)) :=
        pieces_word written.not_isBlank [] _
    _ = pieces (' ' :: (subject.field.toList.reverse ++ [])) ((c :: sign) ++ ' ' :: mark :: rest) :=
        pieces_blank (signNotBlank c (by simp)) signDiffers _ _
    _ = pieces ((c :: sign).reverse ++ ' ' :: (subject.field.toList.reverse ++ []))
          (' ' :: mark :: rest) := pieces_word signNotBlank _ _
    _ = pieces (' ' :: ((c :: sign).reverse ++ ' ' :: (subject.field.toList.reverse ++ [])))
          (mark :: rest) := pieces_blank notBlank markDiffers _ _
    _ = pieces (subject.lead negated ++ [mark]).reverse rest := by
        rw [pieces_char notBlank]
        simp [Subject.lead, isSign]

theorem operator_comparing (negated : Bool) {value : List Char} (solid : Solid value)
    (oneLine : '\n' ∉ value) :
    operator? ((comparing negated).symbol.toList ++ ' ' :: value) =
      some (comparing negated, value) := by
  have strips : Text.stripWhile Text.isBlank ([' '] ++ value ++ []) = value :=
    strip_solid solid (by simp [isBlank_space]) (by simp)
  have isValue : value? (' ' :: value) = some value := by
    rw [List.append_nil, List.singleton_append] at strips
    simp [value?, strips, solid.ne_nil, oneLine]
  cases negated <;>
    simp [operator?, comparing, QueryOperator.all, QueryOperator.symbol, List.findSome?, isValue]

theorem split_comparison (subject : Subject) (written : subject.Written) (negated : Bool)
    {value : List Char} (solid : Solid value) (oneLine : '\n' ∉ value) :
    split? (subject.lead negated ++ value) =
      some (subject.field.toList, comparing negated, value) := by
  have ofField := written.isFieldChar
  obtain ⟨c, more, isField⟩ := List.exists_cons_of_ne_nil subject.field_ne_nil
  have starts : (subject.lead negated ++ value).dropWhile Text.isBlank =
      subject.lead negated ++ value := by
    simp [Subject.lead, isField, written.not_isBlank c (by simp [isField])]
  -- The field ends at the first blank, for no blank may stand in one.
  have takes : (subject.lead negated ++ value).takeWhile isFieldChar = subject.field.toList := by
    rw [Subject.lead, List.append_assoc, List.takeWhile_append_of_pos ofField]
    simp [show isFieldChar ' ' = false by decide]
  have drops : ((subject.lead negated ++ value).dropWhile isFieldChar).dropWhile Text.isBlank =
      (comparing negated).symbol.toList ++ ' ' :: value := by
    rw [Subject.lead, List.append_assoc, List.dropWhile_append_of_pos ofField]
    have signStarts : ∀ c ∈ ((comparing negated).symbol.toList ++ ' ' :: value).head?,
        Text.isBlank c = false := by
      cases negated <;> simp [comparing, QueryOperator.symbol] <;> decide
    have isGap : ∀ d ∈ [' '], Text.isBlank d = true := by simp [isBlank_space]
    simpa [show isFieldChar ' ' = false by decide] using dropWhile_gap isGap signStarts
  rw [split?]
  simp only [starts, takes, drops, operator_comparing negated solid oneLine]
  simp [subject.field_ne_nil]

theorem readStatement_comparison (subject : Subject) (written : subject.Written) (negated : Bool)
    {value : List Char} (solid : Solid value) (oneLine : '\n' ∉ value) :
    readStatement (subject.lead negated ++ value) =
      .ok (subject.condition negated (unquoted value)) := by
  rw [readStatement, split_comparison subject written negated solid oneLine]
  cases subject with
  | name => cases negated <;> rfl
  | tag key =>
    have isField : (Subject.tag key).field.toList = "tags.".toList ++ key.toList :=
      String.toList_append
    have other : (Subject.tag key).field.toList.map Char.toLower ≠ "hostname".toList := by
      intro same
      rw [isField] at same
      exact absurd (congrArg List.head? same) (by simp)
    have isTag : tagKey? (Subject.tag key).field.toList = some key := by
      rw [isField]
      simp [tagKey?]
    cases negated <;> simp only [other, isTag, if_false] <;> rfl

theorem unquoted_eq {core before after : List Char} (noMarks : ∀ c ∈ core, isQuote c = false)
    (marksBefore : ∀ c ∈ before, isQuote c = true) (marksAfter : ∀ c ∈ after, isQuote c = true) :
    unquoted (before ++ core ++ after) = String.ofList core := by
  have stays : ∀ cs : List Char, (∀ c ∈ cs, isQuote c = false) → cs.dropWhile isQuote = cs := by
    intro cs unmarked
    cases cs with
    | nil => rfl
    | cons c cs => simp [unmarked c]
  rw [unquoted, Text.stripWhile, Text.dropEndWhile, List.append_assoc,
    List.dropWhile_append_of_pos marksBefore]
  cases core with
  | nil =>
    have drops : (after ++ []).dropWhile isQuote = [] := List.dropWhile_append_of_pos marksAfter
    rw [List.append_nil] at drops
    rw [List.nil_append, drops]
    rfl
  | cons c core =>
    rw [List.cons_append, List.dropWhile_cons_of_neg (by simp [noMarks c]), ← List.cons_append,
      List.reverse_append, List.dropWhile_append_of_pos (by simpa using marksAfter),
      stays (c :: core).reverse (by simpa [or_comm] using noMarks), List.reverse_reverse]

def comparison (subject : Subject) (negated : Bool) (mark : Char) (value : String) : String :=
  String.ofList (subject.lead negated ++ mark :: (value.toList ++ [mark]))

theorem comparison_equal (subject : Subject) (mark : Char) (value : String) :
    subject.field ++ " = " ++ quotedBy mark value = comparison subject false mark value := by
  apply String.toList_inj.mp
  simp [comparison, Subject.lead, comparing, QueryOperator.symbol, quotedBy]

theorem comparison_notEqual (subject : Subject) (mark : Char) (value : String) :
    subject.field ++ " != " ++ quotedBy mark value = comparison subject true mark value := by
  apply String.toList_inj.mp
  simp [comparison, Subject.lead, comparing, QueryOperator.symbol, quotedBy]

theorem begins_of_first_reads {first : List Char} {others : List (List Char)}
    {condition : Condition} {query : Query} (reads : readStatement first = .ok condition)
    (isQuery : ((first :: others).mapM readStatement).map Query.mk = .ok query) :
    ∃ conditions, query = ⟨condition :: conditions⟩ := by
  rw [List.mapM_cons, reads] at isQuery
  cases rest : others.mapM readStatement with
  | error cause =>
    rw [rest] at isQuery
    exact absurd isQuery (by simp [bind, Except.bind, Except.map])
  | ok conditions =>
    rw [rest] at isQuery
    exact ⟨conditions, (Except.ok.inj isQuery).symm⟩

section Comparison

variable (subject : Subject) (written : subject.Written) (negated : Bool) {mark : Char}
  (isMark : isQuote mark = true) {value : String}

include written isMark

theorem read_comparison : read (comparison subject negated mark value) =
    (((pieces (subject.lead negated ++ [mark]).reverse (value.toList ++ [mark])).filter
      fun statement => !statement.all Text.isBlank).mapM readStatement).map Query.mk := by
  have solidField : Solid subject.field.toList :=
    ⟨subject.field_ne_nil, fun c isHead => written.not_isBlank c (List.mem_of_mem_head? isHead),
      fun c isLast => written.not_isBlank c (List.mem_of_getLast? isLast)⟩
  have solid : Solid (subject.lead negated ++ mark :: (value.toList ++ [mark])) := by
    have closed := solidField.between (.singleton (isBlank_of_isQuote isMark))
      (' ' :: ((comparing negated).symbol.toList ++ [' ']) ++ mark :: value.toList)
    simpa [Subject.lead] using closed
  have isStripped : stripped (comparison subject negated mark value) =
      subject.lead negated ++ mark :: (value.toList ++ [mark]) := by
    have strips : Text.stripWhile Text.isBlank
        ([] ++ (subject.lead negated ++ mark :: (value.toList ++ [mark])) ++ []) = _ :=
      strip_solid solid (by simp) (by simp)
    simpa [stripped, comparison] using strips
  rw [read_eq, isStripped, statements]
  rw [show splitAnd _ [] _ = _ from pieces_lead subject written negated isMark _]

variable (noMarks : ∀ c ∈ value.toList, isQuote c = false) (oneLine : '\n' ∉ value.toList)

include noMarks oneLine

theorem read_unparted (apart : ¬ AndBetweenBlanks value.toList) :
    read (comparison subject negated mark value) = .ok ⟨[subject.condition negated value]⟩ := by
  have notBlank := isBlank_of_isQuote isMark
  have whole : pieces (subject.lead negated ++ [mark]).reverse (value.toList ++ [mark]) =
      [subject.lead negated ++ ([mark] ++ value.toList ++ [mark])] := by
    have through := pieces_through (value.toList ++ [mark]) []
      (subject.lead negated ++ [mark]).reverse (by simpa using notBlank)
      (unjoined_of_closed isMark apart) (by simp [Text.StartsBlank])
    simpa [pieces_nil] using through
  have solid : Solid ([mark] ++ value.toList ++ [mark]) :=
    (Solid.singleton notBlank).between (.singleton notBlank) value.toList
  have reads : readStatement (subject.lead negated ++ ([mark] ++ value.toList ++ [mark])) =
      .ok (subject.condition negated value) := by
    have onOneLine : '\n' ∉ [mark] ++ value.toList ++ [mark] := by
      simpa [ne_newline_of_isQuote isMark] using oneLine
    rw [readStatement_comparison subject written negated solid onOneLine,
      unquoted_eq noMarks (by simpa using isMark) (by simpa using isMark), String.ofList_toList]
  rw [read_comparison subject written negated isMark, whole, List.filter_cons_of_pos]
  · simp only [List.filter_nil, List.mapM_cons, List.mapM_nil, reads]
    rfl
  · simp [notBlank]

/-- With `and` between blanks, a text that is read at all is about the part of
the value in front of it. -/
theorem read_parted (parted : AndBetweenBlanks value.toList) :
    ∃ head, head ≠ value ∧ ∀ query, read (comparison subject negated mark value) = .ok query →
      ∀ host, query.matchesHost host = true →
        (subject.condition negated head).holds host = true := by
  obtain ⟨head, gap, ⟨more, layout⟩, isGap, ends, fallsApart⟩ := pieces_parted parted isMark
  have notBlank := isBlank_of_isQuote isMark
  have solid : Solid (mark :: head) :=
    ⟨by simp, by simpa using notBlank, by
      intro c isLast
      cases head with
      | nil => simp_all
      | cons d head => exact ends c (by simpa [List.getLast?_cons] using isLast)⟩
  have onOneLine : '\n' ∉ mark :: head := by
    rw [List.mem_cons, not_or]
    exact ⟨ne_newline_of_isQuote isMark, fun inHead => oneLine (by simp [← layout, inHead])⟩
  have noMarksInHead : ∀ c ∈ head, isQuote c = false := fun c inHead =>
    noMarks c (by simp [← layout, inHead])
  have reads : readStatement (subject.lead negated ++ mark :: head) =
      .ok (subject.condition negated (String.ofList head)) := by
    have bare : unquoted ([mark] ++ head ++ []) = String.ofList head :=
      unquoted_eq noMarksInHead (by simpa using isMark) (by simp)
    rw [readStatement_comparison subject written negated solid onOneLine, ← bare, List.append_nil,
      List.singleton_append]
  refine ⟨String.ofList head, ?_, fun query isQuery host isMatch => ?_⟩
  · rintro rfl
    simp [isGap] at layout
  · obtain ⟨others, falls⟩ := fallsApart (subject.lead negated ++ [mark]).reverse
    rw [List.reverse_reverse, List.append_assoc, List.singleton_append] at falls
    rw [read_comparison subject written negated isMark, falls,
      List.filter_cons_of_pos (by simp [notBlank])] at isQuery
    obtain ⟨conditions, rfl⟩ := begins_of_first_reads reads isQuery
    exact (Bool.and_eq_true_iff.mp isMatch).1

theorem comparison_is_verbatim_iff :
    (∃ query, read (comparison subject negated mark value) = .ok query ∧
        ∀ host, query.matchesHost host = true ↔
          (subject.value? host = some value ↔ negated = false)) ↔
      ¬ AndBetweenBlanks value.toList := by
  constructor
  · rintro ⟨query, reads, asks⟩ parted
    obtain ⟨head, differs, asksHead⟩ :=
      read_parted subject written negated isMark noMarks oneLine parted
    -- The host that tells the value from the part of it in front of the first `and`.
    let shown := if negated then head else value
    have isMatch : query.matchesHost (subject.showing shown) = true := by
      rw [asks, subject.value_showing]
      cases negated <;> simp [shown, differs]
    have ofHead := (subject.condition_holds_iff negated head _).mp (asksHead query reads _ isMatch)
    rw [subject.value_showing] at ofHead
    cases negated <;> simp_all [shown]
  · intro apart
    refine ⟨_, read_unparted subject written negated isMark noMarks oneLine apart, fun host => ?_⟩
    simp [matchesHost, subject.condition_holds_iff]

end Comparison

/-- A comparison with a text between marks asks for exactly that text if and
only if no `and` between blanks is part of the text. -/
theorem quoted_value_is_verbatim (subject : Subject) (written : subject.Written) {mark : Char}
    (isMark : isQuote mark = true) {value : String}
    (noMarks : ∀ c ∈ value.toList, isQuote c = false) (oneLine : '\n' ∉ value.toList) :
    ((∃ query, read (subject.field ++ " = " ++ quotedBy mark value) = .ok query ∧
        ∀ host, query.matchesHost host = true ↔ subject.value? host = some value) ↔
      ¬ AndBetweenBlanks value.toList) ∧
    ((∃ query, read (subject.field ++ " != " ++ quotedBy mark value) = .ok query ∧
        ∀ host, query.matchesHost host = true ↔ subject.value? host ≠ some value) ↔
      ¬ AndBetweenBlanks value.toList) := by
  have equal := comparison_is_verbatim_iff subject written false isMark noMarks oneLine
  have notEqual := comparison_is_verbatim_iff subject written true isMark noMarks oneLine
  simp only [iff_true, Bool.true_eq_false, iff_false] at equal notEqual
  rw [comparison_equal, comparison_notEqual]
  exact ⟨equal, notEqual⟩

/-- Blanks at the ends and signs of the language stay in a value, and so does
`and` where it is part of another word or stands at the end. -/
theorem noted_signs_are_verbatim :
    (Subject.tag "note.x").Written ∧ isQuote '\'' = true ∧
      (∀ c ∈ " a = b-and != band AND".toList, isQuote c = false) ∧
      '\n' ∉ " a = b-and != band AND".toList ∧
      ∃ query, read "tags.note.x = ' a = b-and != band AND'" = .ok query ∧
        ∀ host, query.matchesHost host = true ↔
          host.tag? "note.x" = some " a = b-and != band AND" := by
  have written : (Subject.tag "note.x").Written := List.all_eq_true.mp (by decide +kernel)
  have isMark : isQuote '\'' = true := by decide
  have noMarks : ∀ c ∈ " a = b-and != band AND".toList, isQuote c = false :=
    noMarks_of_any (by decide +kernel)
  have oneLine : '\n' ∉ " a = b-and != band AND".toList := by decide +kernel
  have apart : ¬ AndBetweenBlanks " a = b-and != band AND".toList := by decide +kernel
  obtain ⟨equal, -⟩ := quoted_value_is_verbatim (.tag "note.x") written isMark noMarks oneLine
  exact ⟨written, isMark, noMarks, oneLine, equal.mpr apart⟩

/-- Marks do not keep `and` from parting a value. -/
theorem and_parts_a_quoted_value :
    (Subject.tag "genre").Written ∧ isQuote '"' = true ∧
      (∀ c ∈ "rock and roll".toList, isQuote c = false) ∧ '\n' ∉ "rock and roll".toList ∧
      (Subject.tag "genre").field ++ " = " ++ quotedBy '"' "rock and roll" =
        "tags.genre = \"rock and roll\"" ∧
      read "tags.genre = \"rock and roll\"" = .error (.unrecognised "roll\"") := by
  have written : (Subject.tag "genre").Written := List.all_eq_true.mp (by decide +kernel)
  exact ⟨written, by decide, noMarks_of_any (by decide +kernel), by decide +kernel,
    by decide +kernel, rfl⟩

end Query

end FleetMonitor
