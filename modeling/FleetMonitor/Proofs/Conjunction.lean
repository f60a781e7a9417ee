import FleetMonitor.Proofs.Words
import FleetMonitor.Store

/-!
# Statements joined by `and`

A query is written as statements with the word `and` between them.  Reading it
finds these statements again, whatever blanks stand around the word and in
whatever letter case it is written, as long as no statement has the word
itself.  So a joined text reads exactly if each of its statements reads alone,
and matches the hosts that all of them match.
-/

set_option autoImplicit false

namespace FleetMonitor

namespace Query

def IsAnd (word : List Char) : Prop :=
  word.map Char.toLower = "and".toList

instance (word : List Char) : Decidable (IsAnd word) :=
  inferInstanceAs (Decidable (_ = _))

/-- What stands between two statements: the word `and` with a gap on either
side. -/
structure Joint where
  before : String
  word : String
  after : String
  before_gap : before ≠ "" ∧ Text.allBlank before = true
  word_isAnd : IsAnd word.toList
  after_gap : after ≠ "" ∧ Text.allBlank after = true

def joined (first : String) : List (Joint × String) → String
  | [] => first
  | (joint, next) :: rest =>
      first ++ joint.before ++ joint.word ++ joint.after ++ joined next rest

/-- A text that may stand as one statement: it is not blank, and `and` is none
of its words. -/
def IsStatement (s : String) : Prop :=
  Text.allBlank s = false ∧ ∀ word ∈ Text.words s, ¬ IsAnd word.toList

instance (s : String) : Decidable (IsStatement s) :=
  inferInstanceAs (Decidable (_ ∧ _))

/-! ## Texts without blanks at their ends -/

structure Solid (cs : List Char) : Prop where
  ne_nil : cs ≠ []
  starts : ∀ c ∈ cs.head?, Text.isBlank c = false
  ends : ∀ c ∈ cs.getLast?, Text.isBlank c = false

theorem Solid.not_all_blank {cs : List Char} (solid : Solid cs) :
    cs.all Text.isBlank = false := by
  obtain ⟨c, rest, rfl⟩ := List.exists_cons_of_ne_nil solid.ne_nil
  exact List.all_eq_false.mpr ⟨c, by simp, by simp [solid.starts c rfl]⟩

theorem Solid.singleton {c : Char} (notBlank : Text.isBlank c = false) : Solid [c] :=
  ⟨by simp, by simpa using notBlank, by simpa using notBlank⟩

theorem Solid.between {front back : List Char} (solidFront : Solid front)
    (solidBack : Solid back) (middle : List Char) : Solid (front ++ middle ++ back) where
  ne_nil := by simp [solidFront.ne_nil]
  starts c isHead := by
    rw [List.append_assoc, List.head?_append_of_ne_nil _ solidFront.ne_nil] at isHead
    exact solidFront.starts c isHead
  ends c isLast := by
    rw [List.getLast?_append_of_ne_nil _ solidBack.ne_nil] at isLast
    exact solidBack.ends c isLast

theorem dropWhile_gap {gap rest : List Char} (blank : ∀ c ∈ gap, Text.isBlank c = true)
    (gapEnds : ∀ c ∈ rest.head?, Text.isBlank c = false) :
    (gap ++ rest).dropWhile Text.isBlank = rest := by
  rw [List.dropWhile_append_of_pos blank]
  cases rest with
  | nil => rfl
  | cons c rest => simp [gapEnds c rfl]

theorem takeWhile_gap {gap rest : List Char} (blank : ∀ c ∈ gap, Text.isBlank c = true)
    (gapEnds : ∀ c ∈ rest.head?, Text.isBlank c = false) :
    (gap ++ rest).takeWhile Text.isBlank = gap := by
  rw [List.takeWhile_append_of_pos blank]
  cases rest with
  | nil => simp
  | cons c rest => simp [gapEnds c rfl]

theorem strip_solid {core before after : List Char} (solid : Solid core)
    (blankBefore : ∀ c ∈ before, Text.isBlank c = true)
    (blankAfter : ∀ c ∈ after, Text.isBlank c = true) :
    Text.stripWhile Text.isBlank (before ++ core ++ after) = core := by
  have coreEnds : ∀ c ∈ core.reverse.head?, Text.isBlank c = false := by
    simpa using solid.ends
  have coreStarts : ∀ c ∈ (core ++ after).head?, Text.isBlank c = false := by
    rw [List.head?_append_of_ne_nil _ solid.ne_nil]
    exact solid.starts
  rw [Text.stripWhile, Text.dropEndWhile, List.append_assoc,
    dropWhile_gap blankBefore coreStarts, List.reverse_append,
    dropWhile_gap (by simpa using blankAfter) coreEnds, List.reverse_reverse]

theorem exists_solid {cs : List Char} (stated : cs.all Text.isBlank = false) :
    ∃ before core after, cs = before ++ core ++ after ∧ Solid core ∧
      (∀ c ∈ before, Text.isBlank c = true) ∧ ∀ c ∈ after, Text.isBlank c = true := by
  induction cs with
  | nil => exact absurd stated (by simp)
  | cons c rest ih =>
    cases restStated : rest.all Text.isBlank with
    | true =>
      have notBlank : Text.isBlank c = false := by simpa [restStated] using stated
      exact ⟨[], [c], rest, rfl, .singleton notBlank, by simp,
        List.all_eq_true.mp restStated⟩
    | false =>
      obtain ⟨before, core, after, rfl, solid, blankBefore, blankAfter⟩ := ih restStated
      cases blank : Text.isBlank c with
      | true =>
        exact ⟨c :: before, core, after, rfl, solid, by simp_all, blankAfter⟩
      | false =>
        exact ⟨[], [c] ++ before ++ core, after, by simp,
          (Solid.singleton blank).between solid before, by simp, blankAfter⟩

/-! ## Splitting a text -/

theorem length_afterAnd {cs rest : List Char} (follows : afterAnd? cs = some rest) :
    rest.length ≤ cs.length := by
  unfold afterAnd? at follows
  split at follows
  · next a n d blank tail =>
    split at follows
    · obtain rfl := by simpa using follows
      have := (tail.dropWhile_sublist Text.isBlank).length_le
      simp only [List.length_cons]
      omega
    · exact absurd follows (by simp)
  · exact absurd follows (by simp)

theorem splitAnd_nil (fuel : Nat) (current : List Char) :
    splitAnd fuel current [] = [current.reverse] := by
  rw [splitAnd.eq_def]
  cases fuel with
  | zero => simp only [List.append_nil]
  | succ fuel => rfl

theorem splitAnd_char (fuel : Nat) (current : List Char) {c : Char} (rest : List Char)
    (notBlank : ¬ Text.isBlank c = true) :
    splitAnd (fuel + 1) current (c :: rest) = splitAnd fuel (c :: current) rest := by
  rw [splitAnd.eq_def]
  exact if_neg notBlank

theorem splitAnd_and (fuel : Nat) (current : List Char) {c : Char} {rest tail : List Char}
    (blank : Text.isBlank c = true)
    (next : afterAnd? ((c :: rest).dropWhile Text.isBlank) = some tail) :
    splitAnd (fuel + 1) current (c :: rest) = current.reverse :: splitAnd fuel [] tail := by
  rw [splitAnd.eq_def]
  simp only [blank, next, if_true]

theorem splitAnd_gap (fuel : Nat) (current : List Char) {c : Char} {rest : List Char}
    (blank : Text.isBlank c = true)
    (next : afterAnd? ((c :: rest).dropWhile Text.isBlank) = none) :
    splitAnd (fuel + 1) current (c :: rest) =
      splitAnd fuel (((c :: rest).takeWhile Text.isBlank).reverse ++ current)
        ((c :: rest).dropWhile Text.isBlank) := by
  rw [splitAnd.eq_def]
  simp only [blank, next, if_true]

theorem splitAnd_fuel : ∀ (fuel other : Nat) (current rest : List Char),
    rest.length ≤ fuel → rest.length ≤ other →
      splitAnd fuel current rest = splitAnd other current rest
  | fuel, other, current, [], _, _ => by rw [splitAnd_nil, splitAnd_nil]
  | fuel + 1, other + 1, current, c :: rest, enough, asMuch => by
    simp only [List.length_cons, Nat.add_le_add_iff_right] at enough asMuch
    by_cases blank : Text.isBlank c = true
    · have shorter : ((c :: rest).dropWhile Text.isBlank).length ≤ rest.length := by
        rw [List.dropWhile_cons_of_pos blank]
        exact (rest.dropWhile_sublist Text.isBlank).length_le
      cases next : afterAnd? ((c :: rest).dropWhile Text.isBlank) with
      | some tail =>
        have := length_afterAnd next
        rw [splitAnd_and fuel current blank next, splitAnd_and other current blank next,
          splitAnd_fuel fuel other [] tail (by omega) (by omega)]
      | none =>
        rw [splitAnd_gap fuel current blank next, splitAnd_gap other current blank next]
        exact splitAnd_fuel fuel other _ _ (by omega) (by omega)
    · rw [splitAnd_char fuel current rest blank, splitAnd_char other current rest blank]
      exact splitAnd_fuel fuel other _ _ enough asMuch

/-- The pieces of a text; `current` is the piece being read, last character
first. -/
def pieces (current rest : List Char) : List (List Char) :=
  splitAnd rest.length current rest

theorem pieces_nil (current : List Char) : pieces current [] = [current.reverse] :=
  splitAnd_nil 0 current

theorem pieces_char {c : Char} (notBlank : Text.isBlank c = false) (current rest : List Char) :
    pieces current (c :: rest) = pieces (c :: current) rest :=
  splitAnd_char rest.length current rest (by simp [notBlank])

section Gap

variable {gap rest : List Char} (isGap : gap ≠ []) (blank : ∀ c ∈ gap, Text.isBlank c = true)
  (gapEnds : ∀ c ∈ rest.head?, Text.isBlank c = false) (current : List Char)

include isGap blank gapEnds

theorem pieces_and {tail : List Char} (next : afterAnd? rest = some tail) :
    pieces current (gap ++ rest) = current.reverse :: pieces [] tail := by
  have drops := dropWhile_gap blank gapEnds
  obtain ⟨c, more, rfl⟩ := List.exists_cons_of_ne_nil isGap
  have short := length_afterAnd next
  calc pieces current (c :: more ++ rest)
      = current.reverse :: splitAnd (more ++ rest).length [] tail :=
        splitAnd_and _ current (blank c (by simp)) ((congrArg afterAnd? drops).trans next)
    _ = current.reverse :: pieces [] tail := by
        rw [pieces, splitAnd_fuel _ tail.length [] tail (by simp; omega) (Nat.le_refl _)]

theorem pieces_gap (next : afterAnd? rest = none) :
    pieces current (gap ++ rest) = pieces (gap.reverse ++ current) rest := by
  have takes := takeWhile_gap blank gapEnds
  have drops := dropWhile_gap blank gapEnds
  obtain ⟨c, more, rfl⟩ := List.exists_cons_of_ne_nil isGap
  calc pieces current (c :: more ++ rest)
      = splitAnd (more ++ rest).length
          (((c :: (more ++ rest)).takeWhile Text.isBlank).reverse ++ current)
          ((c :: (more ++ rest)).dropWhile Text.isBlank) :=
        splitAnd_gap _ current (blank c (by simp)) ((congrArg afterAnd? drops).trans next)
    _ = splitAnd (more ++ rest).length ((c :: more).reverse ++ current) rest := by
        rw [← List.cons_append, takes, drops]
    _ = pieces ((c :: more).reverse ++ current) rest :=
        splitAnd_fuel _ _ _ _ (by simp) (Nat.le_refl _)

end Gap

def Unjoined (cs : List Char) : Prop :=
  ∀ front blank back, cs = front ++ blank :: back → Text.isBlank blank = true →
    ∀ word ∈ Text.wordsOf back, ¬ IsAnd word

theorem Unjoined.of_words {cs : List Char} (separate : ∀ word ∈ Text.wordsOf cs, ¬ IsAnd word) :
    Unjoined cs := by
  rintro front blank back rfl isBlank word isWord
  apply separate
  rw [Text.wordsOf_append_blank front back isBlank]
  exact List.mem_append_right _ isWord

theorem Unjoined.of_append (front : List Char) {cs : List Char}
    (unjoined : Unjoined (front ++ cs)) : Unjoined cs := by
  rintro more blank back rfl isBlank
  exact unjoined (front ++ more) blank back (by simp) isBlank

theorem IsAnd.not_blank {word : List Char} (isAnd : IsAnd word) :
    ∀ c ∈ word, Text.isBlank c = false := by
  intro c inWord
  have letter : c.toLower ∈ "and".toList := isAnd ▸ List.mem_map_of_mem inWord
  by_contra blank
  rw [Text.toLower_of_isBlank (by simpa using blank)] at letter
  have notLetter : ("and".toList.all fun d => !Text.isBlank d) = true := by decide +kernel
  exact blank ((Bool.not_eq_true' _).mp (List.all_eq_true.mp notLetter c letter))

theorem afterAnd_eq_some {cs tail : List Char} (follows : afterAnd? cs = some tail) :
    ∃ word blank rest, cs = word ++ blank :: rest ∧ IsAnd word ∧ Text.isBlank blank = true ∧
      tail = rest.dropWhile Text.isBlank := by
  unfold afterAnd? at follows
  split at follows
  · next a n d blank rest =>
    split at follows
    · next letters =>
      obtain ⟨isA, isN, isD, isBlank⟩ := letters
      exact ⟨[a, n, d], blank, rest, rfl, by simp [IsAnd, isA, isN, isD], isBlank,
        by simpa using follows.symm⟩
    · exact absurd follows (by simp)
  · exact absurd follows (by simp)

theorem IsAnd.ne_nil {word : List Char} (isAnd : IsAnd word) : word ≠ [] := by
  rintro rfl
  exact absurd isAnd (by decide)

theorem afterAnd_eq_none {back rest : List Char}
    (separate : ∀ word ∈ Text.wordsOf back, ¬ IsAnd word)
    (apart : Text.StartsBlank rest) : afterAnd? (back ++ rest) = none := by
  by_contra follows
  obtain ⟨tail, follows⟩ := Option.ne_none_iff_exists'.mp follows
  obtain ⟨word, blank, after, layout, isAnd, isBlank, -⟩ := afterAnd_eq_some follows
  have isWord : Text.wordsOf word = [word] := Text.wordsOf_word isAnd.ne_nil isAnd.not_blank
  rcases List.append_eq_append_iff.mp layout with ⟨more, rfl, ahead⟩ | ⟨more, rfl, ahead⟩
  · cases more with
    | nil =>
      rw [List.append_nil] at isWord isAnd
      exact separate back (by simp [isWord]) isAnd
    | cons c more =>
      have : Text.isBlank c = true := apart c (by simp [ahead])
      have := isAnd.not_blank c (by simp)
      simp_all
  · cases more with
    | nil => exact separate word (by simp [isWord]) isAnd
    | cons c more =>
      obtain ⟨rfl, -⟩ := List.cons.inj ahead
      apply separate word _ isAnd
      rw [Text.wordsOf_append_blank word more isBlank, isWord]
      simp

theorem exists_gap {c : Char} (blank : Text.isBlank c = true) (more : List Char) :
    ∃ front last back, c :: more = front ++ [last] ++ back ∧
      (∀ d ∈ front ++ [last], Text.isBlank d = true) ∧
      ∀ d ∈ back.head?, Text.isBlank d = false := by
  induction more generalizing c with
  | nil => exact ⟨[], c, [], rfl, by simpa using blank, by simp⟩
  | cons d more ih =>
    cases blankNext : Text.isBlank d with
    | false => exact ⟨[], c, d :: more, rfl, by simpa using blank, by simpa using blankNext⟩
    | true =>
      obtain ⟨front, last, back, layout, blanks, starts⟩ := ih blankNext
      exact ⟨c :: front, last, back, by simp [layout], by simpa [blank] using blanks, starts⟩

/-- A text without `and` after its gaps goes into the piece as a whole. -/
theorem pieces_through : ∀ (cs rest current : List Char),
    (∀ c ∈ cs.getLast?, Text.isBlank c = false) → Unjoined cs →
      Text.StartsBlank rest →
        pieces current (cs ++ rest) = pieces (cs.reverse ++ current) rest
  | [], rest, current, _, _, _ => rfl
  | c :: more, rest, current, ends, unjoined, apart => by
    cases blank : Text.isBlank c with
    | false =>
      have endsAfter : ∀ d ∈ more.getLast?, Text.isBlank d = false := fun d isLast =>
        ends d (by simp_all [List.getLast?_cons])
      calc pieces current (c :: more ++ rest)
          = pieces (c :: current) (more ++ rest) := pieces_char blank current (more ++ rest)
        _ = pieces (more.reverse ++ c :: current) rest :=
            pieces_through more rest _ endsAfter (Unjoined.of_append [c] unjoined) apart
        _ = pieces ((c :: more).reverse ++ current) rest := by simp
    | true =>
      obtain ⟨front, last, back, layout, blanks, starts⟩ := exists_gap blank more
      have isLast : Text.isBlank last = true := blanks last (by simp)
      have backStarts : back ≠ [] := by
        rintro rfl
        exact absurd isLast (by simp [ends last (by simp [layout])])
      have shorter : back.length ≤ more.length := by
        have := congrArg List.length layout
        simp only [List.length_cons, List.length_append] at this
        omega
      have separate : ∀ word ∈ Text.wordsOf back, ¬ IsAnd word :=
        unjoined front last back (by simp [layout]) isLast
      have gapEnds : ∀ d ∈ (back ++ rest).head?, Text.isBlank d = false := by
        intro d isHead
        rw [List.head?_append_of_ne_nil _ backStarts] at isHead
        exact starts d isHead
      have endsAfter : ∀ d ∈ back.getLast?, Text.isBlank d = false := fun d isLast =>
        ends d (by rw [layout, List.getLast?_append_of_ne_nil _ backStarts]; exact isLast)
      calc pieces current (c :: more ++ rest)
          = pieces current (front ++ [last] ++ (back ++ rest)) := by
            rw [layout, List.append_assoc]
        _ = pieces ((front ++ [last]).reverse ++ current) (back ++ rest) :=
            pieces_gap (by simp) blanks gapEnds current (afterAnd_eq_none separate apart)
        _ = pieces (back.reverse ++ ((front ++ [last]).reverse ++ current)) rest :=
            pieces_through back rest _ endsAfter
              (Unjoined.of_append (front ++ [last]) (layout ▸ unjoined)) apart
        _ = pieces ((c :: more).reverse ++ current) rest := by simp [layout]
termination_by cs => cs.length

/-! ## Reading joined statements -/

theorem IsAnd.letters {word : List Char} (isAnd : IsAnd word) :
    ∃ a n d, word = [a, n, d] ∧ a.toLower = 'a' ∧ n.toLower = 'n' ∧ d.toLower = 'd' := by
  have letters : word.map Char.toLower = ['a', 'n', 'd'] := isAnd.trans (by decide +kernel)
  obtain ⟨a, _, rfl, isA, letters⟩ := List.map_eq_cons_iff.mp letters
  obtain ⟨n, _, rfl, isN, letters⟩ := List.map_eq_cons_iff.mp letters
  obtain ⟨d, _, rfl, isD, letters⟩ := List.map_eq_cons_iff.mp letters
  obtain rfl := List.map_eq_nil_iff.mp letters
  exact ⟨a, n, d, rfl, isA, isN, isD⟩

theorem afterAnd_word {word gap rest : List Char} (isAnd : IsAnd word) (isGap : gap ≠ [])
    (blank : ∀ c ∈ gap, Text.isBlank c = true)
    (gapEnds : ∀ c ∈ rest.head?, Text.isBlank c = false) :
    afterAnd? (word ++ gap ++ rest) = some rest := by
  obtain ⟨a, n, d, rfl, isA, isN, isD⟩ := isAnd.letters
  obtain ⟨b, more, rfl⟩ := List.exists_cons_of_ne_nil isGap
  have drops : (more ++ rest).dropWhile Text.isBlank = rest :=
    dropWhile_gap (fun c inMore => blank c (List.mem_cons_of_mem b inMore)) gapEnds
  simp [afterAnd?, isA, isN, isD, blank b (by simp), drops]

theorem pieces_up_to_joint {core gap word after rest : List Char}
    (ends : ∀ c ∈ core.getLast?, Text.isBlank c = false) (unjoined : Unjoined core)
    (isGap : gap ≠ []) (blank : ∀ c ∈ gap, Text.isBlank c = true) (isAnd : IsAnd word)
    (isGapAfter : after ≠ []) (blankAfter : ∀ c ∈ after, Text.isBlank c = true)
    (starts : ∀ c ∈ rest.head?, Text.isBlank c = false) (current : List Char) :
    pieces current (core ++ (gap ++ (word ++ after ++ rest))) =
      (current.reverse ++ core) :: pieces [] rest := by
  have apart : Text.StartsBlank (gap ++ (word ++ after ++ rest)) := by
    intro c isHead
    rw [List.head?_append_of_ne_nil _ isGap] at isHead
    exact blank c (List.mem_of_mem_head? isHead)
  have wordStarts : ∀ c ∈ (word ++ after ++ rest).head?, Text.isBlank c = false := by
    intro c isHead
    rw [List.append_assoc, List.head?_append_of_ne_nil _ isAnd.ne_nil] at isHead
    exact isAnd.not_blank c (List.mem_of_mem_head? isHead)
  rw [pieces_through core _ current ends unjoined apart,
    pieces_and isGap blank wordStarts _ (afterAnd_word isAnd isGapAfter blankAfter starts)]
  simp

theorem pieces_joint {core gap word after rest : List Char} (solid : Solid core)
    (unjoined : Unjoined core) (isGap : gap ≠ []) (blank : ∀ c ∈ gap, Text.isBlank c = true)
    (isAnd : IsAnd word) (isGapAfter : after ≠ [])
    (blankAfter : ∀ c ∈ after, Text.isBlank c = true)
    (starts : ∀ c ∈ rest.head?, Text.isBlank c = false) :
    pieces [] (core ++ (gap ++ (word ++ after ++ rest))) = core :: pieces [] rest :=
  pieces_up_to_joint solid.ends unjoined isGap blank isAnd isGapAfter blankAfter starts []

def stripped (s : String) : List Char :=
  Text.stripWhile Text.isBlank s.toList

def texts (first : String) (rest : List (Joint × String)) : List String :=
  first :: rest.map (·.2)

theorem IsStatement.layout {s : String} (isStatement : IsStatement s) :
    ∃ before after, s.toList = before ++ stripped s ++ after ∧ Solid (stripped s) ∧
      Unjoined (stripped s) ∧
      (∀ c ∈ before, Text.isBlank c = true) ∧ ∀ c ∈ after, Text.isBlank c = true := by
  obtain ⟨stated, separate⟩ := isStatement
  obtain ⟨before, core, after, layout, solid, blankBefore, blankAfter⟩ := exists_solid stated
  have isCore : stripped s = core := by
    rw [stripped, layout, strip_solid solid blankBefore blankAfter]
  refine ⟨before, after, by rw [isCore, layout], isCore ▸ solid, ?_, blankBefore, blankAfter⟩
  apply Unjoined.of_words
  intro word isWord
  rw [isCore, ← Text.wordsOf_around blankBefore blankAfter, ← layout] at isWord
  simpa using separate (String.ofList word) (List.mem_map_of_mem isWord)

/-- A joined text is, between blanks, one that falls into its statements. -/
theorem joined_layout (first : String) (rest : List (Joint × String))
    (stated : ∀ s ∈ texts first rest, IsStatement s) :
    ∃ before core after, (joined first rest).toList = before ++ core ++ after ∧ Solid core ∧
      (∀ c ∈ before, Text.isBlank c = true) ∧ (∀ c ∈ after, Text.isBlank c = true) ∧
      pieces [] core = (texts first rest).map stripped := by
  induction rest generalizing first with
  | nil =>
    obtain ⟨before, after, layout, solid, unjoined, blankBefore, blankAfter⟩ :=
      (stated first (by simp [texts])).layout
    refine ⟨before, stripped first, after, layout, solid, blankBefore, blankAfter, ?_⟩
    have whole := pieces_through (stripped first) [] [] solid.ends unjoined (by simp [Text.StartsBlank])
    simpa [texts, pieces_nil] using whole
  | cons link rest ih =>
    obtain ⟨joint, next⟩ := link
    obtain ⟨before, after, layout, solid, unjoined, blankBefore, blankAfter⟩ :=
      (stated first (by simp [texts])).layout
    obtain ⟨lead, core, trail, layoutNext, solidNext, blankLead, blankTrail, fallsApart⟩ :=
      ih next fun s isText => stated s (by simp_all [texts])
    -- The blanks around the statements are part of the gaps of the joint.
    let gap := after ++ joint.before.toList
    let word := joint.word.toList
    let gapAfter := joint.after.toList ++ lead
    have isGap : gap ≠ [] := by simp [gap, joint.before_gap.1]
    have blankGap : ∀ c ∈ gap, Text.isBlank c = true :=
      List.forall_mem_append.mpr ⟨blankAfter, List.all_eq_true.mp joint.before_gap.2⟩
    have isGapAfter : gapAfter ≠ [] := by simp [gapAfter, joint.after_gap.1]
    have blankGapAfter : ∀ c ∈ gapAfter, Text.isBlank c = true :=
      List.forall_mem_append.mpr ⟨List.all_eq_true.mp joint.after_gap.2, blankLead⟩
    refine ⟨before, stripped first ++ (gap ++ (word ++ gapAfter ++ core)), trail, ?_, ?_,
      blankBefore, blankTrail, ?_⟩
    · simp [joined, layout, layoutNext, gap, word, gapAfter]
    · simpa using solid.between solidNext (gap ++ (word ++ gapAfter))
    · rw [pieces_joint solid unjoined isGap blankGap joint.word_isAnd isGapAfter blankGapAfter
        solidNext.starts, fallsApart]
      rfl

theorem statements_joined (first : String) (rest : List (Joint × String))
    (stated : ∀ s ∈ texts first rest, IsStatement s) :
    statements (stripped (joined first rest)) = (texts first rest).map stripped := by
  obtain ⟨before, core, after, layout, solid, blankBefore, blankAfter, fallsApart⟩ :=
    joined_layout first rest stated
  have isCore : stripped (joined first rest) = core := by
    rw [stripped, layout, strip_solid solid blankBefore blankAfter]
  rw [isCore]
  refine (List.filter_eq_self.mpr ?_).trans fallsApart
  intro piece isPiece
  rw [show splitAnd core.length [] core = _ from fallsApart] at isPiece
  obtain ⟨s, isText, rfl⟩ := List.mem_map.mp isPiece
  obtain ⟨-, -, -, solidPiece, -⟩ := (stated s isText).layout
  simp [solidPiece.not_all_blank]

theorem read_eq (s : String) :
    read s = ((statements (stripped s)).mapM readStatement).map Query.mk := by
  change (do let conditions ← (statements (stripped s)).mapM readStatement
             pure (Query.mk conditions)) = _
  cases (statements (stripped s)).mapM readStatement <;> rfl

theorem read_joined (first : String) (rest : List (Joint × String))
    (stated : ∀ s ∈ texts first rest, IsStatement s) :
    read (joined first rest) =
      ((texts first rest).mapM fun s => readStatement (stripped s)).map Query.mk := by
  rw [read_eq, statements_joined first rest stated, List.mapM_map]
  rfl

theorem read_alone {s : String} (isStatement : IsStatement s) :
    read s = (readStatement (stripped s)).map fun condition => ⟨[condition]⟩ := by
  have single := read_joined s [] (by simpa [texts] using isStatement)
  rw [show joined s [] = s from rfl, show texts s [] = [s] from rfl] at single
  rw [single, List.mapM_cons, List.mapM_nil]
  cases readStatement (stripped s) <;> rfl

/-- Reading alone what is read in turn either gives all values, or the cause
of the first text that does not read. -/
theorem mapM_cases {α β ε : Type} (f : α → Except ε β) (items : List α) :
    (∃ values, items.mapM f = .ok values ∧ List.Forall₂ (fun a b => f a = .ok b) items values ∧
        ∀ a ∈ items, ∃ value, f a = .ok value) ∨
      ∃ front a back cause, items = front ++ a :: back ∧ (∀ b ∈ front, ∃ value, f b = .ok value) ∧
        f a = .error cause ∧ items.mapM f = .error cause := by
  induction items with
  | nil => exact .inl ⟨[], rfl, .nil, by simp⟩
  | cons a items ih =>
    rw [List.mapM_cons]
    cases head : f a with
    | error cause => exact .inr ⟨[], a, items, cause, rfl, by simp, head, rfl⟩
    | ok value =>
      rcases ih with ⟨values, tail, each, all⟩ | ⟨front, b, back, cause, rfl, before, fails, tail⟩
      · exact .inl ⟨value :: values, by rw [tail]; rfl, .cons head each,
          List.forall_mem_cons.mpr ⟨⟨value, head⟩, all⟩⟩
      · refine .inr ⟨a :: front, b, back, cause, rfl, ?_, fails, by rw [tail]; rfl⟩
        exact List.forall_mem_cons.mpr ⟨⟨value, head⟩, before⟩

theorem queryHosts_of_read_error {text : String} {cause : QueryError}
    (refused : read text = .error cause) (store : Store) (now : Instant) (clusterId : Int)
    (freshness : Span) :
    store.queryHosts now clusterId text freshness = .error (.invalidQuery cause.message) := by
  cases store <;>
    simp only [Store.queryHosts, MemoryStore.queryHosts, FileStore.queryHosts, refused] <;> rfl

theorem matchesHost_iff {statements : List String} {conditions : List Condition}
    (stated : ∀ s ∈ statements, IsStatement s)
    (each : List.Forall₂ (fun s condition => readStatement (stripped s) = .ok condition)
      statements conditions) (host : Host) :
    (Query.mk conditions).matchesHost host = true ↔
      ∀ s ∈ statements, ∃ alone, read s = .ok alone ∧ alone.matchesHost host = true := by
  induction each with
  | nil => simp [matchesHost]
  | @cons s condition statements conditions head tail ih =>
    obtain ⟨first, others⟩ := List.forall_mem_cons.mp stated
    have alone : read s = .ok ⟨[condition]⟩ := by rw [read_alone first, head]; rfl
    rw [List.forall_mem_cons, ← ih others, alone]
    simp [matchesHost]

/-- Statements joined by `and` read exactly if each of them reads alone.  The
query they make matches the hosts that every one of them matches.  Else it is
refused with the cause of the first statement that does not read, and no store
answers it. -/
theorem joined_reads_as_its_statements (first : String) (rest : List (Joint × String))
    (stated : ∀ s ∈ texts first rest, IsStatement s) :
    ((∃ query, read (joined first rest) = .ok query) ↔
        ∀ s ∈ texts first rest, ∃ alone, read s = .ok alone) ∧
      (∀ query, read (joined first rest) = .ok query → ∀ host,
        query.matchesHost host = true ↔
          ∀ s ∈ texts first rest, ∃ alone, read s = .ok alone ∧ alone.matchesHost host = true) ∧
      ((¬ ∀ s ∈ texts first rest, ∃ alone, read s = .ok alone) →
        ∃ front s back cause, texts first rest = front ++ s :: back ∧
          (∀ t ∈ front, ∃ alone, read t = .ok alone) ∧ read s = .error cause ∧
          read (joined first rest) = .error cause ∧
          ∀ (store : Store) (now : Instant) (clusterId : Int) (freshness : Span),
            store.queryHosts now clusterId (joined first rest) freshness =
              .error (.invalidQuery cause.message)) := by
  have whole := read_joined first rest stated
  have reads_of {t : String} (isText : t ∈ texts first rest)
      (reads : ∃ condition, readStatement (stripped t) = .ok condition) :
      ∃ alone, read t = .ok alone := by
    obtain ⟨condition, reads⟩ := reads
    exact ⟨⟨[condition]⟩, by rw [read_alone (stated t isText), reads]; rfl⟩
  rcases mapM_cases (fun s => readStatement (stripped s)) (texts first rest) with
    ⟨conditions, reads, each, all⟩ | ⟨front, s, back, cause, layout, before, fails, refused⟩
  · rw [reads] at whole
    have allRead : ∀ s ∈ texts first rest, ∃ alone, read s = .ok alone := fun s isText =>
      reads_of isText (all s isText)
    refine ⟨⟨fun _ => allRead, fun _ => ⟨_, whole⟩⟩, ?_, fun refused => absurd allRead refused⟩
    intro query isQuery host
    obtain rfl := Except.ok.inj (whole.symm.trans isQuery)
    exact matchesHost_iff stated each host
  · rw [refused] at whole
    have whole : read (joined first rest) = .error cause := whole
    have isText : s ∈ texts first rest := by simp [layout]
    have alone : read s = .error cause := by rw [read_alone (stated s isText), fails]; rfl
    have noQuery : ∀ query, read (joined first rest) ≠ .ok query := by simp [whole]
    refine ⟨⟨fun ⟨query, reads⟩ => absurd reads (noQuery query), fun allRead => ?_⟩,
      fun query reads => absurd reads (noQuery query), fun _ =>
      ⟨front, s, back, cause, layout, fun t inFront => ?_, alone, whole, ?_⟩⟩
    · obtain ⟨query, reads⟩ := allRead s isText
      exact absurd (alone.symm.trans reads) (by simp)
    · exact reads_of (by simp [layout, inFront]) (before t inFront)
    · exact queryHosts_of_read_error whole

def spelled : Joint :=
  ⟨"\t ", "AND", "\n", by decide +kernel, by decide +kernel, by decide +kernel⟩

theorem web_frontend_reads :
    (∀ s ∈ texts "hostname ~^ \"web-\"" [(spelled, "tags.role = 'frontend' ")], IsStatement s) ∧
      ∃ query,
        read (joined "hostname ~^ \"web-\"" [(spelled, "tags.role = 'frontend' ")]) = .ok query ∧
        query.matchesHost ⟨"web-1", default, [], [("role", "frontend")]⟩ = true := by
  have stated : ∀ s ∈ texts "hostname ~^ \"web-\"" [(spelled, "tags.role = 'frontend' ")],
      IsStatement s := by decide +kernel
  have ofName : read "hostname ~^ \"web-\"" = .ok ⟨[.nameStarts "web-"]⟩ := rfl
  have ofTag : read "tags.role = 'frontend' " = .ok ⟨[.tag "role" "frontend" false]⟩ := rfl
  obtain ⟨readsAlone, matchesAlone, -⟩ := joined_reads_as_its_statements _ _ stated
  obtain ⟨query, reads⟩ := readsAlone.mpr (by
    simp only [texts, List.map_cons, List.map_nil, List.forall_mem_cons, List.not_mem_nil]
    exact ⟨⟨_, ofName⟩, ⟨_, ofTag⟩, by simp⟩)
  refine ⟨stated, query, reads, (matchesAlone query reads _).mpr ?_⟩
  simp only [texts, List.map_cons, List.map_nil, List.forall_mem_cons, List.not_mem_nil]
  exact ⟨⟨_, ofName, by decide +kernel⟩, ⟨_, ofTag, by decide +kernel⟩, by simp⟩

end Query

end FleetMonitor
