import FleetMonitor.Proofs.Likeness
import FleetMonitor.Proofs.Words

/-!
# Lower case in place

The lower case of a capital sigma hangs on its neighbours; every other
character goes by itself, and a blank hides what is beyond it.  So a part of a
text without a capital sigma, or between blanks, has the lower case that it
has alone.  The full rules and those of ASCII differ only at characters that
are not plain, so they show a term alike if these have no letter of it.  What is in
lower case stays as it is.
-/

set_option autoImplicit false

namespace FleetMonitor.Text

/-! ## Parts of texts -/

def isCapitalSigma (c : Char) : Bool :=
  c.toNat = 0x3A3

/-- The lower case of a part of a text, between what stands before it, last
character first, and what stands after it. -/
def lowerWithin (before after : List Char) : List Char → List Char
  | [] => []
  | c :: rest =>
      let here :=
        if c.toNat = 0x3A3 then
          if casedAhead before && !casedAhead (rest ++ after) then [Char.ofNat 0x3C2]
          else [Char.ofNat 0x3C3]
        else lowerChar c
      here ++ lowerWithin (c :: before) after rest

theorem lowerWithin_nil (before cs : List Char) : lowerWithin before [] cs = lowerFrom before cs := by
  induction cs generalizing before with
  | nil => rfl
  | cons c rest ih => rw [lowerWithin, lowerFrom, ih, List.append_nil]

theorem lowerWithin_append (before after front back : List Char) :
    lowerWithin before after (front ++ back) =
      lowerWithin before (back ++ after) front ++
        lowerWithin (front.reverse ++ before) after back := by
  induction front generalizing before with
  | nil => rfl
  | cons c front ih => simp [lowerWithin, ih]

theorem lowerWithin_of_no_sigma (before after : List Char) {cs : List Char}
    (noSigma : ∀ c ∈ cs, isCapitalSigma c = false) :
    lowerWithin before after cs = cs.flatMap lowerChar := by
  induction cs generalizing before with
  | nil => rfl
  | cons c rest ih =>
    obtain ⟨notSigma, others⟩ := List.forall_mem_cons.mp noSigma
    rw [lowerWithin, if_neg (by simpa [isCapitalSigma] using notSigma), ih _ others,
      List.flatMap_cons]

theorem ofPieces_ranges (pieces : List String) :
    (CodeSet.ofPieces pieces).ranges =
      CodeSet.readRanges 0 (Packed.numbersFrom 0 (pieces.flatMap String.toList)) := by
  rw [CodeSet.ofPieces, CodeSet.ofPacked, Packed.numbers, String.toList_join]

def blankCodes : List Nat :=
  [9, 10, 11, 12, 13, 0x20, 0x85, 0xA0, 0x1680, 0x2000, 0x2001, 0x2002, 0x2003, 0x2004, 0x2005,
   0x2006, 0x2007, 0x2008, 0x2009, 0x200A, 0x2028, 0x2029, 0x202F, 0x205F, 0x3000]

theorem mem_blankCodes {c : Char} (blank : isBlank c = true) : c.toNat ∈ blankCodes := by
  simp only [isBlank, Bool.or_eq_true, Bool.and_eq_true, decide_eq_true_eq] at blank
  simp only [blankCodes, List.mem_cons, List.not_mem_nil, or_false]
  omega

theorem blankCodes_not_cased :
    ∀ n ∈ blankCodes, CodeSet.anyHolds n (CodeSet.readRanges 0
      (Packed.numbersFrom 0 (Property.casedPieces.flatMap String.toList))) = false := by
  decide +kernel

theorem blankCodes_not_ignorable :
    ∀ n ∈ blankCodes, CodeSet.anyHolds n (CodeSet.readRanges 0
      (Packed.numbersFrom 0 (Property.caseIgnorablePieces.flatMap String.toList))) = false := by
  decide +kernel

/-- A blank ends the search for a letter: it has no case and is not looked
through. -/
theorem blank_has_no_case {c : Char} (blank : isBlank c = true) :
    isCased c = false ∧ isCaseIgnorable c = false := by
  constructor
  · rw [isCased, cased, CodeSet.contains, CodeSet.holds, ofPieces_ranges]
    exact blankCodes_not_cased c.toNat (mem_blankCodes blank)
  · rw [isCaseIgnorable, caseIgnorable, CodeSet.contains, CodeSet.holds, ofPieces_ranges]
    exact blankCodes_not_ignorable c.toNat (mem_blankCodes blank)

theorem casedAhead_of_ignorable {c : Char} (ignorable : isCaseIgnorable c = true)
    (rest : List Char) : casedAhead (c :: rest) = casedAhead rest := by
  unfold casedAhead
  rw [List.find?_cons_of_neg (by rw [ignorable]; decide)]

theorem casedAhead_of_not_ignorable {c : Char} (notIgnorable : isCaseIgnorable c = false)
    (rest : List Char) : casedAhead (c :: rest) = isCased c := by
  unfold casedAhead
  rw [List.find?_cons_of_pos (by rw [notIgnorable]; decide), Option.map_some, Option.getD_some]

theorem casedAhead_of_startsBlank {cs : List Char} (starts : StartsBlank cs) :
    casedAhead cs = false := by
  cases cs with
  | nil => rfl
  | cons c rest =>
    obtain ⟨notCased, notIgnorable⟩ := blank_has_no_case (starts c rfl)
    rw [casedAhead_of_not_ignorable notIgnorable, notCased]

theorem casedAhead_append {after : List Char} (starts : StartsBlank after) (cs : List Char) :
    casedAhead (cs ++ after) = casedAhead cs := by
  induction cs with
  | nil => exact casedAhead_of_startsBlank starts
  | cons c rest ih =>
    rw [List.cons_append]
    cases ignorable : isCaseIgnorable c with
    | true => rw [casedAhead_of_ignorable ignorable, casedAhead_of_ignorable ignorable, ih]
    | false =>
      rw [casedAhead_of_not_ignorable ignorable, casedAhead_of_not_ignorable ignorable]

theorem lowerWithin_of_startsBlank {before after : List Char} (startsBefore : StartsBlank before)
    (startsAfter : StartsBlank after) (read cs : List Char) :
    lowerWithin (read ++ before) after cs = lowerFrom read cs := by
  induction cs generalizing read with
  | nil => rfl
  | cons c rest ih =>
    have next := ih (c :: read)
    rw [List.cons_append] at next
    rw [lowerWithin, lowerFrom, casedAhead_append startsBefore, casedAhead_append startsAfter, next]

/-- A part of a text that has the same lower case in place as alone: it has no
capital sigma, or stands there as a word. -/
theorem lower_infix {term text : String} (stands : term.toList <:+: text.toList)
    (inPlace : (∀ c ∈ term.toList, isCapitalSigma c = false) ∨ term ∈ words text) :
    (lower term).toList <:+: (lower text).toList := by
  have alone : ∃ front back, text.toList = front ++ term.toList ++ back ∧
      lowerWithin front.reverse back term.toList = lowerFrom [] term.toList := by
    rcases inPlace with noSigma | isWord
    · obtain ⟨front, back, layout⟩ := stands
      refine ⟨front, back, layout.symm, ?_⟩
      rw [← lowerWithin_nil, lowerWithin_of_no_sigma _ _ noSigma,
        lowerWithin_of_no_sigma _ _ noSigma]
    · obtain ⟨word, inText, rfl⟩ := List.mem_map.mp isWord
      obtain ⟨front, back, layout, startsBefore, startsAfter⟩ := exists_around_word inText
      refine ⟨front, back, by simpa using layout, ?_⟩
      simpa using lowerWithin_of_startsBlank startsBefore startsAfter [] word
  obtain ⟨front, back, layout, alone⟩ := alone
  refine ⟨lowerWithin [] (term.toList ++ back) front,
    lowerWithin (term.toList.reverse ++ front.reverse) [] back, ?_⟩
  rw [lower, lower, String.toList_ofList, String.toList_ofList, ← alone]
  calc lowerWithin [] (term.toList ++ back) front ++ lowerWithin front.reverse back term.toList ++
        lowerWithin (term.toList.reverse ++ front.reverse) [] back
      = lowerWithin [] [] (front ++ (term.toList ++ back)) := by
        simp only [lowerWithin_append, List.append_nil, List.append_assoc]
    _ = lowerFrom [] text.toList := by rw [lowerWithin_nil, layout, List.append_assoc]

/-! ## Full rules and rules of ASCII -/

/-- A character that both lower cases, by the full rules and by those of
ASCII, treat alike: one of ASCII, or one that is its own lower case. -/
def IsPlain (c : Char) : Prop :=
  c.toNat < 128 ∨ lowerChar c = [c]

instance (c : Char) : Decidable (IsPlain c) :=
  inferInstanceAs (Decidable (_ ∨ _))

def lowersOf (c : Char) : List Char :=
  if isCapitalSigma c then [Char.ofNat 0x3C2, Char.ofNat 0x3C3] else lowerChar c

theorem IsPlain.lowerChar {c : Char} (plain : IsPlain c) :
    isCapitalSigma c = false ∧ lowerChar c = [c.toLower] := by
  by_cases ascii : c.toNat < 128
  · exact ⟨decide_eq_false (by omega), lowerChar_of_ascii ascii⟩
  · have own : Text.lowerChar c = [c] := plain.resolve_left ascii
    refine ⟨decide_eq_false fun isSigma => ?_, by rw [own, toLower_eq_self (by omega)]⟩
    rw [← Char.ofNat_toNat c, isSigma] at own
    exact absurd own (by decide +kernel)

theorem lower_of_plain {s : String} (plain : ∀ c ∈ s.toList, IsPlain c) :
    lower s = lowerAscii s := by
  rw [lower, lowerAscii, ← lowerWithin_nil,
    lowerWithin_of_no_sigma _ _ fun c inText => (plain c inText).lowerChar.1,
    List.map_eq_flatMap]
  exact congrArg String.ofList
    (List.flatMap_congr fun c inText => (plain c inText).lowerChar.2)

/-- Two texts that differ only where neither has a letter of a term. -/
inductive AlikeFor (term : List Char) : List Char → List Char → Prop where
  | nil : AlikeFor term [] []
  | same (c : Char) {xs ys : List Char} : AlikeFor term xs ys → AlikeFor term (c :: xs) (c :: ys)
  | apart {front other xs ys : List Char} (isFront : front ≠ []) (isOther : other ≠ [])
      (noneInFront : ∀ c ∈ front, c ∉ term) (noneInOther : ∀ c ∈ other, c ∉ term) :
      AlikeFor term xs ys → AlikeFor term (front ++ xs) (other ++ ys)

theorem not_prefix_apart {part front : List Char} (isPart : part ≠ []) (isFront : front ≠ [])
    (apart : ∀ c ∈ front, c ∉ part) (xs : List Char) : ¬ part <+: front ++ xs := by
  intro starts
  obtain ⟨a, part, rfl⟩ := List.exists_cons_of_ne_nil isPart
  obtain ⟨c, front, rfl⟩ := List.exists_cons_of_ne_nil isFront
  obtain ⟨rfl, -⟩ := List.cons_prefix_cons.mp starts
  exact apart a (by simp) (by simp)

theorem infix_apart_iff {part front : List Char} (isPart : part ≠ [])
    (apart : ∀ c ∈ front, c ∉ part) (xs : List Char) : part <:+: front ++ xs ↔ part <:+: xs := by
  induction front with
  | nil => rfl
  | cons c front ih =>
    have notHere : ¬ part <+: c :: (front ++ xs) :=
      not_prefix_apart isPart (List.cons_ne_nil c front) apart xs
    rw [List.cons_append, List.infix_cons_iff, ih fun d inFront => apart d (by simp [inFront])]
    simp [notHere]

theorem AlikeFor.prefix_iff {term xs ys : List Char} (alike : AlikeFor term xs ys)
    {part : List Char} (ofTerm : ∀ c ∈ part, c ∈ term) : part <+: xs ↔ part <+: ys := by
  induction alike generalizing part with
  | nil => rfl
  | same c _ ih =>
    cases part with
    | nil => simp
    | cons a part =>
      rw [List.cons_prefix_cons, List.cons_prefix_cons, ih fun d inPart => ofTerm d (by simp [inPart])]
  | apart isFront isOther noneInFront noneInOther _ _ =>
    by_cases isPart : part = []
    · simp [isPart]
    · have notFront := not_prefix_apart isPart isFront
        (fun c inFront inPart => noneInFront c inFront (ofTerm c inPart))
      have notOther := not_prefix_apart isPart isOther
        (fun c inOther inPart => noneInOther c inOther (ofTerm c inPart))
      exact iff_of_false (notFront _) (notOther _)

theorem AlikeFor.infix_iff {term xs ys : List Char} (alike : AlikeFor term xs ys) :
    term <:+: xs ↔ term <:+: ys := by
  by_cases isTerm : term = []
  · simp [isTerm]
  induction alike with
  | nil => rfl
  | @same c xs ys alike ih =>
    rw [List.infix_cons_iff, List.infix_cons_iff, ih,
      (AlikeFor.same c alike).prefix_iff fun _ inTerm => inTerm]
  | apart _ _ noneInFront noneInOther _ ih =>
    rw [infix_apart_iff isTerm noneInFront, infix_apart_iff isTerm noneInOther, ih]

theorem lowerChar_ne_nil (c : Char) : lowerChar c ≠ [] := by
  unfold lowerChar
  rw [lowerExpansions, List.lookup_cons]
  by_cases dotted : (c.toNat == 0x130) = true
  · simp [dotted]
  · simp [dotted, List.lookup_nil]

theorem exists_lowered_head (before : List Char) (c : Char) (rest : List Char) :
    ∃ here, lowerFrom before (c :: rest) = here ++ lowerFrom (c :: before) rest ∧ here ≠ [] ∧
      (∀ d ∈ here, d ∈ lowersOf c) ∧ (isCapitalSigma c = false → here = lowerChar c) := by
  refine ⟨_, rfl, ?_, ?_, ?_⟩
  · split_ifs <;> simp [lowerChar_ne_nil]
  · intro d inHere
    unfold lowersOf isCapitalSigma
    split_ifs at inHere ⊢ <;> simp_all
  · intro notSigma
    exact if_neg (of_decide_eq_false notSigma)

/-- The two lower cases of a text are alike for a term if no character that is
not plain is a letter of it, nor becomes one. -/
theorem alikeFor_lower {term : List Char} (cs before : List Char)
    (untouched : ∀ c ∈ cs, IsPlain c ∨ ∀ d ∈ c :: lowersOf c, d ∉ term) :
    AlikeFor term (lowerFrom before cs) (cs.map Char.toLower) := by
  induction cs generalizing before with
  | nil => exact .nil
  | cons c rest ih =>
    obtain ⟨first, others⟩ := List.forall_mem_cons.mp untouched
    obtain ⟨here, lowered, isHere, ofC, alone⟩ := exists_lowered_head before c rest
    have tail := ih (c :: before) others
    rw [lowered, List.map_cons]
    by_cases plain : IsPlain c
    · obtain ⟨notSigma, own⟩ := plain.lowerChar
      rw [alone notSigma, own]
      exact tail.same c.toLower
    · obtain ⟨notC, notLowers⟩ := List.forall_mem_cons.mp (first.resolve_left plain)
      have outside : ¬ c.toNat < 128 := fun ascii => plain (.inl ascii)
      rw [toLower_eq_self (by omega)]
      refine .apart isHere (List.cons_ne_nil c []) (fun d inHere => notLowers d (ofC d inHere)) ?_ tail
      simpa using notC

/-! ## Lower case twice -/

def IsSettled (c : Char) : Prop :=
  isCapitalSigma c = false ∧ lowerChar c = [c]

instance (c : Char) : Decidable (IsSettled c) :=
  inferInstanceAs (Decidable (_ ∧ _))

def changing : List Shift :=
  ⟨0x130, 0x130, 1, 0⟩ :: lowerShifts

namespace Shift

def image (shift : Shift) (n : Nat) : Nat :=
  ((n : Int) + shift.offset).toNat

def members (shift : Shift) : List Nat :=
  (List.range ((shift.last - shift.first) / shift.stride + 1)).map
    fun i => shift.first + i * shift.stride

/-- A shift moves no member into another progression.  Most progressions are so far from each
other that their ends tell. -/
def avoids (shift other : Shift) : Bool :=
  (shift.image shift.last).blt other.first || (other.last.blt (shift.image shift.first) ||
    shift.members.all fun n => !other.covers (shift.image n))

theorem mem_members {shift : Shift} {n : Nat} (covered : shift.covers n = true) :
    n ∈ shift.members := by
  rw [covers, Bool.and_eq_true, Bool.and_eq_true, decide_eq_true_eq, decide_eq_true_eq,
    beq_iff_eq] at covered
  obtain ⟨⟨above, below⟩, member⟩ := covered
  refine List.mem_map.mpr ⟨(n - shift.first) / shift.stride, List.mem_range.mpr ?_, ?_⟩
  · exact Nat.lt_succ_of_le (Nat.div_le_div_right (by omega))
  · rw [Nat.div_mul_cancel (Nat.dvd_of_mod_eq_zero member)]
    omega

theorem avoids_covers {shift other : Shift} (apart : shift.avoids other = true) {n : Nat}
    (covered : shift.covers n = true) : other.covers (shift.image n) = false := by
  rw [avoids, Bool.or_eq_true, Bool.or_eq_true, Nat.blt_eq, Nat.blt_eq] at apart
  have within := covered
  rw [covers, Bool.and_eq_true, Bool.and_eq_true, decide_eq_true_eq, decide_eq_true_eq] at within
  rcases apart with before | after | each
  · have notAbove : ¬ other.first ≤ shift.image n := by
      unfold image at before ⊢
      omega
    simp [covers, notAbove]
  · have notBelow : ¬ shift.image n ≤ other.last := by
      unfold image at after ⊢
      omega
    simp [covers, notBelow]
  · simpa using List.all_eq_true.mp each n (mem_members covered)

end Shift

theorem shifts_avoid :
    lowerShifts.all (fun shift => changing.all fun other => shift.avoids other) = true := by
  decide +kernel

theorem sigma_changes : lowerShifts.any (·.covers 0x3A3) = true := by
  decide +kernel

def lowerForms : List Nat :=
  [0x3C2, 0x3C3, 0x69, 0x307]

theorem lowerForms_still :
    lowerForms.all (fun n => changing.all fun shift => !shift.covers n) = true := by
  decide +kernel

theorem find_eq_none {n : Nat} (still : ∀ shift ∈ lowerShifts, shift.covers n = false) :
    Shift.find lowerShifts n = none := by
  rw [Shift.find, List.find?_eq_none.mpr fun shift listed => by simp [still shift listed]]
  rfl

theorem lookup_lowerExpansions {n : Nat} (differs : n ≠ 0x130) :
    lowerExpansions.lookup n = none := by
  rw [lowerExpansions, List.lookup_cons, beq_eq_false_iff_ne.mpr differs]
  rfl

theorem isSettled_of_still {c : Char}
    (still : ∀ shift ∈ changing, shift.covers c.toNat = false) : IsSettled c := by
  obtain ⟨notDotted, others⟩ := List.forall_mem_cons.mp still
  have notSigma : isCapitalSigma c = false := by
    refine decide_eq_false fun isSigma => ?_
    obtain ⟨shift, listed, covered⟩ := List.any_eq_true.mp sigma_changes
    rw [← isSigma, others shift listed] at covered
    cases covered
  have differs : c.toNat ≠ 0x130 := fun same => by rw [same] at notDotted; cases notDotted
  refine ⟨notSigma, ?_⟩
  rw [lowerChar, lookup_lowerExpansions differs, lowerSimple, find_eq_none others]
  by_cases ascii : c.toNat < 128
  · have uncovered := others ⟨0x41, 0x5A, 1, 32⟩ List.mem_cons_self
    have outside : c.toNat < 65 ∨ 90 < c.toNat := by
      simp only [Shift.covers, Nat.mod_one, beq_self_eq_true, Bool.and_true,
        Bool.and_eq_false_iff, decide_eq_false_iff_not] at uncovered
      omega
    rw [if_pos ascii, toLower_eq_self outside]
  · rw [if_neg ascii]
    rfl

theorem isSettled_ofNat {n : Nat} (still : ∀ shift ∈ changing, shift.covers n = false) :
    IsSettled (Char.ofNat n) := by
  by_cases valid : n.isValidChar
  · have code : (Char.ofNat n).toNat = n := by
      rw [Char.ofNat, dif_pos valid]
      rfl
    exact isSettled_of_still (code.symm ▸ still)
  · rw [Char.ofNat, dif_neg valid]
    decide +kernel

theorem isSettled_of_lowerForm {n : Nat} (isForm : n ∈ lowerForms) : IsSettled (Char.ofNat n) :=
  isSettled_ofNat fun shift listed => by
    simpa using List.all_eq_true.mp (List.all_eq_true.mp lowerForms_still n isForm) shift listed

theorem isSettled_of_mem_lowersOf {c d : Char} (lowered : d ∈ lowersOf c) : IsSettled d := by
  unfold lowersOf at lowered
  split_ifs at lowered with isSigma
  · rcases List.mem_pair.mp lowered with rfl | rfl <;>
      exact isSettled_of_lowerForm (by simp [lowerForms])
  by_cases dotted : c.toNat = 0x130
  · rw [lowerChar, dotted] at lowered
    rcases List.mem_pair.mp lowered with rfl | rfl <;>
      exact isSettled_of_lowerForm (by simp [lowerForms])
  rw [lowerChar, lookup_lowerExpansions dotted, List.mem_singleton, lowerSimple] at lowered
  by_cases ascii : c.toNat < 128
  · have table : ∀ n < 128, IsSettled (Char.ofNat n).toLower := by decide +kernel
    rw [lowered, if_pos ascii, ← Char.ofNat_toNat c]
    exact table c.toNat ascii
  rw [if_neg ascii] at lowered
  rw [lowered, Shift.find]
  cases found : lowerShifts.find? (·.covers c.toNat) with
  | some shift =>
    have covered := List.find?_some found
    have apart := List.all_eq_true.mp shifts_avoid shift (List.mem_of_find?_eq_some found)
    exact isSettled_ofNat fun other listed =>
      Shift.avoids_covers (List.all_eq_true.mp apart other listed) covered
  | none =>
    refine isSettled_of_still (List.forall_mem_cons.mpr ⟨?_, fun shift listed => ?_⟩)
    · simpa [Shift.covers, Nat.mod_one] using fun above =>
        Nat.lt_of_le_of_ne above (Ne.symm dotted)
    · simpa using List.find?_eq_none.mp found shift listed

theorem mem_lowerFrom {before cs : List Char} {d : Char} (lowered : d ∈ lowerFrom before cs) :
    ∃ c ∈ cs, d ∈ lowersOf c := by
  induction cs generalizing before with
  | nil => cases lowered
  | cons c rest ih =>
    obtain ⟨here, layout, -, ofHere, -⟩ := exists_lowered_head before c rest
    rw [layout, List.mem_append] at lowered
    rcases lowered with inHere | inRest
    · exact ⟨c, List.mem_cons_self, ofHere d inHere⟩
    · obtain ⟨e, inText, ofE⟩ := ih inRest
      exact ⟨e, List.mem_cons_of_mem c inText, ofE⟩

theorem lowerFrom_of_settled {cs : List Char} (settled : ∀ c ∈ cs, IsSettled c)
    (before : List Char) : lowerFrom before cs = cs := by
  induction cs generalizing before with
  | nil => rfl
  | cons c rest ih =>
    obtain ⟨⟨notSigma, own⟩, others⟩ := List.forall_mem_cons.mp settled
    rw [lowerFrom, if_neg (of_decide_eq_false notSigma), own, ih others]
    rfl

/-- The lower case of a text is its own lower case. -/
theorem lower_lower (s : String) : lower (lower s) = lower s := by
  have lowered : (lower s).toList = lowerFrom [] s.toList := String.toList_ofList
  rw [lower, lowered]
  refine congrArg String.ofList (lowerFrom_of_settled (fun d inText => ?_) [])
  obtain ⟨c, -, ofC⟩ := mem_lowerFrom inText
  exact isSettled_of_mem_lowersOf ofC

end FleetMonitor.Text
