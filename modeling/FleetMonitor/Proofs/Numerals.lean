import FleetMonitor.Json.Reader

/-!
# Numbers within a text

A number is read up to the first character that cannot belong to it.  So a number that reads
back from its own text reads back in front of whatever else follows it in a document, and
whole numbers of 64 bits read back from their digits.
-/

set_option autoImplicit false

namespace FleetMonitor

/-- No number goes on into the text: it begins with no digit, point or exponent. -/
def Stops (rest : List Char) : Prop :=
  ∀ c ∈ rest.head?, c.isDigit = false ∧ c ≠ '.' ∧ c ≠ 'e' ∧ c ≠ 'E'

namespace Decimal

theorem spanDigits_append (cs rest : List Char)
    (stops : (spanDigits cs).2 = [] → ∀ c ∈ rest.head?, c.isDigit = false) :
    spanDigits (cs ++ rest) = ((spanDigits cs).1, (spanDigits cs).2 ++ rest) := by
  unfold spanDigits at stops ⊢
  induction cs with
  | nil =>
      cases rest with
      | nil => rfl
      | cons c rest =>
          have noDigit := stops rfl c rfl
          simp [noDigit]
  | cons c cs ih =>
      cases digit : c.isDigit with
      | false => simp [digit]
      | true =>
          simp only [List.dropWhile_cons, digit, if_true] at stops
          have rest := ih stops
          simp only [Prod.mk.injEq] at rest
          simp [digit, rest]

theorem spanDigits_of_stops {rest : List Char} (stops : Stops rest) :
    ∀ c ∈ rest.head?, c.isDigit = false :=
  fun c head => (stops c head).1

theorem spanDigits_digits (digits : List Char) (are : ∀ c ∈ digits, c.isDigit = true) :
    spanDigits digits = (digits, []) := by
  induction digits with
  | nil => rfl
  | cons d rest ih =>
      obtain ⟨digit, others⟩ := List.forall_mem_cons.mp are
      have spanned := ih others
      simp only [spanDigits, Prod.mk.injEq] at spanned ⊢
      simp [digit, spanned]

theorem spanSign_append (cs rest : List Char) (nonempty : cs ≠ []) :
    spanSign (cs ++ rest) = ((spanSign cs).1, (spanSign cs).2 ++ rest) := by
  cases cs with
  | nil => exact absurd rfl nonempty
  | cons c cs =>
      simp only [List.cons_append]
      unfold spanSign
      split <;> simp_all

/-- The digits of a number below `2 ^ 64` are all taken. -/
theorem takeDigits_all (digits : List Char) (significand : Nat)
    (fits : digits.foldl (fun n c => 10 * n + digitValue c) significand < 0x10000000000000000) :
    takeDigits significand digits =
      (digits.foldl (fun n c => 10 * n + digitValue c) significand, digits.length) := by
  induction digits generalizing significand with
  | nil => rfl
  | cons d rest ih =>
      -- What the digits come to is no less than what the first ones come to.
      have grows : ∀ (cs : List Char) (n : Nat),
          n ≤ cs.foldl (fun n c => 10 * n + digitValue c) n := by
        intro cs
        induction cs with
        | nil => exact fun n => Nat.le_refl n
        | cons c cs grow =>
            intro n
            have further := grow (10 * n + digitValue c)
            rw [List.foldl_cons]
            omega
      rw [List.foldl_cons] at fits
      have small := grows rest (10 * significand + digitValue d)
      rw [takeDigits, if_neg (by omega), ih _ fits, List.foldl_cons]
      rfl

theorem valueOf_digitsOf (n : Nat) :
    (digitsOf n).foldl (fun n c => 10 * n + digitValue c) 0 = n :=
  Nat.ofDigitChars_ten_toDigits

theorem digitsOf_isDigit (n : Nat) : ∀ c ∈ digitsOf n, c.isDigit = true :=
  fun _ member => Nat.isDigit_of_mem_toDigits (by decide) (by decide) member

theorem digitsOf_ne_nil (n : Nat) : digitsOf n ≠ [] :=
  Nat.toDigits_ne_nil

theorem digitsOf_head (n : Nat) (zero : (digitsOf n).head? = some '0') : n = 0 := by
  induction n using Nat.strongRecOn with
  | ind n ih =>
      unfold digitsOf at zero
      rw [Nat.toDigits_eq_if (by decide)] at zero
      split at zero
      · rename_i small
        have digit : n.digitChar = '0' := by simpa using zero
        exact Nat.digitChar_eq_zero.mp digit
      · rename_i large
        have shorter : (digitsOf (n / 10)).head? = some '0' := by
          have nonempty := digitsOf_ne_nil (n / 10)
          unfold digitsOf at nonempty ⊢
          cases digits : Nat.toDigits 10 (n / 10) with
          | nil => exact absurd digits nonempty
          | cons d rest => simpa [digits] using zero
        have isZero := ih (n / 10) (by omega) shorter
        omega

end Decimal

namespace Document

open Decimal

theorem readFraction_of_ne {c : Char} (noPoint : c ≠ '.') (cs : List Char) :
    readFraction (c :: cs) = some (none, c :: cs) := by
  unfold readFraction
  split
  · rename_i same
    exact absurd (List.cons.inj same).1 noPoint
  · rfl

theorem readFraction_append {cs after rest : List Char} {fraction : Option (List Char)}
    (read : readFraction cs = some (fraction, after)) (stops : Stops rest) :
    readFraction (cs ++ rest) = some (fraction, after ++ rest) := by
  cases cs with
  | nil =>
      obtain ⟨rfl, rfl⟩ := Prod.mk.inj (Option.some.inj read)
      cases rest with
      | nil => rfl
      | cons c rest => exact readFraction_of_ne (stops c rfl).2.1 rest
  | cons c cs =>
      by_cases point : c = '.'
      · subst point
        have spanned := spanDigits_append cs rest fun _ => spanDigits_of_stops stops
        simp only [readFraction, List.cons_append, spanned] at read ⊢
        split at read
        · cases read
        · rename_i nonempty
          obtain ⟨rfl, rfl⟩ := Prod.mk.inj (Option.some.inj read)
          rw [if_neg nonempty]
      · rw [readFraction_of_ne point] at read
        obtain ⟨rfl, rfl⟩ := Prod.mk.inj (Option.some.inj read)
        exact readFraction_of_ne point (cs ++ rest)

theorem readExponent_append {cs after rest : List Char} {exponent : Option Int}
    (read : readExponent cs = some (exponent, after)) (stops : Stops rest) :
    readExponent (cs ++ rest) = some (exponent, after ++ rest) := by
  cases cs with
  | nil =>
      obtain ⟨rfl, rfl⟩ := Prod.mk.inj (Option.some.inj read)
      cases rest with
      | nil => rfl
      | cons c rest =>
          obtain ⟨_, _, small, capital⟩ := stops c rfl
          simp [readExponent, small, capital]
  | cons c cs =>
      simp only [readExponent, List.cons_append] at read ⊢
      split at read
      · rename_i isExponent
        rw [if_pos isExponent]
        have nonempty : cs ≠ [] := by
          rintro rfl
          simp [spanSign, spanDigits] at read
        rw [spanSign_append cs rest nonempty]
        have spanned := spanDigits_append (spanSign cs).2 rest fun _ => spanDigits_of_stops stops
        simp only [spanned]
        split at read
        · cases read
        · rename_i digits
          obtain ⟨rfl, rfl⟩ := Prod.mk.inj (Option.some.inj read)
          rw [if_neg digits]
      · rename_i noExponent
        obtain ⟨rfl, rfl⟩ := Prod.mk.inj (Option.some.inj read)
        rw [if_neg noExponent]
        rfl

def signOf : List Char → Bool × List Char
  | '-' :: rest => (true, rest)
  | rest => (false, rest)

def readUnsigned (negative : Bool) (cs : List Char) : Read :=
  let (whole, afterWhole) := Decimal.spanDigits cs
  if whole.isEmpty || (whole.head? = some '0' && 1 < whole.length) then (torn, none)
  else
    match readFraction afterWhole with
    | none => (torn, none)
    | some (fraction, afterFraction) =>
        match readExponent afterFraction with
        | none => (torn, none)
        | some (exponent, rest) =>
            match Numeral.number? ⟨negative, whole, fraction, exponent⟩ with
            | some n => (number n, some rest)
            | none => (unreadable, some rest)

theorem readNumber_eq (cs : List Char) :
    readNumber cs = readUnsigned (signOf cs).1 (signOf cs).2 := rfl

theorem signOf_append (cs rest : List Char) (nonempty : cs ≠ []) :
    signOf (cs ++ rest) = ((signOf cs).1, (signOf cs).2 ++ rest) := by
  cases cs with
  | nil => exact absurd rfl nonempty
  | cons c cs =>
      simp only [List.cons_append]
      unfold signOf
      split <;> simp_all

/-- What is read as a number is read so in front of anything that stops it. -/
theorem readUnsigned_append {negative : Bool} {cs after rest : List Char} {node : Document}
    (read : readUnsigned negative cs = (node, some after)) (stops : Stops rest) :
    readUnsigned negative (cs ++ rest) = (node, some (after ++ rest)) := by
  have spanned := spanDigits_append cs rest fun _ => spanDigits_of_stops stops
  unfold readUnsigned at read ⊢
  rw [spanned]
  simp only at read ⊢
  split at read
  · cases read
  · rename_i digits
    rw [if_neg digits]
    split at read
    · cases read
    · rename_i fraction afterFraction ofFraction
      rw [readFraction_append ofFraction stops]
      simp only
      split at read
      · cases read
      · rename_i exponent afterExponent ofExponent
        rw [readExponent_append ofExponent stops]
        simp only
        split at read
        · obtain ⟨rfl, isAfter⟩ := Prod.mk.inj read
          obtain rfl := Option.some.inj isAfter
          rfl
        · obtain ⟨rfl, isAfter⟩ := Prod.mk.inj read
          obtain rfl := Option.some.inj isAfter
          rfl

theorem readNumber_append {cs after rest : List Char} {node : Document}
    (read : readNumber cs = (node, some after)) (stops : Stops rest) :
    readNumber (cs ++ rest) = (node, some (after ++ rest)) := by
  have nonempty : cs ≠ [] := by
    rintro rfl
    simp [readNumber, spanDigits] at read
  rw [readNumber_eq] at read ⊢
  rw [signOf_append cs rest nonempty]
  exact readUnsigned_append read stops

/-! ## Whole numbers -/

theorem readUnsigned_digits (negative : Bool) (n : Nat) (fits : n < 0x10000000000000000)
    (signed : negative = true → 0 < n ∧ n ≤ 0x8000000000000000) :
    readUnsigned negative (digitsOf n) =
      (number (.whole (if negative then -(n : Int) else n)), some []) := by
  have spanned := spanDigits_digits (digitsOf n) (digitsOf_isDigit n)
  have nonempty := digitsOf_ne_nil n
  have taken := takeDigits_all (digitsOf n) 0 (by rw [valueOf_digitsOf]; exact fits)
  rw [valueOf_digitsOf] at taken
  have noZero : ((digitsOf n).isEmpty ||
      ((digitsOf n).head? = some '0' && 1 < (digitsOf n).length)) = false := by
    by_cases zero : (digitsOf n).head? = some '0'
    · obtain rfl := digitsOf_head n zero
      decide
    · simp [zero, nonempty]
  unfold readUnsigned
  simp only [spanned, noZero, Bool.false_eq_true, if_false, readFraction, readExponent]
  have value : Numeral.number? ⟨negative, digitsOf n, none, none⟩ =
      some (.whole (if negative then -(n : Int) else n)) := by
    unfold Numeral.number?
    cases negative with
    | false => simp [taken]
    | true =>
        obtain ⟨positive, bounded⟩ := signed rfl
        simp [taken, positive, bounded]
  rw [value]

theorem readNumber_whole (n : Int) (low : -0x8000000000000000 ≤ n)
    (high : n < 0x10000000000000000) :
    readNumber (Number.whole n).text.toList = (number (.whole n), some []) := by
  rw [readNumber_eq]
  cases n with
  | ofNat n =>
      have text : (Number.whole (Int.ofNat n)).text.toList = digitsOf n := by
        change (String.toList (Nat.repr n)) = _
        rw [Nat.repr_eq_ofList_toDigits, String.toList_ofList]
        rfl
      have plain : signOf (digitsOf n) = (false, digitsOf n) := by
        have digits := digitsOf_isDigit n
        unfold signOf
        split
        · rename_i rest same
          have digit := digits '-' (by rw [same]; exact List.mem_cons_self)
          exact absurd digit (by decide)
        · rfl
      rw [text, plain]
      have fits : n < 0x10000000000000000 := by
        have bound : (n : Int) < 0x10000000000000000 := high
        omega
      exact readUnsigned_digits false n fits (fun minus => by cases minus)
  | negSucc n =>
      have text : (Number.whole (Int.negSucc n)).text.toList = '-' :: digitsOf (n + 1) := by
        change (String.toList ("-" ++ Nat.repr (n + 1))) = _
        simp only [String.toList_append, Nat.repr_eq_ofList_toDigits, String.toList_ofList]
        rfl
      rw [text]
      have bounded : n + 1 ≤ 0x8000000000000000 := by omega
      exact readUnsigned_digits true (n + 1) (by omega) fun _ => ⟨Nat.succ_pos n, bounded⟩

/-! ## Doubles that read back -/

theorem readFraction_suffix {cs after : List Char} {fraction : Option (List Char)}
    (read : readFraction cs = some (fraction, after)) : after <:+ cs := by
  unfold readFraction at read
  split at read
  · rename_i rest
    simp only at read
    split at read
    · cases read
    · obtain ⟨-, rfl⟩ := Prod.mk.inj (Option.some.inj read)
      exact (List.dropWhile_suffix _).trans (List.suffix_cons '.' rest)
  · obtain ⟨-, rfl⟩ := Prod.mk.inj (Option.some.inj read)
    exact List.suffix_rfl

theorem spanSign_suffix (cs : List Char) : (spanSign cs).2 <:+ cs := by
  unfold spanSign
  split
  · exact List.suffix_cons _ _
  · exact List.suffix_cons _ _
  · exact List.suffix_rfl

theorem readExponent_suffix {cs after : List Char} {exponent : Option Int}
    (read : readExponent cs = some (exponent, after)) : after <:+ cs := by
  unfold readExponent at read
  split at read
  · obtain ⟨-, rfl⟩ := Prod.mk.inj (Option.some.inj read)
    exact List.suffix_rfl
  · rename_i c rest
    simp only at read
    split at read
    · split at read
      · cases read
      · obtain ⟨-, rfl⟩ := Prod.mk.inj (Option.some.inj read)
        have digits := List.dropWhile_suffix Char.isDigit (l := (spanSign rest).2)
        exact (digits.trans (spanSign_suffix rest)).trans (List.suffix_cons c rest)
    · obtain ⟨-, rfl⟩ := Prod.mk.inj (Option.some.inj read)
      exact List.suffix_rfl

theorem signOf_suffix (cs : List Char) : (signOf cs).2 <:+ cs := by
  unfold signOf
  split
  · exact List.suffix_cons _ _
  · exact List.suffix_rfl

/-- What follows a number is the end of the text it stands in. -/
theorem readNumber_suffix {cs after : List Char} {node : Document}
    (read : readNumber cs = (node, some after)) : after <:+ cs := by
  rw [readNumber_eq] at read
  refine List.IsSuffix.trans ?_ (signOf_suffix cs)
  unfold readUnsigned at read
  simp only at read
  split at read
  · cases read
  · split at read
    · cases read
    · rename_i afterFraction ofFraction
      have whole := List.dropWhile_suffix Char.isDigit (l := (signOf cs).2)
      have fraction := (readFraction_suffix ofFraction).trans whole
      split at read
      · cases read
      · rename_i rest ofExponent
        have last := (readExponent_suffix ofExponent).trans fraction
        split at read
        · obtain ⟨-, same⟩ := Prod.mk.inj read
          exact Option.some.inj same ▸ last
        · obtain ⟨-, same⟩ := Prod.mk.inj read
          exact Option.some.inj same ▸ last

theorem nested_ne_number {node : Document} {n : Number} (depth : Nat)
    (rest : Option (List Char)) {after : Option (List Char)} (other : ∀ n, node ≠ number n) :
    nested depth node rest ≠ (number n, after) := by
  intro same
  unfold nested at same
  split at same
  · cases same
  · exact other n (Prod.mk.inj same).1

theorem readNumber_of_readValue {fuel depth : Nat} {cs : List Char} {n : Number}
    {after : Option (List Char)} (read : readValue fuel depth cs = (number n, after)) :
    readNumber (skipBlanks cs) = (number n, after) := by
  cases fuel with
  | zero => cases read
  | succ fuel =>
      unfold readValue at read
      split at read
      · cases read
      · cases read
      · cases read
      · split at read <;> cases read
      · exact absurd read (nested_ne_number _ _ fun _ => nofun)
      · exact absurd read (nested_ne_number _ _ fun _ => nofun)
      · exact read

theorem skipBlanks_of_noBlank {cs : List Char} (noBlank : ∀ c ∈ cs, isJsonBlank c = false) :
    skipBlanks cs = cs := by
  cases cs with
  | nil => rfl
  | cons c rest => simp [skipBlanks, noBlank c List.mem_cons_self]

end Document

namespace Decimal

open Document (isJsonBlank)

theorem isDigit_noBlank {c : Char} (digit : c.isDigit = true) : isJsonBlank c = false := by
  cases blank : isJsonBlank c with
  | false => rfl
  | true =>
      simp only [isJsonBlank, Bool.or_eq_true, decide_eq_true_eq] at blank
      rcases blank with ((rfl | rfl) | rfl) | rfl <;> exact absurd digit (by decide)

theorem digitsOf_noBlank (n : Nat) : ∀ c ∈ digitsOf n, isJsonBlank c = false :=
  fun c member => isDigit_noBlank (digitsOf_isDigit n c member)

theorem signed_noBlank (x : Float) {magnitude : List Char}
    (noBlank : ∀ c ∈ magnitude, isJsonBlank c = false) :
    ∀ c ∈ signed x magnitude, isJsonBlank c = false := by
  unfold signed
  split
  · exact List.forall_mem_cons.mpr ⟨by decide, noBlank⟩
  · exact noBlank

theorem positional_noBlank (n : Nat) (point : Int) :
    ∀ c ∈ positional (digitsOf n) point, isJsonBlank c = false := by
  have digits := digitsOf_noBlank n
  have zeros : ∀ k, ∀ c ∈ List.replicate k '0', isJsonBlank c = false := by
    intro k c member
    rw [List.eq_of_mem_replicate member]
    decide
  unfold positional
  split
  · simp only [List.forall_mem_append]
    exact ⟨⟨by simp [isJsonBlank], zeros _⟩, digits⟩
  · split
    · exact List.forall_mem_append.mpr ⟨digits, zeros _⟩
    · refine List.forall_mem_append.mpr ⟨fun c member => digits c (List.mem_of_mem_take member), ?_⟩
      exact List.forall_mem_cons.mpr
        ⟨by decide, fun c member => digits c (List.mem_of_mem_drop member)⟩

theorem scientific_noBlank (n : Nat) (point : Int) :
    ∀ c ∈ scientific (digitsOf n) point, isJsonBlank c = false := by
  have digits := digitsOf_noBlank n
  unfold scientific
  simp only [List.forall_mem_append, List.forall_mem_cons]
  refine ⟨?_, by decide, ?_, digitsOf_noBlank _⟩
  · split
    · rename_i noDigits
      exact fun c member => nomatch member
    · rename_i d one
      rwa [one] at digits
    · rename_i d rest more
      rw [more] at digits
      obtain ⟨first, others⟩ := List.forall_mem_cons.mp digits
      exact List.forall_mem_cons.mpr ⟨first, List.forall_mem_cons.mpr ⟨by decide, others⟩⟩
  · split <;> decide

theorem exact_noBlank (x : Float) : ∀ c ∈ (exact x).toList, isJsonBlank c = false := by
  unfold exact
  split
  · rw [String.toList_ofList]
    exact signed_noBlank x (by simp [isJsonBlank])
  · simp only
    split
    · rw [String.toList_ofList]
      refine signed_noBlank x ?_
      split
      · exact List.forall_mem_append.mpr ⟨positional_noBlank _ _, by simp [isJsonBlank]⟩
      · exact positional_noBlank _ _
    · rw [String.toList_ofList]
      exact signed_noBlank x (scientific_noBlank _ _)

end Decimal

def Json.ReadsBack (x : Float) : Prop :=
  Json.read? (Json.float x).text = some (Json.float x)

theorem Number.text_noBlank (n : Number) :
    ∀ c ∈ n.text.toList, Document.isJsonBlank c = false := by
  cases n with
  | whole n =>
      cases n with
      | ofNat n =>
          change ∀ c ∈ (Nat.repr n).toList, _
          rw [Nat.repr_eq_ofList_toDigits, String.toList_ofList]
          exact Decimal.digitsOf_noBlank n
      | negSucc n =>
          change ∀ c ∈ ("-" ++ Nat.repr (n + 1)).toList, _
          simp only [String.toList_append, Nat.repr_eq_ofList_toDigits, String.toList_ofList]
          exact List.forall_mem_append.mpr ⟨by simp [Document.isJsonBlank], Decimal.digitsOf_noBlank (n + 1)⟩
  | float x =>
      change ∀ c ∈ (if x.isNaN || x.isInf then "null" else Decimal.exact x).toList, _
      split
      · exact (by simp [Document.isJsonBlank] : ∀ c ∈ "null".toList, Document.isJsonBlank c = false)
      · exact Decimal.exact_noBlank x

namespace Document

theorem eq_number_of_value? {document : Document} {n : Number}
    (value : document.value? = some (.number n)) : document = number n := by
  cases document with
  | number m =>
      rw [value?, Option.some.injEq, Json.number.injEq] at value
      rw [value]
  | array items => simp [value?] at value
  | object members => simp [value?] at value
  | _ => simp [value?] at value

def readsBack (x : Float) : Bool :=
  match Document.read (Json.float x).text with
  | (.number (.float y), true) => y = x
  | _ => false

theorem readsBack_iff (x : Float) :
    Json.ReadsBack x ↔ Document.read (Json.float x).text = (number (.float x), true) := by
  unfold Json.ReadsBack Json.read?
  constructor
  · intro back
    split at back
    · rename_i document same
      rw [same, eq_number_of_value? back]
    · cases back
  · intro read
    rw [read]
    rfl

theorem readsBack_eq_true_iff (x : Float) : readsBack x = true ↔ Json.ReadsBack x := by
  rw [readsBack_iff]
  unfold readsBack
  constructor
  · intro computed
    split at computed
    · rename_i y same
      rw [same, of_decide_eq_true computed]
    · cases computed
  · intro read
    rw [read]
    exact decide_eq_true rfl

instance (x : Float) : Decidable (Json.ReadsBack x) :=
  decidable_of_iff _ (readsBack_eq_true_iff x)

/-- The reader of numbers takes the whole text of a double that reads back. -/
theorem readNumber_float {x : Float} (back : Json.ReadsBack x) :
    readNumber (Number.float x).text.toList = (number (.float x), some []) := by
  have noBlank := (Number.float x).text_noBlank
  have chars : (Json.float x).text.toList = (Number.float x).text.toList := String.toList_ofList
  have whole := (readsBack_iff x).mp back
  unfold Document.read at whole
  rw [chars] at whole
  generalize (Number.float x).text.toList = cs at whole noBlank ⊢
  cases value : readValue (2 * cs.length + 2) 0 cs with
  | mk document after =>
      simp only [value] at whole
      obtain ⟨rfl, clean⟩ := Prod.mk.inj whole
      have read := readNumber_of_readValue value
      rw [skipBlanks_of_noBlank noBlank] at read
      cases after with
      | none => cases clean
      | some rest =>
          -- The rest is part of the text, so it holds no blank that could be passed over.
          have part := (readNumber_suffix read).subset
          have empty := skipBlanks_of_noBlank fun c member => noBlank c (part member)
          simp only [Option.map_some, Option.getD_some, empty, List.isEmpty_iff] at clean
          rw [read, clean]

end Document

end FleetMonitor
