import FleetMonitor.Text.Blank
import Mathlib.Data.List.Basic

/-!
# Words between blanks

A blank in a text parts its words into those before and those after it.  So
blanks at the ends of a text do not count, and every word stands in its text
with blanks or ends of the text on both sides.
-/

set_option autoImplicit false

namespace FleetMonitor.Text

/-- Only the 26 capitals of ASCII have another lower case there. -/
theorem toLower_eq_self {c : Char} (outside : c.toNat < 65 ∨ 90 < c.toNat) : c.toLower = c := by
  refine dif_neg ?_
  rintro ⟨fromA, toZ⟩
  have fromA : 65 ≤ c.toNat := fromA
  have toZ : c.toNat ≤ 90 := toZ
  omega

theorem toLower_of_isBlank {c : Char} (blank : isBlank c = true) : c.toLower = c := by
  simp only [isBlank, Bool.or_eq_true, Bool.and_eq_true, decide_eq_true_eq] at blank
  exact toLower_eq_self (by omega)

theorem wordsOf_append_blank (front back : List Char) {blank : Char}
    (parts : isBlank blank = true) :
    wordsOf (front ++ blank :: back) = wordsOf front ++ wordsOf back := by
  rw [wordsOf, List.splitOnP_append_cons _ _ parts, List.filter_append]
  rfl

theorem wordsOf_word {word : List Char} (isWord : word ≠ [])
    (notBlank : ∀ c ∈ word, isBlank c = false) : wordsOf word = [word] := by
  rw [wordsOf, List.splitOnP_eq_singleton notBlank]
  simp [isWord]

theorem wordsOf_blank {cs : List Char} (blank : ∀ c ∈ cs, isBlank c = true) :
    wordsOf cs = [] := by
  induction cs with
  | nil => rfl
  | cons c more ih =>
    obtain ⟨first, others⟩ := List.forall_mem_cons.mp blank
    exact (wordsOf_append_blank [] more first).trans (ih others)

theorem wordsOf_around {before core after : List Char}
    (blankBefore : ∀ c ∈ before, isBlank c = true) (blankAfter : ∀ c ∈ after, isBlank c = true) :
    wordsOf (before ++ core ++ after) = wordsOf core := by
  have ahead : ∀ cs, wordsOf (before ++ cs) = wordsOf cs := by
    intro cs
    induction before with
    | nil => rfl
    | cons c more ih =>
      obtain ⟨first, others⟩ := List.forall_mem_cons.mp blankBefore
      exact (wordsOf_append_blank [] (more ++ cs) first).trans (ih others)
  rw [List.append_assoc, ahead]
  cases after with
  | nil => rw [List.append_nil]
  | cons c more =>
    obtain ⟨first, others⟩ := List.forall_mem_cons.mp blankAfter
    rw [wordsOf_append_blank core more first, wordsOf_blank others, List.append_nil]

def StartsBlank (cs : List Char) : Prop :=
  ∀ c ∈ cs.head?, isBlank c = true

theorem StartsBlank.append {front back : List Char} (starts : StartsBlank front)
    (follows : StartsBlank back) : StartsBlank (front ++ back) := by
  cases front with
  | nil => exact follows
  | cons c front => exact starts

/-- A word stands in its text between blanks and the ends of the text. -/
theorem exists_around_word {word : List Char} : ∀ {cs : List Char}, word ∈ wordsOf cs →
    ∃ front back, cs = front ++ word ++ back ∧ StartsBlank front.reverse ∧ StartsBlank back
  | cs, isWord => by
    by_cases parted : ∃ blank ∈ cs, isBlank blank = true
    · obtain ⟨blank, inText, parts⟩ := parted
      obtain ⟨front, back, rfl⟩ := List.append_of_mem inText
      have startsAt : ∀ rest, StartsBlank (blank :: rest) := fun rest c isHead => by
        obtain rfl := Option.some.inj isHead
        exact parts
      rw [wordsOf_append_blank front back parts, List.mem_append] at isWord
      rcases isWord with inFront | inBack
      · obtain ⟨before, after, layout, startsBefore, startsAfter⟩ := exists_around_word inFront
        exact ⟨before, after ++ blank :: back, by simp [layout], startsBefore,
          startsAfter.append (startsAt back)⟩
      · obtain ⟨before, after, layout, startsBefore, startsAfter⟩ := exists_around_word inBack
        refine ⟨front ++ blank :: before, after, by simp [layout], ?_, startsAfter⟩
        rw [List.reverse_append, List.reverse_cons, List.append_assoc]
        exact startsBefore.append (startsAt front.reverse)
    · have whole : cs.splitOnP isBlank = [cs] :=
        List.splitOnP_eq_singleton fun c inText => by simpa using fun blank => parted ⟨c, inText, blank⟩
      rw [wordsOf, whole] at isWord
      obtain rfl := List.mem_singleton.mp (List.mem_filter.mp isWord).1
      exact ⟨[], [], by simp, by simp [StartsBlank], by simp [StartsBlank]⟩
termination_by cs => cs.length

end FleetMonitor.Text
