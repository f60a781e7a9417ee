import FleetMonitor.Verdict
import Mathlib.Data.List.Forall2
import Mathlib.Data.List.Induction

/-!
# What decides a verdict

The verdict of a check is folded from left to right, but it can be read off the positions of
its expressions: it fails exactly if some outcome makes it fail, being the first one or joined
by `or`, and every outcome after it that is joined by `and` fails as well.
-/

set_option autoImplicit false

namespace FleetMonitor.Verdict

def operatorAt (list : List Expression) (k : Nat) : Option Junction :=
  list[k]?.bind operator?

def InForce (list : List Expression) (k : Nat) (junction : Junction) : Prop :=
  ∃ i < k, operatorAt list i = some junction ∧
    ∀ m, i < m → m < k → operatorAt list m = none

/-- The expression at a position makes the verdict fail: it fails, it is the first one or an
outcome joined by `or`, and all outcomes after it that are joined by `and` fail. -/
structure Decides (list : List Expression) (k : Nat) : Prop where
  fails : ∃ e, list[k]? = some e ∧ e.result.failing = true ∧
    (k = 0 ∨ operator? e = none ∧ InForce list k .or)
  upheld : ∀ m e, k < m → list[m]? = some e → operator? e = none → InForce list m .and →
    e.result.failing = true

/-! ## The operator in force -/

section InForce

variable {list other : List Expression} {k : Nat} {e : Expression} {junction : Junction}

theorem operatorAt_of_stands (stands : list[k]? = some e) : operatorAt list k = operator? e := by
  rw [operatorAt, stands, Option.bind_some]

theorem not_inForce_zero : ¬ InForce list 0 junction := by
  rintro ⟨i, before, -⟩
  exact Nat.not_lt_zero i before

theorem InForce.congr (same : ∀ m < k, operatorAt other m = operatorAt list m)
    (inForce : InForce list k junction) : InForce other k junction := by
  obtain ⟨i, before, isOperator, nearest⟩ := inForce
  refine ⟨i, before, (same i before).trans isOperator, fun m afterwards until_ => ?_⟩
  exact (same m until_).trans (nearest m afterwards until_)

theorem inForce_append (more : List Expression) (within : k ≤ list.length) :
    InForce (list ++ more) k junction ↔ InForce list k junction := by
  have same : ∀ m < k, operatorAt (list ++ more) m = operatorAt list m := by
    intro m before
    rw [operatorAt, operatorAt, List.getElem?_append_left (Nat.lt_of_lt_of_le before within)]
  exact ⟨.congr fun m before => (same m before).symm, .congr same⟩

theorem inForce_succ (stands : list[k]? = some e) :
    InForce list (k + 1) junction ↔
      operator? e = some junction ∨ operator? e = none ∧ InForce list k junction := by
  rw [← operatorAt_of_stands stands]
  constructor
  · rintro ⟨i, before, isOperator, nearest⟩
    rcases Nat.lt_or_eq_of_le (Nat.le_of_lt_succ before) with earlier | rfl
    · refine .inr ⟨nearest k earlier (Nat.lt_succ_self k), i, earlier, isOperator, ?_⟩
      exact fun m afterwards until_ => nearest m afterwards (Nat.lt_succ_of_lt until_)
    · exact .inl isOperator
  · rintro (isOperator | ⟨isOutcome, i, before, isOperator, nearest⟩)
    · refine ⟨k, Nat.lt_succ_self k, isOperator, ?_⟩
      intro m afterwards until_
      omega
    · refine ⟨i, Nat.lt_succ_of_lt before, isOperator, fun m afterwards until_ => ?_⟩
      rcases Nat.lt_or_eq_of_le (Nat.le_of_lt_succ until_) with earlier | rfl
      · exact nearest m afterwards earlier
      · exact isOutcome

end InForce

/-! ## The fold -/

theorem getElem?_snoc_length (list : List Expression) (e : Expression) :
    (list ++ [e])[list.length]? = some e :=
  List.getElem?_concat_length

theorem operator_step (verdict : Verdict) (e : Expression) (junction : Junction) :
    (verdict.step e).operator = some junction ↔
      operator? e = some junction ∨ operator? e = none ∧ verdict.operator = some junction := by
  unfold step
  cases operator? e with
  | some other => simp
  | none => cases inForce : verdict.operator <;> simp [inForce]

theorem failing_step (verdict : Verdict) (e : Expression) :
    (verdict.step e).failing = true ↔
      (verdict.failing = true ∧
          (operator? e = none → verdict.operator = some .and → e.result.failing = true)) ∨
        (operator? e = none ∧ verdict.operator = some .or ∧ e.result.failing = true) := by
  unfold step
  cases operator? e with
  | some junction => simp
  | none =>
    cases inForce : verdict.operator with
    | none => simp
    | some junction => cases junction <;> simp [Junction.apply]

def after (first : Expression) (rest : List Expression) : Verdict :=
  rest.foldl step (start first)

theorem after_snoc (first : Expression) (rest : List Expression) (e : Expression) :
    after first (rest ++ [e]) = (after first rest).step e := by
  rw [after, List.foldl_append]
  rfl

theorem operator_after (first : Expression) (rest : List Expression) (junction : Junction) :
    (after first rest).operator = some junction ↔
      InForce (first :: rest) (first :: rest).length junction := by
  induction rest using List.reverseRecOn with
  | nil =>
    rw [show [first].length = 0 + 1 from rfl, inForce_succ (k := 0) (e := first) rfl]
    simp [not_inForce_zero, after, start]
  | append_singleton rest e ih =>
    have stands := getElem?_snoc_length (first :: rest) e
    rw [after_snoc, operator_step, ih, ← List.cons_append, List.length_append,
      List.length_singleton, inForce_succ stands, inForce_append [e] (Nat.le_refl _)]

/-- One more expression leaves a deciding position deciding, unless it is joined by `and` and
does not fail. -/
theorem decides_snoc_iff {list : List Expression} {k : Nat} (e : Expression)
    (within : k < list.length) :
    Decides (list ++ [e]) k ↔ Decides list k ∧
      (operator? e = none → InForce list list.length .and → e.result.failing = true) := by
  have same : ∀ m, m < list.length → (list ++ [e])[m]? = list[m]? := fun m before =>
    List.getElem?_append_left before
  have last := getElem?_snoc_length list e
  constructor
  · rintro ⟨⟨decider, stands, fails, joined⟩, upheld⟩
    rw [inForce_append [e] (Nat.le_of_lt within)] at joined
    refine ⟨⟨⟨decider, same k within ▸ stands, fails, joined⟩, ?_⟩, ?_⟩
    · intro m found later standsAt isOutcome inForce
      have bound : m < list.length := (List.getElem?_eq_some_iff.mp standsAt).1
      exact upheld m found later ((same m bound).trans standsAt) isOutcome
        ((inForce_append [e] (Nat.le_of_lt bound)).mpr inForce)
    · intro isOutcome inForce
      exact upheld list.length e within last isOutcome
        ((inForce_append [e] (Nat.le_refl _)).mpr inForce)
  · rintro ⟨⟨⟨decider, stands, fails, joined⟩, upheld⟩, lastUpheld⟩
    rw [← inForce_append [e] (Nat.le_of_lt within)] at joined
    refine ⟨⟨decider, (same k within).trans stands, fails, joined⟩, ?_⟩
    intro m found later standsAt isOutcome inForce
    have bound := (List.getElem?_eq_some_iff.mp standsAt).1
    rw [List.length_append, List.length_singleton] at bound
    rcases Nat.lt_or_eq_of_le (Nat.le_of_lt_succ bound) with earlier | rfl
    · exact upheld m found later (same m earlier ▸ standsAt) isOutcome
        ((inForce_append [e] (Nat.le_of_lt earlier)).mp inForce)
    · obtain rfl := Option.some.inj (last.symm.trans standsAt)
      exact lastUpheld isOutcome ((inForce_append [e] (Nat.le_refl _)).mp inForce)

theorem decides_last_iff {list : List Expression} (e : Expression) (started : list ≠ []) :
    Decides (list ++ [e]) list.length ↔
      operator? e = none ∧ InForce list list.length .or ∧ e.result.failing = true := by
  have last := getElem?_snoc_length list e
  constructor
  · rintro ⟨⟨decider, stands, fails, joined⟩, -⟩
    obtain rfl := Option.some.inj (last.symm.trans stands)
    rcases joined with first | ⟨isOutcome, inForce⟩
    · exact absurd (List.length_eq_zero_iff.mp first) started
    · exact ⟨isOutcome, (inForce_append [e] (Nat.le_refl _)).mp inForce, fails⟩
  · rintro ⟨isOutcome, inForce, fails⟩
    refine ⟨⟨e, last, fails,
      .inr ⟨isOutcome, (inForce_append [e] (Nat.le_refl _)).mpr inForce⟩⟩, ?_⟩
    intro m found later standsAt
    have bound := (List.getElem?_eq_some_iff.mp standsAt).1
    rw [List.length_append, List.length_singleton] at bound
    omega

theorem Decides.within {list : List Expression} {k : Nat} (decides : Decides list k) :
    k < list.length := by
  obtain ⟨⟨decider, stands, -⟩, -⟩ := decides
  exact (List.getElem?_eq_some_iff.mp stands).1

theorem failing_after (first : Expression) (rest : List Expression) :
    (after first rest).failing = true ↔ ∃ k, Decides (first :: rest) k := by
  induction rest using List.reverseRecOn with
  | nil =>
    constructor
    · intro fails
      refine ⟨0, ⟨first, rfl, fails, .inl rfl⟩, fun m e later stands => ?_⟩
      have bound : m < 1 := (List.getElem?_eq_some_iff.mp stands).1
      omega
    · rintro ⟨k, decides⟩
      obtain rfl : k = 0 := Nat.lt_one_iff.mp decides.within
      obtain ⟨decider, stands, fails, -⟩ := decides.fails
      obtain rfl := Option.some.inj stands
      exact fails
  | append_singleton rest e ih =>
    -- The last expression upholds or ends what decided before, or decides itself.
    rw [after_snoc, failing_step, ih, operator_after, operator_after, ← List.cons_append,
      ← decides_last_iff e (List.cons_ne_nil first rest)]
    constructor
    · rintro (⟨⟨k, decides⟩, lastUpheld⟩ | decides)
      · exact ⟨k, (decides_snoc_iff e decides.within).mpr ⟨decides, lastUpheld⟩⟩
      · exact ⟨_, decides⟩
    · rintro ⟨k, decides⟩
      have bound := decides.within
      rw [List.length_append, List.length_singleton] at bound
      rcases Nat.lt_or_eq_of_le (Nat.le_of_lt_succ bound) with earlier | rfl
      · obtain ⟨decides, lastUpheld⟩ := (decides_snoc_iff e earlier).mp decides
        exact .inl ⟨⟨k, decides⟩, lastUpheld⟩
      · exact .inr decides

theorem reduce_iff (list : List Expression) : reduce list = true ↔ ∃ k, Decides list k := by
  cases list with
  | nil =>
    refine ⟨fun fails => absurd fails (by simp [reduce]), ?_⟩
    rintro ⟨k, decides⟩
    exact absurd decides.within (Nat.not_lt_zero k)
  | cons first rest => exact failing_after first rest

/-! ## What follows for the verdict -/

def Raised : List Expression → List Expression → Prop :=
  List.Forall₂ fun e raised =>
    raised.kind = e.kind ∧ (e.result.failing = true → raised.result.failing = true)

section Raised

variable {list raised : List Expression} {k : Nat} {e : Expression}

theorem Raised.stands (above : Raised list raised) (stands : list[k]? = some e) :
    ∃ e', raised[k]? = some e' ∧ operator? e' = operator? e ∧
      (e.result.failing = true → e'.result.failing = true) := by
  induction above generalizing k with
  | nil => simp at stands
  | @cons first first' _ _ head _ ih =>
    cases k with
    | zero =>
      obtain rfl := Option.some.inj stands
      exact ⟨first', rfl, by rw [operator?, operator?, head.1], head.2⟩
    | succ k => exact ih stands

theorem Raised.operatorAt (above : Raised list raised) (k : Nat) :
    operatorAt raised k = Verdict.operatorAt list k := by
  cases stands : list[k]? with
  | some e =>
    obtain ⟨e', stands', sameOperator, -⟩ := above.stands stands
    rw [operatorAt_of_stands stands, operatorAt_of_stands stands', sameOperator]
  | none =>
    have beyond : list.length ≤ k := List.getElem?_eq_none_iff.mp stands
    have pastEnd : raised[k]? = none := List.getElem?_eq_none_iff.mpr (above.length_eq ▸ beyond)
    rw [Verdict.operatorAt, Verdict.operatorAt, stands, pastEnd]

theorem Raised.decides (above : Raised list raised) (decides : Decides list k) :
    Decides raised k := by
  obtain ⟨⟨decider, stands, fails, joined⟩, upheld⟩ := decides
  obtain ⟨decider', stands', sameOperator, worse⟩ := above.stands stands
  refine ⟨⟨decider', stands', worse fails, ?_⟩, fun m e' later standsAt isOutcome inForce => ?_⟩
  · refine joined.imp_right fun ⟨isOutcome, inForce⟩ => ⟨sameOperator.trans isOutcome, ?_⟩
    exact inForce.congr fun m _ => above.operatorAt m
  · have bound : m < list.length :=
      above.length_eq ▸ (List.getElem?_eq_some_iff.mp standsAt).1
    obtain ⟨e'', standsAt', sameOperator', worse'⟩ :=
      above.stands (List.getElem?_eq_getElem bound)
    obtain rfl := Option.some.inj (standsAt.symm.trans standsAt')
    refine worse' (upheld m _ later (List.getElem?_eq_getElem bound)
      (sameOperator'.symm.trans isOutcome) ?_)
    exact inForce.congr fun m _ => (above.operatorAt m).symm

end Raised

theorem failing_operators (operators : List Expression) (verdict : Verdict)
    (isOperator : ∀ e ∈ operators, (operator? e).isSome = true) :
    (operators.foldl step verdict).failing = verdict.failing := by
  induction operators generalizing verdict with
  | nil => rfl
  | cons e operators ih =>
    obtain ⟨first, others⟩ := List.forall_mem_cons.mp isOperator
    obtain ⟨junction, isJunction⟩ := Option.isSome_iff_exists.mp first
    rw [List.foldl_cons, ih _ others, step, isJunction]

theorem unjoined_outcomes (outcomes : List Expression) (verdict : Verdict)
    (unset : verdict.operator = none) (isOutcome : ∀ e ∈ outcomes, operator? e = none) :
    outcomes.foldl step verdict = verdict := by
  induction outcomes with
  | nil => rfl
  | cons e outcomes ih =>
    obtain ⟨first, others⟩ := List.forall_mem_cons.mp isOutcome
    rw [List.foldl_cons, show verdict.step e = verdict by rw [step, first, unset], ih others]

theorem reduce_append_operators (list operators : List Expression)
    (isOperator : ∀ e ∈ operators, (operator? e).isSome = true)
    (settled : list ≠ [] ∨ ∀ e ∈ operators, e.result.failing = false) :
    reduce (list ++ operators) = reduce list := by
  cases list with
  | cons first rest =>
    rw [List.cons_append, reduce, reduce, List.foldl_append, failing_operators _ _ isOperator]
  | nil =>
    cases operators with
    | nil => rfl
    | cons first more =>
      have unset := settled.resolve_left (fun started => started rfl) first List.mem_cons_self
      obtain ⟨-, others⟩ := List.forall_mem_cons.mp isOperator
      exact (failing_operators more (start first) others).trans unset

/-- A check fails exactly if some expression of it decides so.  Therefore no outcome that gets
worse lets a failing check pass, operators at the end of the list do not count (a list of
nothing but operators has their unset outcomes), and neither do outcomes between the first one
and the first operator. -/
theorem verdict_is_decided_at_a_position (list : List Expression) :
    (reduce list = true ↔ ∃ k, Decides list k) ∧
      (∀ raised, Raised list raised → reduce list = true → reduce raised = true) ∧
      (∀ operators : List Expression, (∀ e ∈ operators, (operator? e).isSome = true) →
        (list ≠ [] ∨ ∀ e ∈ operators, e.result.failing = false) →
          reduce (list ++ operators) = reduce list) ∧
      ∀ (first : Expression) (between rest : List Expression),
        list = first :: (between ++ rest) → operator? first = none →
          (∀ e ∈ between, operator? e = none) → reduce list = reduce (first :: rest) := by
  refine ⟨reduce_iff list, fun raised above fails => ?_, reduce_append_operators list, ?_⟩
  · obtain ⟨k, decides⟩ := (reduce_iff list).mp fails
    exact (reduce_iff raised).mpr ⟨k, above.decides decides⟩
  · rintro first between rest rfl seeds isOutcome
    have unset : (start first).operator = none := seeds
    rw [reduce, reduce, List.foldl_append, unjoined_outcomes between _ unset isOutcome]

def threeProbes (second : Bool) : List Expression :=
  [⟨.ping ⟨1⟩, ⟨true, "", ["a"], []⟩⟩, ⟨.ping ⟨1⟩, ⟨second, "", [], []⟩⟩,
    ⟨.operator .and, .empty⟩, ⟨.ping ⟨1⟩, ⟨true, "", ["a"], []⟩⟩]

/-- The verdict stands when the second probe fails as well, when an operator follows, and when
the second probe is left out. -/
theorem first_and_last_probe_decide :
    (∃ k, Decides (threeProbes false) k) ∧ Raised (threeProbes false) (threeProbes true) ∧
      reduce (threeProbes true) = true ∧
      reduce (threeProbes false ++ [⟨.operator .or, .empty⟩]) = true ∧
      reduce ((threeProbes false).eraseIdx 1) = true := by
  obtain ⟨decides, raises, trails, seeds⟩ :=
    verdict_is_decided_at_a_position (threeProbes false)
  have fails : reduce (threeProbes false) = true := rfl
  have raised : Raised (threeProbes false) (threeProbes true) := by
    simp [Raised, threeProbes]
  have trailing := trails [⟨.operator .or, .empty⟩] (by simp [operator?])
    (.inl (List.cons_ne_nil _ _))
  have seeded := seeds _ [⟨.ping ⟨1⟩, ⟨false, "", [], []⟩⟩] _ rfl rfl (by simp [operator?])
  exact ⟨decides.mp fails, raised, raises _ raised fails, trailing.trans fails,
    seeded.symm.trans fails⟩

end FleetMonitor.Verdict
