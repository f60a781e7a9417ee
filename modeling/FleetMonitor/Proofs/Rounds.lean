import FleetMonitor.Proofs.Dealing

/-!
# The deal in rounds

Sorted by id, the checks are dealt in rounds: every round gives one check to each daemon, in
the order of the daemons, until none is left.  So the hand of a daemon is told by its seat
alone, and who sits further in front has at most one check more.
-/

set_option autoImplicit false

namespace FleetMonitor

namespace Dealing

/-! ## The one order of the checks -/

/-- The checks in descending order of their ids; those of one id stand as they were listed. -/
structure Sorted (checks ordered : List Check) : Prop where
  descending : ordered.Pairwise fun a b => b.id ≤ a.id
  stable : ∀ id, ordered.filter (fun check => check.id == id) =
    checks.filter fun check => check.id == id

theorem order_sorted (checks : List Check) : Sorted checks (order checks) where
  descending := order_descending checks
  stable id := by
    have level : (checks.filter fun check => check.id == id).Pairwise
        fun a b => decide (b.id ≤ a.id) = true := by
      refine List.pairwise_of_forall_mem_list fun a aMem b bMem => decide_eq_true ?_
      have aId : a.id = id := beq_iff_eq.mp (List.mem_filter.mp aMem).2
      have bId : b.id = id := beq_iff_eq.mp (List.mem_filter.mp bMem).2
      exact Int.le_of_eq (bId.trans aId.symm)
    have kept : (checks.filter fun check => check.id == id).Sublist (order checks) := by
      refine List.sublist_mergeSort ?_ ?_ level List.filter_sublist
      · intro a b c first second
        simp only [decide_eq_true_eq] at *
        exact Int.le_trans second first
      · intro a b
        simp only [Bool.or_eq_true, decide_eq_true_eq]
        exact Int.le_total _ _
    have within := kept.filter fun check => check.id == id
    rw [List.filter_filter] at within
    simp only [Bool.and_self] at within
    exact (within.eq_of_length ((order_perm checks).filter _).length_eq.symm).symm

theorem Sorted.unique {checks one other : List Check} (first : Sorted checks one)
    (second : Sorted checks other) : one = other := by
  have same : ∀ id, one.filter (fun check => check.id == id) =
      other.filter fun check => check.id == id :=
    fun id => (first.stable id).trans (second.stable id).symm
  have members : ∀ check, check ∈ one ↔ check ∈ other := by
    intro check
    have here := congrArg (check ∈ ·) (same check.id)
    simpa using here
  obtain ⟨descending, -⟩ := first
  obtain ⟨alsoDescending, -⟩ := second
  induction one generalizing other with
  | nil =>
      cases other with
      | nil => rfl
      | cons b _ => exact absurd ((members b).mpr List.mem_cons_self) List.not_mem_nil
  | cons a rest ih =>
      cases other with
      | nil => exact absurd ((members a).mp List.mem_cons_self) List.not_mem_nil
      | cons b others =>
          rw [List.pairwise_cons] at descending alsoDescending
          -- Each of the two heads stands in the other list, so that neither id is the greater.
          have down : b.id ≤ a.id := by
            rcases List.mem_cons.mp ((members b).mpr List.mem_cons_self) with rfl | member
            · exact Int.le_refl _
            · exact descending.1 b member
          have up : a.id ≤ b.id := by
            rcases List.mem_cons.mp ((members a).mp List.mem_cons_self) with rfl | member
            · exact Int.le_refl _
            · exact alsoDescending.1 a member
          have level : b.id = a.id := Int.le_antisymm down up
          have heads := same a.id
          simp only [List.filter_cons, level, BEq.rfl, if_true, List.cons.injEq] at heads
          obtain ⟨rfl, -⟩ := heads
          have tails : ∀ id, rest.filter (fun check => check.id == id) =
              others.filter fun check => check.id == id := by
            intro id
            have whole := same id
            simp only [List.filter_cons] at whole
            split at whole
            · exact (List.cons.inj whole).2
            · exact whole
          rw [ih tails (fun check => by simpa using congrArg (check ∈ ·) (tails check.id))
            descending.2 alsoDescending.2]

/-! ## Hands, turn by turn -/

/-- Of items that are dealt to `seats` seats from turn `offset` on, a seat gets the one that
comes at its first turn and from there on one in every round. -/
theorem turns_getElem? {α : Type} {seats seat : Nat} (items : List α) (offset first : Nat)
    (inRound : first < seats) (own : (offset + first) % seats = seat) (round : Nat) :
    (((items.zipIdx offset).filter fun item => item.2 % seats = seat).map Prod.fst)[round]? =
      items[first + round * seats]? := by
  induction items generalizing offset first round with
  | nil => simp
  | cons item rest ih =>
      rw [List.zipIdx_cons, List.filter_cons]
      cases first with
      | zero =>
          -- It is the turn of the seat; its next one is a whole round away.
          rw [Nat.add_zero] at own
          rw [if_pos (decide_eq_true own), List.map_cons]
          cases round with
          | zero => simp
          | succ round =>
              have next : (offset + 1 + (seats - 1)) % seats = seat := by
                rw [show offset + 1 + (seats - 1) = offset + seats by omega, Nat.add_mod_right, own]
              rw [List.getElem?_cons_succ, ih (offset + 1) (seats - 1) (by omega) next round]
              have turn : 0 + (round + 1) * seats = seats - 1 + round * seats + 1 := by
                rw [Nat.succ_mul]
                omega
              rw [turn, List.getElem?_cons_succ]
      | succ first =>
          have other : offset % seats ≠ seat := by
            intro same
            have level : offset + (first + 1) ≡ offset + 0 [MOD seats] := own.trans same.symm
            have isZero := (Nat.ModEq.add_left_cancel' offset level).eq_of_lt_of_lt inRound (by omega)
            omega
          rw [if_neg (by simpa using other),
            ih (offset + 1) first (by omega) (by rw [← own]; congr 1; omega) round,
            show first + 1 + round * seats = first + round * seats + 1 by omega,
            List.getElem?_cons_succ]

theorem hand_getElem? (checks : List Check) {daemons : List String} (distinct : daemons.Nodup)
    {seat : Nat} {daemon : String} (seated : daemons[seat]? = some daemon) (round : Nat) :
    (hand checks daemons daemon)[round]? = (order checks)[seat + round * daemons.length]? := by
  obtain ⟨bound, rfl⟩ := List.getElem?_eq_some_iff.mp seated
  have own : ∀ item : Check × Nat, (daemons[item.2 % daemons.length]? == some daemons[seat]) =
      decide (item.2 % daemons.length = seat) := by
    intro item
    have turn : item.2 % daemons.length < daemons.length := Nat.mod_lt _ (by omega)
    rw [List.getElem?_eq_getElem turn, beq_eq_decide]
    simp only [Option.some.injEq, distinct.getElem_inj_iff]
  rw [hand]
  simp only [own]
  exact turns_getElem? (order checks) 0 seat bound
    (by rw [Nat.zero_add, Nat.mod_eq_of_lt bound]) round

theorem lt_hand_length_iff (checks : List Check) {daemons : List String}
    (distinct : daemons.Nodup) {seat : Nat} {daemon : String}
    (seated : daemons[seat]? = some daemon) (round : Nat) :
    round < (hand checks daemons daemon).length ↔
      seat + round * daemons.length < checks.length := by
  rw [← Nat.not_le, ← List.getElem?_eq_none_iff, hand_getElem? checks distinct seated,
    List.getElem?_eq_none_iff, (order_perm checks).length_eq, Nat.not_le]

theorem hand_length_le (checks : List Check) {daemons : List String} (distinct : daemons.Nodup)
    {seat further : Nat} {daemon other : String} (seated : daemons[seat]? = some daemon)
    (alsoSeated : daemons[further]? = some other) (front : seat < further) :
    (hand checks daemons other).length ≤ (hand checks daemons daemon).length ∧
      (hand checks daemons daemon).length ≤ (hand checks daemons other).length + 1 := by
  have reaches := lt_hand_length_iff checks distinct seated
  have alsoReaches := lt_hand_length_iff checks distinct alsoSeated
  have bound : further < daemons.length := (List.getElem?_eq_some_iff.mp alsoSeated).1
  constructor
  · refine Nat.not_lt.mp fun less => ?_
    have within := (alsoReaches _).mp less
    exact Nat.lt_irrefl _ ((reaches _).mpr (by omega))
  · refine Nat.not_lt.mp fun less => ?_
    have within := (reaches _).mp less
    rw [Nat.succ_mul] at within
    exact Nat.lt_irrefl _ ((alsoReaches _).mpr (by omega))

/-! ## The deal -/

theorem eraseDups_of_nodup {α : Type} [BEq α] [LawfulBEq α] {items : List α}
    (distinct : items.Nodup) : items.eraseDups = items := by
  induction items with
  | nil => rfl
  | cons item rest ih =>
      obtain ⟨fresh, distinct⟩ := List.nodup_cons.mp distinct
      have kept : (rest.filter fun other => !other == item) = rest := by
        refine List.filter_eq_self.mpr fun other member => ?_
        have apart : other ≠ item := fun same => fresh (same ▸ member)
        simp [apart]
      rw [List.eraseDups_cons, kept, ih distinct]

theorem deal_eq (checks : List Check) {daemons : List String} (distinct : daemons.Nodup) :
    deal checks daemons = daemons.map fun daemon => (daemon, hand checks daemons daemon) := by
  rw [deal, eraseDups_of_nodup distinct]

/-- Distinct daemons get one hand each, in their order.  The checks are dealt from one sorted
list, and the daemon at a seat gets what stands there in every round.  So every check is in
one hand, a hand is as large as those behind it or larger by one, and the order in which
checks of distinct ids are listed does not matter. -/
theorem dealt_in_rounds (checks : List Check) (daemons : List String) (seated : daemons ≠ [])
    (distinct : daemons.Nodup) :
    (deal checks daemons).map Prod.fst = daemons ∧
      (∃ ordered, Sorted checks ordered ∧ (∀ other, Sorted checks other → other = ordered) ∧
        ∀ seat daemon hand, (deal checks daemons)[seat]? = some (daemon, hand) →
          ∀ round, hand[round]? = ordered[seat + round * daemons.length]?) ∧
      ((deal checks daemons).flatMap Prod.snd).Perm checks ∧
      ((deal checks daemons).Pairwise fun front back =>
        back.2.length ≤ front.2.length ∧ front.2.length ≤ back.2.length + 1) ∧
      ((checks.map (·.id)).Nodup → ∀ others, checks.Perm others →
        deal others daemons = deal checks daemons) := by
  rw [deal_eq checks distinct]
  refine ⟨?_, ⟨order checks, order_sorted checks,
    fun other sorted => sorted.unique (order_sorted checks), ?_⟩, ?_, ?_, ?_⟩
  · rw [List.map_map]
    exact List.map_id daemons
  · intro seat daemon own atSeat round
    rw [List.getElem?_map] at atSeat
    obtain ⟨_, named, same⟩ := Option.map_eq_some_iff.mp atSeat
    obtain ⟨rfl, rfl⟩ := Prod.mk.inj same
    exact hand_getElem? checks distinct named round
  · rw [List.flatMap_map]
    exact hands_perm checks daemons seated distinct
  · rw [List.pairwise_map, List.pairwise_iff_getElem]
    intro seat further bound alsoBound front
    exact hand_length_le checks distinct (List.getElem?_eq_getElem bound)
      (List.getElem?_eq_getElem alsoBound) front
  · intro ids others same
    rw [deal_eq others distinct]
    refine List.map_congr_left fun daemon _ => ?_
    rw [hand_eq_of_perm checks others daemons daemon same ids]

def threeChecks : List Check :=
  [⟨3, 1, "mail", "1m", .list [], [], [], false⟩, ⟨7, 1, "disk", "1m", .list [], [], [], false⟩,
    ⟨5, 1, "load", "1m", .list [], [], [], false⟩]

example : (deal threeChecks ["b", "a"]).map (fun dealt => (dealt.1, dealt.2.map (·.id))) =
    [("b", [7, 3]), ("a", [5])] := by
  cbv

/-- Two daemons share three checks, however these are listed. -/
theorem two_share_three :
    (["b", "a"] ≠ [] ∧ ["b", "a"].Nodup ∧ (threeChecks.map (·.id)).Nodup) ∧
      (deal threeChecks ["b", "a"]).map Prod.fst = ["b", "a"] ∧
      ((deal threeChecks ["b", "a"]).flatMap Prod.snd).Perm threeChecks ∧
      deal threeChecks.reverse ["b", "a"] = deal threeChecks ["b", "a"] := by
  have seated : ["b", "a"] ≠ [] := by decide
  have distinct : ["b", "a"].Nodup := by decide
  have ids : (threeChecks.map (·.id)).Nodup := by decide
  obtain ⟨names, -, dealt, -, same⟩ := dealt_in_rounds threeChecks ["b", "a"] seated distinct
  exact ⟨⟨seated, distinct, ids⟩, names, dealt, same ids _ (List.reverse_perm _).symm⟩

end Dealing

end FleetMonitor
