import FleetMonitor.Proofs.Course

/-!
# Keys through exchanges

Which keys are held after a key was taken, dropped or forgotten, and what exchanges
make of them.  Surroundings tell of keys what is held; all else that they answer is
free.
-/

set_option autoImplicit false

namespace FleetMonitor

def Check.defines (check : Check) (triggerId : Int) : Bool :=
  check.triggers.any fun trigger => trigger.id == triggerId

namespace IncidentKeys

theorem lookup_cons_of_eq {κ α : Type} [BEq κ] [LawfulBEq κ] (key : κ) (value : α)
    (rest : List (κ × α)) : ((key, value) :: rest).lookup key = some value := by
  rw [List.lookup_cons, beq_self_eq_true]

theorem lookup_cons_of_ne {κ α : Type} [BEq κ] [LawfulBEq κ] (key other : κ) (value : α)
    (rest : List (κ × α)) (apart : other ≠ key) :
    ((key, value) :: rest).lookup other = rest.lookup other := by
  rw [List.lookup_cons, beq_eq_false_iff_ne.mpr apart]

theorem lookup_filter {κ α : Type} [BEq κ] [LawfulBEq κ] (entries : List (κ × α))
    (stays : κ → Bool) (key : κ) :
    (entries.filter fun entry => stays entry.1).lookup key =
      if stays key then entries.lookup key else none := by
  induction entries with
  | nil => simp
  | cons entry rest ih =>
      obtain ⟨place, value⟩ := entry
      by_cases own : key = place
      · subst own
        cases kept : stays key with
        | true =>
            rw [List.filter_cons_of_pos (by simpa using kept), lookup_cons_of_eq,
              lookup_cons_of_eq, if_pos rfl]
        | false =>
            rw [List.filter_cons_of_neg (by simp [kept]), ih, kept]
            simp
      · rw [lookup_cons_of_ne place key value rest own, ← ih]
        cases kept : stays place with
        | true =>
            rw [List.filter_cons_of_pos (by simpa using kept), lookup_cons_of_ne _ _ _ _ own]
        | false => rw [List.filter_cons_of_neg (by simp [kept])]

theorem lookup_put {κ α : Type} [BEq κ] [LawfulBEq κ] [DecidableEq κ] (entries : List (κ × α))
    (key other : κ) (value : α) :
    ((key, value) :: entries.filter fun entry => entry.1 != key).lookup other =
      if other = key then some value else entries.lookup other := by
  by_cases own : other = key
  · subst own
    rw [if_pos rfl, lookup_cons_of_eq]
  · rw [if_neg own, lookup_cons_of_ne _ _ _ _ own]
    refine (lookup_filter entries (fun place => place != key) other).trans ?_
    exact if_pos (bne_iff_ne.mpr own)

theorem get?_filter (keys : IncidentKeys) (stays : Int × Int → Bool) (c t : Int) :
    (IncidentKeys.mk (keys.entries.filter fun entry => stays entry.1)).get? c t =
      if stays (c, t) then keys.get? c t else none :=
  lookup_filter keys.entries stays (c, t)

theorem get?_drop (keys : IncidentKeys) (checkId triggerId c t : Int) :
    (keys.drop checkId triggerId).get? c t =
      if (c, t) = (checkId, triggerId) then none else keys.get? c t := by
  refine (get?_filter keys (fun place => place != (checkId, triggerId)) c t).trans ?_
  by_cases own : (c, t) = (checkId, triggerId)
  · simp [own]
  · simp only [bne_iff_ne, ne_eq, own, not_false_eq_true, if_true, if_false]

theorem get?_hold (keys : IncidentKeys) (checkId triggerId : Int) (key : String) (c t : Int) :
    (keys.hold checkId triggerId key).get? c t =
      if (c, t) = (checkId, triggerId) then some key else keys.get? c t := by
  have dropped := get?_drop keys checkId triggerId c t
  unfold get? at dropped ⊢
  by_cases own : (c, t) = (checkId, triggerId)
  · rw [if_pos own, own, hold, lookup_cons_of_eq]
  · rw [if_neg own] at dropped ⊢
    rw [hold, lookup_cons_of_ne _ _ _ _ own, dropped]

theorem get?_forgetCheck (keys : IncidentKeys) (checkId c t : Int) :
    (keys.forgetCheck checkId).get? c t = if c = checkId then none else keys.get? c t := by
  refine (get?_filter keys (fun place => place.1 != checkId) c t).trans ?_
  by_cases own : c = checkId <;> simp [own]

theorem get?_forgetRemoved (keys : IncidentKeys) (check : Check) (c t : Int) :
    (keys.forgetRemoved check).get? c t =
      if c = check.id ∧ check.defines t = false then none else keys.get? c t := by
  refine (get?_filter keys (fun place => place.1 != check.id || check.defines place.2) c t).trans ?_
  by_cases own : c = check.id
  · cases check.defines t <;> simp [own]
  · simp [own]

def after (keys : IncidentKeys) (exchange : Exchange) : IncidentKeys :=
  match exchange.request with
  | .holdKey checkId triggerId key => keys.hold checkId triggerId key
  | .dropKey checkId triggerId => keys.drop checkId triggerId
  | _ => keys

/-- A question for a key is answered by what is held; other answers are free. -/
def Tells (keys : IncidentKeys) : Exchange → Prop
  | ⟨.incidentKey checkId triggerId, answer⟩ => answer = keys.get? checkId triggerId
  | _ => True

def Responds (keys : IncidentKeys) (exchange : Exchange) (later : IncidentKeys) : Prop :=
  keys.Tells exchange ∧ later = keys.after exchange

end IncidentKeys

theorem Surroundings.answer_responds (request : Request) (s : Surroundings) :
    s.keys.Responds ⟨request, (answer request s).1⟩ (answer request s).2.keys := by
  cases request with
  | incidentKey checkId triggerId => exact ⟨rfl, rfl⟩
  | create clusterId checkId failing expressions seconds =>
      refine ⟨trivial, ?_⟩
      simp only [answer, create]
      split <;> rfl
  | mail mail =>
      refine ⟨trivial, ?_⟩
      simp only [answer, takeMail]
      split <;> rfl
  | _ => exact ⟨trivial, rfl⟩

end FleetMonitor
