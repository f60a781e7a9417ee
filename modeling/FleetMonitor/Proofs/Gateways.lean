import FleetMonitor.Proofs.Escalation
import FleetMonitor.Proofs.Lowering
import FleetMonitor.Proofs.StoredHosts

/-!
# Text messages through mail gateways

A text message goes out as a mail to the ten digits of the phone at the gateway
of its carrier.  The carrier is looked up in lower case, and the names of the
gateways stand as they were configured.  So a carrier is served in every letter
case exactly if its lower case is among the names, and a name with a capital
letter serves no one.
-/

set_option autoImplicit false

namespace FleetMonitor

open Routine Surroundings

namespace Dispatcher

def carriers (dispatcher : Dispatcher) : List String :=
  dispatcher.gateways.map Prod.fst

def SameName (name other : String) : Prop :=
  Text.lower name = Text.lower other

instance (name other : String) : Decidable (SameName name other) :=
  inferInstanceAs (Decidable (_ = _))

def Knows (dispatcher : Dispatcher) (carrier : String) : Prop :=
  ∃ name ∈ dispatcher.carriers, SameName name carrier

instance (dispatcher : Dispatcher) (carrier : String) : Decidable (dispatcher.Knows carrier) :=
  inferInstanceAs (Decidable (∃ name ∈ dispatcher.carriers, SameName name carrier))

def Serves (dispatcher : Dispatcher) (carrier : String) : Prop :=
  dispatcher.Knows carrier → Text.lower carrier ∈ dispatcher.carriers

def textMessage (check : Check) (violations : Nat) (phone gateway : String) : Mail :=
  ⟨String.ofList (phone.toList.filter Char.isDigit) ++ "@" ++ gateway, "",
    Notice.summary check violations⟩

def withMail (s : Surroundings) (mail : Mail) : Surroundings :=
  { s with outbox.mails := s.outbox.mails ++ [mail] }

/-- What is to become of a text message.  With ten digits and a gateway under the carrier's
name, in any letter case, one mail goes there; with another number of digits it is skipped, and
without a gateway it is an error, and then nothing goes out. -/
def Promised (dispatcher : Dispatcher) (check : Check) (violations : Nat) (phone carrier : String)
    (s : Surroundings) (ran : Option (Except DeliveryError Delivery) × Surroundings) : Prop :=
  if dispatcher.Knows carrier then
    if phone.toList.countP Char.isDigit = 10 then
      ∃ name gateway, (name, gateway) ∈ dispatcher.gateways ∧ SameName name carrier ∧
        ran = (some (.ok .sent), withMail s (textMessage check violations phone gateway))
    else ran = (some (.ok .skipped), s)
  else ∃ cause, ran = (some (.error cause), s)

theorem hand_runIn {dispatcher : Dispatcher} {s : Surroundings} {mail : Mail}
    (mailer : dispatcher.hasMailer = true) (accepted : s.mailReply mail = .ok ()) :
    (dispatcher.hand mail).runIn s = (some (.ok .sent), withMail s mail) := by
  have taken : Surroundings.answer (.mail mail) s = (.ok (), withMail s mail) := by
    simp only [answer, takeMail, accepted]
    rfl
  rw [hand, if_pos mailer]
  change ((Routine.request (.mail mail)).bind _).run answer s = _
  rw [run_bind, Routine.request, run, taken]
  rfl

theorem length_phoneDigits (phone : String) :
    (Notice.phoneDigits phone).length = phone.toList.countP Char.isDigit := by
  rw [Notice.phoneDigits, String.length_ofList, List.countP_eq_length_filter]

/-! ## The gateway of a carrier -/

theorem lookup_of_not_mem {dispatcher : Dispatcher} {name : String}
    (absent : name ∉ dispatcher.carriers) : dispatcher.gateways.lookup name = none := by
  refine List.lookup_eq_none_iff.mpr fun entry listed => bne_iff_ne.mpr fun same => absent ?_
  exact List.mem_map.mpr ⟨entry, listed, same.symm⟩

theorem exists_gateway {dispatcher : Dispatcher} {name : String}
    (listed : name ∈ dispatcher.carriers) :
    ∃ gateway, dispatcher.gateways.lookup name = some gateway ∧
      (name, gateway) ∈ dispatcher.gateways := by
  cases found : dispatcher.gateways.lookup name with
  | some gateway =>
    obtain ⟨front, back, layout, -⟩ := List.lookup_eq_some_iff.mp found
    exact ⟨gateway, rfl, layout ▸ by simp⟩
  | none =>
    obtain ⟨entry, inMap, rfl⟩ := List.mem_map.mp listed
    simpa using List.lookup_eq_none_iff.mp found entry inMap

theorem knows_of_mem {dispatcher : Dispatcher} {carrier : String}
    (listed : Text.lower carrier ∈ dispatcher.carriers) : dispatcher.Knows carrier :=
  ⟨Text.lower carrier, listed, Text.lower_lower carrier⟩

theorem not_serves_iff {dispatcher : Dispatcher} {carrier : String} :
    ¬ dispatcher.Serves carrier ↔
      dispatcher.Knows carrier ∧ Text.lower carrier ∉ dispatcher.carriers := by
  rw [Serves, Classical.not_imp]

theorem serves_all_iff (dispatcher : Dispatcher) :
    (∀ carrier, dispatcher.Serves carrier) ↔
      ∀ name ∈ dispatcher.carriers, Text.lower name ∈ dispatcher.carriers := by
  constructor
  · exact fun serves name listed => serves name ⟨name, listed, rfl⟩
  · rintro lowered carrier ⟨name, listed, same⟩
    rw [← same]
    exact lowered name listed

/-! ## One text message -/

section TextMessage

variable {dispatcher : Dispatcher} {check : Check} {trigger : Trigger} {violations : Nat}
  {newest : Option CycleRecord} {openKey : Option String} {phone carrier : String}
  {s : Surroundings} (isSms : trigger.action = .sms phone carrier)
include isSms

theorem dispatch_unlisted (absent : Text.lower carrier ∉ dispatcher.carriers) :
    (dispatcher.dispatch check trigger violations newest openKey).runIn s =
      (some (.error (.noGateway (Text.lower carrier))), s) := by
  rw [dispatch, isSms]
  simp only [lookup_of_not_mem absent]
  rfl

theorem dispatch_listed {gateway : String}
    (found : dispatcher.gateways.lookup (Text.lower carrier) = some gateway)
    (mailer : dispatcher.hasMailer = true) (accepts : ∀ mail, s.mailReply mail = .ok ()) :
    (dispatcher.dispatch check trigger violations newest openKey).runIn s =
      if phone.toList.countP Char.isDigit = 10 then
        (some (.ok .sent), withMail s (textMessage check violations phone gateway))
      else (some (.ok .skipped), s) := by
  rw [dispatch, isSms]
  simp only [found, length_phoneDigits]
  by_cases ten : phone.toList.countP Char.isDigit = 10
  · rw [if_pos ten, if_pos ten]
    exact hand_runIn mailer (accepts _)
  · rw [if_neg ten, if_neg ten]
    rfl

end TextMessage

/-- A text message becomes what it is to become exactly if its carrier, should it have a name
among the gateways, has one in lower case; otherwise it is taken for one without a gateway.  So
gateways that are known under names in lower case serve every carrier. -/
theorem text_message_is_promised_iff (dispatcher : Dispatcher) (check : Check)
    (trigger : Trigger) (violations : Nat) (newest : Option CycleRecord)
    (openKey : Option String) (phone carrier : String) (s : Surroundings)
    (isSms : trigger.action = .sms phone carrier) (mailer : dispatcher.hasMailer = true)
    (accepts : ∀ mail, s.mailReply mail = .ok ()) :
    (dispatcher.Promised check violations phone carrier s
        ((dispatcher.dispatch check trigger violations newest openKey).runIn s) ↔
      dispatcher.Serves carrier) ∧
    (¬ dispatcher.Serves carrier →
      (dispatcher.dispatch check trigger violations newest openKey).runIn s =
        (some (.error (.noGateway (Text.lower carrier))), s)) ∧
    ((∀ other, dispatcher.Serves other) ↔
      ∀ name ∈ dispatcher.carriers, Text.lower name ∈ dispatcher.carriers) := by
  refine ⟨⟨fun promised => ?_, fun serves => ?_⟩, fun unserved => ?_, serves_all_iff dispatcher⟩
  · by_contra unserved
    obtain ⟨known, absent⟩ := not_serves_iff.mp unserved
    rw [dispatch_unlisted isSms absent, Promised, if_pos known] at promised
    split_ifs at promised with ten
    · obtain ⟨name, gateway, -, -, sent⟩ := promised
      cases sent
    · cases promised
  · by_cases listed : Text.lower carrier ∈ dispatcher.carriers
    · obtain ⟨gateway, found, inMap⟩ := exists_gateway listed
      rw [Promised, if_pos (knows_of_mem listed), dispatch_listed isSms found mailer accepts]
      split_ifs with ten
      · exact ⟨Text.lower carrier, gateway, inMap, Text.lower_lower carrier, rfl⟩
      · rfl
    · rw [Promised, if_neg fun known => listed (serves known)]
      exact ⟨_, dispatch_unlisted isSms listed⟩
  · exact dispatch_unlisted isSms (not_serves_iff.mp unserved).2

def diskCheck : Check :=
  ⟨12, 1, "disk space", "1m", .list [], [], [], false⟩

def textTrigger (phone carrier : String) : Trigger :=
  ⟨3, 1, none, 10, .sms phone carrier⟩

def through (name : String) : Dispatcher :=
  ⟨[(name, "vtext.com")], true, "daemon"⟩

/-- With a name in lower case, a carrier in any letter case has its gateway. -/
theorem verizon_is_promised :
    (textTrigger "(555) 123-4567" "Verizon").action = .sms "(555) 123-4567" "Verizon" ∧
      (through "verizon").hasMailer = true ∧
      (∀ mail, (quietAround (.memory .empty)).mailReply mail = .ok ()) ∧
      (through "verizon").Promised diskCheck 2 "(555) 123-4567" "Verizon"
        (quietAround (.memory .empty))
        (((through "verizon").dispatch diskCheck (textTrigger "(555) 123-4567" "Verizon") 2 none
          none).runIn (quietAround (.memory .empty))) := by
  have names : ∀ name ∈ (through "verizon").carriers,
      Text.lower name ∈ (through "verizon").carriers := by decide +kernel
  refine ⟨rfl, rfl, fun _ => rfl, ?_⟩
  exact (text_message_is_promised_iff (through "verizon") diskCheck
    (textTrigger "(555) 123-4567" "Verizon") 2 none none "(555) 123-4567" "Verizon"
    (quietAround (.memory .empty)) rfl rfl fun _ => rfl).1.mpr ((serves_all_iff _).mpr names _)

/-- With a capital letter in the name, not even a carrier that is written alike has its
gateway. -/
theorem capital_name_serves_no_one :
    (through "Verizon").Knows "Verizon" ∧
      ((through "Verizon").dispatch diskCheck (textTrigger "5551234567" "Verizon") 2 none
          none).runIn (quietAround (.memory .empty)) =
        (some (.error (.noGateway "verizon")), quietAround (.memory .empty)) ∧
      ¬ (through "Verizon").Promised diskCheck 2 "5551234567" "Verizon"
        (quietAround (.memory .empty))
        (((through "Verizon").dispatch diskCheck (textTrigger "5551234567" "Verizon") 2 none
          none).runIn (quietAround (.memory .empty))) := by
  have known : (through "Verizon").Knows "Verizon" := by decide +kernel
  have ten : "5551234567".toList.countP Char.isDigit = 10 := by decide +kernel
  have lowered : Text.lower "Verizon" = "verizon" := by decide +kernel
  have absent : Text.lower "Verizon" ∉ (through "Verizon").carriers := by
    rw [lowered]
    decide
  have refused : ((through "Verizon").dispatch diskCheck (textTrigger "5551234567" "Verizon") 2
      none none).runIn (quietAround (.memory .empty)) =
        (some (.error (.noGateway "verizon")), quietAround (.memory .empty)) :=
    lowered ▸ dispatch_unlisted rfl absent
  refine ⟨known, refused, ?_⟩
  rw [refused, Promised, if_pos known, if_pos ten]
  rintro ⟨name, gateway, -, -, sent⟩
  cases sent

end Dispatcher

end FleetMonitor
