import FleetMonitor.Json.Decode
import FleetMonitor.Instant

/-!
# Triggers

A trigger names an action and the band of violation counts, over a sliding
window, in which the action is taken.
-/

set_option autoImplicit false

namespace FleetMonitor

inductive Action where
  | nothing
  | email (address : String)
  | sms (phone carrier : String)
  | pager (serviceKey description incidentKey : String)
deriving DecidableEq, Repr, Inhabited

namespace Action

def transport : Action → String
  | nothing => "nothing"
  | email _ => "email"
  | sms _ _ => "sms"
  | pager _ _ _ => "pagerduty"

def emailRecord : Decoder.Record Action where
  title := "struct variant TriggerAction::Email"
  blank := email ""
  fields := [Decoder.field .defaulted "Email" Decoder.string fun _ address => email address]

def smsRecord : Decoder.Record (String × String) where
  title := "struct variant TriggerAction::Sms"
  blank := ("", "")
  fields :=
    [ Decoder.field .defaulted "SMSPhone" Decoder.string fun r phone => (phone, r.2),
      Decoder.field .defaulted "SMSCarrier" Decoder.string fun r carrier => (r.1, carrier) ]

def pagerRecord : Decoder.Record (String × String × String) where
  title := "struct variant TriggerAction::PagerDuty"
  blank := ("", "", "")
  fields :=
    [ Decoder.field .defaulted "PagerDutyServiceKey" Decoder.string
        fun r key => (key, r.2.1, r.2.2),
      Decoder.field .defaulted "PagerDutyDescription" Decoder.string
        fun r description => (r.1, description, r.2.2),
      Decoder.field .defaulted "PagerDutyIncidentKey" Decoder.string
        fun r key => (r.1, r.2.1, key) ]

/-- The written form: the transport is named by the member `Transport`. -/
def tagged : Decoder.Tagged Action where
  title := "internally tagged enum TriggerAction"
  tag := "Transport"
  variants :=
    [ ⟨["", "nothing"], Decoder.empty nothing⟩,
      ⟨["email"], emailRecord.read⟩,
      ⟨["sms"], fun source document =>
        (smsRecord.read source document).map fun r => sms r.1 r.2⟩,
      ⟨["pagerduty"], fun source document =>
        (pagerRecord.read source document).map fun r => pager r.1 r.2.1 r.2.2⟩ ]

def encode : Action → Json
  | nothing => .object [("Transport", .string "nothing")]
  | email address => .object [("Transport", .string "email"), ("Email", .string address)]
  | sms phone carrier =>
      .object
        [("Transport", .string "sms"), ("SMSPhone", .string phone),
         ("SMSCarrier", .string carrier)]
  | pager serviceKey description incidentKey =>
      .object
        [("Transport", .string "pagerduty"), ("PagerDutyServiceKey", .string serviceKey),
         ("PagerDutyDescription", .string description),
         ("PagerDutyIncidentKey", .string incidentKey)]

end Action

/-- A rule that takes an action while the number of recent violations lies in a
band. -/
structure Trigger where
  id : Int
  low : Int
  high : Option Int
  windowMinutes : Int
  action : Action
deriving DecidableEq, Repr, Inhabited

namespace Trigger

/-- The upper end of a band that has none. -/
def unbounded : Int := 1000000

def highBound (trigger : Trigger) : Int :=
  trigger.high.getD unbounded

/-- A count as a signed 64-bit number; counts beyond are taken for the largest. -/
def clamp (n : Nat) : Int :=
  min n 0x7fffffffffffffff

def inBand (trigger : Trigger) (violations : Nat) : Bool :=
  trigger.low ≤ clamp violations && clamp violations ≤ trigger.highBound

/-- The length of the window in seconds, if it is a distance between instants;
a negative length counts as none. -/
def window? (trigger : Trigger) : Option Int :=
  Instant.minutes? (max trigger.windowMinutes 0)

def record : Decoder.Record Trigger where
  title := "struct Trigger"
  blank := ⟨0, 0, none, 0, .nothing⟩
  fields :=
    [ Decoder.field .required "ID" Decoder.int64 fun t id => { t with id },
      Decoder.field .defaulted "LowViolationsCount" Decoder.int64 fun t low => { t with low },
      Decoder.field .defaulted "HighViolationsCount" (Decoder.nullable Decoder.int64)
        fun t high => { t with high },
      Decoder.field .defaulted "CreatedIntervalMinute" Decoder.int64
        fun t windowMinutes => { t with windowMinutes },
      Decoder.field .required "Action" Action.tagged.read fun t action => { t with action } ]

def decode : Decoder Trigger :=
  record.read

def encode (trigger : Trigger) : Json :=
  .object
    [("ID", .int trigger.id), ("LowViolationsCount", .int trigger.low),
     ("HighViolationsCount", Json.orNull .int trigger.high),
     ("CreatedIntervalMinute", .int trigger.windowMinutes), ("Action", trigger.action.encode)]

end Trigger

end FleetMonitor
