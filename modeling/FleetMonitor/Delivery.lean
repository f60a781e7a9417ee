import FleetMonitor.Json.Basic
import FleetMonitor.Text.Quoted

/-!
# Deliveries

The messages that leave a daemon, and what becomes of them.
-/

set_option autoImplicit false

namespace FleetMonitor

structure Mail where
  recipient : String
  subject : String
  body : String
deriving DecidableEq, Repr, Inhabited

def Mail.encode (mail : Mail) : Json :=
  .object
    [("to", .string mail.recipient), ("subject", .string mail.subject), ("body", .string mail.body)]

/-- A call to the pager service.  An incident key joins it to an open incident. -/
structure Page where
  serviceKey : String
  description : String
  incidentKey : Option String
  client : String
  details : Json

def Page.encode (page : Page) : Json :=
  .object
    ([("service_key", .string page.serviceKey), ("event_type", .string "trigger"),
      ("description", .string page.description)] ++
     (match page.incidentKey with
      | some key => [("incident_key", .string key)]
      | none => []) ++
     [("client", .string page.client), ("details", page.details)])

inductive Delivery where
  /-- Nothing was to be sent, or there is no usable destination. -/
  | skipped
  | sent
  | incident (key : String)
deriving DecidableEq, Repr, Inhabited

def Delivery.delivered : Delivery → Bool
  | skipped => false
  | _ => true

inductive DeliveryError where
  | noAddress
  | noGateway (carrier : String)
  | noMailer
  | refused (reason : String)
deriving DecidableEq, Repr

def DeliveryError.message : DeliveryError → String
  | noAddress => "trigger has no email address"
  | noGateway carrier => "no SMS gateway for carrier " ++ Text.quoted carrier
  | noMailer => "no SMTP configuration, cannot send mail"
  | refused reason => reason

end FleetMonitor
