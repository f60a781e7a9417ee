import FleetMonitor.Json.Decode
import FleetMonitor.Span

/-!
# Settings

What a daemon is told when it starts.  Only the address it announces and, with
mail, the relay and the sender have no default.
-/

set_option autoImplicit false

namespace FleetMonitor

inductive Storage where
  | memory
  | file (path : String)
deriving DecidableEq, Repr

structure PeerSettings where
  heartbeatInterval : Span := .ofSeconds 30
  lifetime : Span := .ofSeconds 60
deriving DecidableEq, Repr

structure CheckSettings where
  listInterval : Span := .ofSeconds 60
  freshness : Span := .ofSeconds 300
  probeTimeout : Span := .ofSeconds 10
  /-- How long records are kept where a cluster says nothing else. -/
  retentionDays : Nat := 1
  gateways : List (String × String) :=
    [("alltel", "message.alltel.com"), ("att", "txt.att.net"),
     ("sprint", "messaging.sprintpcs.com"), ("tmobile", "tmomail.com"),
     ("verizon", "vtext.com"), ("virgin", "vmobl.com")]
deriving DecidableEq, Repr

structure MailSettings where
  host : String
  port : Nat := 587
  username : Option String := none
  password : Option String := none
  sender : String
  subjectPrefix : Option String := none
deriving DecidableEq, Repr

structure Settings where
  address : String
  storage : Storage := .file "./checks.db"
  peers : PeerSettings := {}
  checks : CheckSettings := {}
  mail : Option MailSettings := none
  pagerUrl : String := "https://events.pagerduty.com/generic/2010-04-15/create_event.json"
deriving DecidableEq, Repr

def Decoder.span : Decoder Span := fun source document => do
  match Span.read (← Decoder.string source document) with
  | .ok span => pure span
  | .error .beyondLongest => throw .beyondRange
  | .error reason => throw (.refused reason.message)

def Storage.fileRecord : Decoder.Record Storage where
  title := "struct variant StorageConfig::Sqlite"
  blank := .file "./checks.db"
  fields := [Decoder.field .defaulted "path" Decoder.path fun _ path => .file path]

def Storage.tagged : Decoder.Tagged Storage where
  title := "internally tagged enum StorageConfig"
  tag := "backend"
  variants := [⟨["none"], Decoder.empty .memory⟩, ⟨["sqlite"], Storage.fileRecord.read⟩]

def PeerSettings.record : Decoder.Record PeerSettings where
  title := "struct PeersConfig"
  blank := {}
  fields :=
    [ Decoder.field .defaulted "heartbeat_interval" Decoder.span
        fun s span => { s with heartbeatInterval := span },
      Decoder.field .defaulted "peer_ttl" Decoder.span fun s span => { s with lifetime := span } ]

def CheckSettings.record : Decoder.Record CheckSettings where
  title := "struct ChecksConfig"
  blank := {}
  fields :=
    [ Decoder.field .defaulted "list_fetch_interval" Decoder.span
        fun s span => { s with listInterval := span },
      Decoder.field .defaulted "hosts_freshness" Decoder.span
        fun s span => { s with freshness := span },
      Decoder.field .defaulted "probe_timeout" Decoder.span
        fun s span => { s with probeTimeout := span },
      Decoder.field .defaulted "default_retention_days" (Decoder.natural "u32" 32)
        fun s days => { s with retentionDays := days },
      Decoder.field .defaulted "sms_email_gateway" Decoder.textMap
        fun s gateways => { s with gateways := gateways } ]

def MailSettings.record : Decoder.Record MailSettings where
  title := "struct EmailConfig"
  blank := { host := "", sender := "" }
  fields :=
    [ Decoder.field .required "host" Decoder.string fun s host => { s with host := host },
      Decoder.field .defaulted "port" (Decoder.natural "u16" 16)
        fun s port => { s with port := port },
      Decoder.field .optional "username" (Decoder.nullable Decoder.string)
        fun s username => { s with username := username },
      Decoder.field .optional "password" (Decoder.nullable Decoder.string)
        fun s password => { s with password := password },
      Decoder.field .required "from" Decoder.string fun s sender => { s with sender := sender },
      Decoder.field .defaulted "subject_prefix" (Decoder.nullable Decoder.string)
        fun s text => { s with subjectPrefix := text } ]

def Settings.pagerRecord : Decoder.Record String where
  title := "struct PagerDutyConfig"
  blank := ({ address := "" } : Settings).pagerUrl
  fields := [Decoder.field .defaulted "events_url" Decoder.string fun _ url => url]

namespace Settings

def record : Decoder.Record Settings where
  title := "struct Config"
  blank := { address := "" }
  fields :=
    [ Decoder.field .required "address" Decoder.string
        fun s address => { s with address := address },
      Decoder.field .defaulted "storage" Storage.tagged.read
        fun s storage => { s with storage := storage },
      Decoder.field .defaulted "peers" PeerSettings.record.read
        fun s peers => { s with peers := peers },
      Decoder.field .defaulted "checks" CheckSettings.record.read
        fun s checks => { s with checks := checks },
      Decoder.field .optional "email" (Decoder.nullable MailSettings.record.read)
        fun s mail => { s with mail := mail },
      Decoder.field .defaulted "pagerduty" pagerRecord.read
        fun s url => { s with pagerUrl := url } ]

inductive ReadError where
  | unreadable (path reason : String)
  | invalid (cause : DecodeError)
deriving Repr

def ReadError.message : ReadError → String
  | unreadable path reason => "failed to read config file " ++ path ++ ": " ++ reason
  | invalid cause => "Invalid configuration file provided: " ++ cause.message

def read (s : String) : Except ReadError Settings :=
  (Decoder.ofText record.read s).mapError .invalid

/-- The settings with a password for mail from another place, where mail is set
up at all. -/
def withPassword (settings : Settings) : Option String → Settings
  | none => settings
  | some password =>
      { settings with
        mail := settings.mail.map fun mail => { mail with password := some password } }

end Settings

end FleetMonitor
