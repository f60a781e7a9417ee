import FleetMonitor.Check.Expression
import FleetMonitor.Delivery
import FleetMonitor.Http.Header
import FleetMonitor.Http.Url
import FleetMonitor.Json.Decode
import FleetMonitor.Routine

/-!
# Exchanges over the web

The request of a probe and what its answer says of the host; the call to the
pager service and what its answer says of the incident.  The network is a
function: it answers a request, or it does not.  So is the table in which a
request keeps its fields left open; a program that runs has one of a fixed size.
-/

set_option autoImplicit false

namespace FleetMonitor

namespace Http

structure Call where
  method : String
  url : Url
  headers : List Header
  body : String
deriving DecidableEq, Repr

structure Reply where
  status : Nat
  body : String
  location : Option String := none
deriving DecidableEq, Repr

abbrev Network := Call → Option Reply

def phrases : List (Nat × String) :=
  [(100, "Continue"), (101, "Switching Protocols"), (102, "Processing"), (200, "OK"),
   (201, "Created"), (202, "Accepted"), (203, "Non Authoritative Information"),
   (204, "No Content"), (205, "Reset Content"), (206, "Partial Content"),
   (207, "Multi-Status"), (208, "Already Reported"), (226, "IM Used"),
   (300, "Multiple Choices"), (301, "Moved Permanently"), (302, "Found"),
   (303, "See Other"), (304, "Not Modified"), (305, "Use Proxy"),
   (307, "Temporary Redirect"), (308, "Permanent Redirect"), (400, "Bad Request"),
   (401, "Unauthorized"), (402, "Payment Required"), (403, "Forbidden"),
   (404, "Not Found"), (405, "Method Not Allowed"), (406, "Not Acceptable"),
   (407, "Proxy Authentication Required"), (408, "Request Timeout"), (409, "Conflict"),
   (410, "Gone"), (411, "Length Required"), (412, "Precondition Failed"),
   (413, "Payload Too Large"), (414, "URI Too Long"), (415, "Unsupported Media Type"),
   (416, "Range Not Satisfiable"), (417, "Expectation Failed"), (418, "I'm a teapot"),
   (421, "Misdirected Request"), (422, "Unprocessable Entity"), (423, "Locked"),
   (424, "Failed Dependency"), (425, "Too Early"), (426, "Upgrade Required"),
   (428, "Precondition Required"), (429, "Too Many Requests"),
   (431, "Request Header Fields Too Large"), (451, "Unavailable For Legal Reasons"),
   (500, "Internal Server Error"), (501, "Not Implemented"), (502, "Bad Gateway"),
   (503, "Service Unavailable"), (504, "Gateway Timeout"),
   (505, "HTTP Version Not Supported"), (506, "Variant Also Negotiates"),
   (507, "Insufficient Storage"), (508, "Loop Detected"), (510, "Not Extended"),
   (511, "Network Authentication Required")]

def statusText (status : Nat) : String :=
  toString status ++ " " ++ (phrases.lookup status).getD "<unknown status code>"

def base64Digits : String :=
  "ABCDEFGHIJKLMNOPQRSTUVWXYZabcdefghijklmnopqrstuvwxyz0123456789+/"

def base64Digit (n : Nat) : Char :=
  (base64Digits.toList[n % 64]?).getD '='

def base64 : List Nat → List Char
  | a :: b :: c :: rest =>
      base64Digit (a / 4) :: base64Digit (a % 4 * 16 + b / 16) ::
        base64Digit (b % 16 * 4 + c / 64) :: base64Digit c :: base64 rest
  | [a, b] =>
      [base64Digit (a / 4), base64Digit (a % 4 * 16 + b / 16), base64Digit (b % 16 * 4), '=']
  | [a] => [base64Digit (a / 4), base64Digit (a % 4 * 16), '=', '=']
  | [] => []

def basicAuthorization (username password : String) : Header :=
  ⟨"authorization",
    "Basic " ++ String.ofList (base64 (Text.utf8 (username ++ ":" ++ password)))⟩

/-- A body that begins like a JSON document is one; any other is a form. -/
def contentType (body : String) : String :=
  match body.toList.dropWhile Text.isBlank with
  | '\x7b' :: _ => "application/json"
  | '[' :: _ => "application/json"
  | _ => "application/x-www-form-urlencoded"

/-- The fields of a probe's request: its own, if they fit, the type of its body, its user. -/
def probeHeaders? [Table] (probe : HttpProbe) : Option (List Header) :=
  (Header.readAll? probe.headers).map fun own =>
    own ++ (if probe.body.isEmpty then [] else [⟨"content-type", contentType probe.body⟩]) ++
      (if probe.username.isEmpty && probe.password.isEmpty then []
       else [basicAuthorization probe.username probe.password])

def accepting (headers : List Header) : List Header :=
  if headers.any fun header => header.name == "accept" then headers
  else headers ++ [⟨"accept", "*/*"⟩]

inductive CallError where
  | method (written : String)
  | address
  | unsendable (url : Url)
  | unreached (url : Url)
  | redirects (url : Url)
deriving DecidableEq, Repr

def CallError.message : CallError → String
  | method written => "invalid HTTP method " ++ Text.quoted written
  | address => "builder error"
  | unsendable url => "builder error for url (" ++ url.text ++ ")"
  | unreached url => "error sending request for url (" ++ url.text ++ ")"
  | redirects url => "error following redirect for url (" ++ url.text ++ ")"

/-- The request of a probe; there is none if its fields do not fit.  A user and a password
in the address are sent as a field. -/
def probeCall? [Table] (hostname : String) (probe : HttpProbe) : Option (Except CallError Call) :=
  if !Header.isToken probe.method then some (.error (.method probe.requestMethod))
  else
    (probeHeaders? probe).map fun own =>
      match Url.read (probe.url hostname) with
      | none => .error .address
      | some found =>
          let login := found.credentials.bind (·.login?)
          let url := if login.isSome then { found with credentials := none } else found
          let headers := (login.map fun (user, password) => basicAuthorization user password).toList
          if url.isSendable then
            .ok ⟨probe.method, url, accepting (headers ++ own), probe.body⟩
          else .error (.unsendable url)

def privateNames : List String :=
  ["authorization", "cookie", "cookie2", "proxy-authorization", "www-authenticate"]

def bodyNames : List String :=
  ["transfer-encoding", "content-encoding", "content-type", "content-length"]

def without (names : List String) (headers : List Header) : List Header :=
  headers.filter fun header => !names.contains header.name

def Call.bare (call : Call) : Call :=
  { call with
    method := if call.method == "HEAD" then "HEAD" else "GET"
    headers := without bodyNames call.headers
    body := "" }

/-- The request at another address.  It says where it comes from, unless that was
secret and the address is not. -/
def Call.moved (call : Call) (url : Url) : Call :=
  let sameHost := call.url.host == url.host && call.url.portInUse == url.portInUse
  let kept := if sameHost then call.headers else without privateNames call.headers
  let headers :=
    if call.url.scheme == "https" && url.scheme == "http" then kept
    else without ["referer"] kept ++ [⟨"referer", { call.url with fragment := none }.text⟩]
  { call with url, headers }

/-- The request that an answer leads to, if it leads to one.  A result to be seen
elsewhere is asked for without the body, and so is what was posted to a place that
moved; all else is sent again as it was. -/
def Call.redirected? (call : Call) (reply : Reply) : Option Call := do
  let url ← call.url.join? (← reply.location)
  match reply.status with
  | 301 | 302 => some ((if call.method == "POST" then call.bare else call).moved url)
  | 303 => some (call.bare.moved url)
  | 307 | 308 => some (call.moved url)
  | _ => none

def fetch (network : Network) : Nat → Call → Except CallError Reply
  | left, call =>
      match network call with
      | none => .error (.unreached call.url)
      | some reply =>
          match call.redirected? reply, left with
          | none, _ => .ok reply
          | some _, 0 => .error (.redirects call.url)
          | some next, left + 1 =>
              if next.url.isSendable then fetch network left next
              else .error (.unsendable next.url)

def redirectLimit : Nat := 10

/-- What a probe finds over a network: only the status 200 will do.  A probe that has no
request breaks off. -/
def probeReach? [Table] (network : Network) (hostname : String) (probe : HttpProbe) :
    Option Reach :=
  (probeCall? hostname probe).map fun call =>
    match call >>= fetch network redirectLimit with
    | .error e => .unreachable e.message
    | .ok reply =>
        if reply.status = 200 then .reachable
        else .unreachable (probe.url hostname ++ " returned " ++ statusText reply.status)

structure PagerReply where
  status : String
  message : String
  incidentKey : String
deriving DecidableEq, Repr, Inhabited

def PagerReply.record : Decoder.Record PagerReply where
  title := "struct PagerDutyResponse"
  blank := ⟨"", "", ""⟩
  fields :=
    [ Decoder.field .defaulted "status" Decoder.string fun r status => { r with status },
      Decoder.field .defaulted "message" Decoder.string fun r message => { r with message },
      Decoder.field .defaulted "incident_key" Decoder.string
        fun r incidentKey => { r with incidentKey } ]

inductive PagerError where
  | unreached
  | unexpected
  | rejected (status : Nat) (message : String)
deriving DecidableEq, Repr

def PagerError.message : PagerError → String
  | unreached => "failed to reach PagerDuty"
  | unexpected => "unexpected PagerDuty response"
  | rejected status message =>
      "PagerDuty rejected event (" ++ statusText status ++ "): " ++ message

def pagerCall (url : Url) (page : Page) : Call :=
  ⟨"POST", url, [⟨"content-type", "application/json"⟩, ⟨"accept", "*/*"⟩], page.encode.text⟩

def submit (network : Network) (url : String) (page : Page) : Except PagerError String :=
  match (Url.read url).bind fun url => (fetch network redirectLimit (pagerCall url page)).toOption with
  | none => .error .unreached
  | some reply =>
      match Decoder.ofText PagerReply.record.read reply.body with
      | .error _ => .error .unexpected
      | .ok said =>
          if 200 ≤ reply.status && reply.status < 300 then .ok said.incidentKey
          else .error (.rejected reply.status said.message)

/-- The table of a program that runs. -/
instance : Table :=
  .listed 24576

end Http

end FleetMonitor
