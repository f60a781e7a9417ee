import FleetMonitor.Http.UrlPath
import FleetMonitor.Text.Blank

/-!
# Addresses of the web

Reads addresses the way browsers do and writes them in their normal form: scheme
and host in lower case, no default port, no steps in the path.
-/

set_option autoImplicit false

namespace FleetMonitor

namespace Http

structure Credentials where
  user : String
  password : Option String
deriving DecidableEq, Repr

/-- An address.  Without a host the path is all there is. -/
structure Url where
  scheme : String
  credentials : Option Credentials
  host : Option String
  port : Option Nat
  path : String
  query : Option String
  fragment : Option String
deriving DecidableEq, Repr

namespace Credentials

def plain? (s : String) : Option String :=
  let bytes := unescape s.toList
  let found := Text.ofUtf8 bytes
  if Text.utf8 found = bytes then some found else none

def login? (credentials : Credentials) : Option (String × String) := do
  let user ← plain? credentials.user
  let password := credentials.password.bind plain?
  if user.isEmpty && password.isNone then none else some (user, password.getD "")

def text (credentials : Credentials) : String :=
  credentials.user ++ ((credentials.password.map (":" ++ ·)).getD "") ++ "@"

def escapedPart (cs : List Char) : String :=
  String.ofList (escaped " \"#<>?\x60\x7b\x7d/:;=@[\\]^|" cs)

/-- Reads what stands before an at sign: a user and, after a colon, a password. -/
def read (cs : List Char) : Option Credentials :=
  let (user, rest) := UrlPath.splitBefore (· == ':') cs
  let password := rest.drop 1
  if user.isEmpty && password.isEmpty then none
  else some ⟨escapedPart user, if password.isEmpty then none else some (escapedPart password)⟩

end Credentials

namespace Url

open UrlPath (splitBefore isSlash)

/-- The port that a scheme implies; schemes that have one name a host. -/
def defaultPort : String → Option Nat
  | "http" => some 80
  | "https" => some 443
  | "ws" => some 80
  | "wss" => some 443
  | "ftp" => some 21
  | _ => none

/-- The schemes whose addresses are read the way browsers do. -/
def isSpecial (scheme : String) : Bool :=
  scheme == "file" || (defaultPort scheme).isSome

def isWeb (url : Url) : Bool :=
  url.scheme == "http" || url.scheme == "https"

def hasHost (url : Url) : Bool :=
  url.host.any fun host => !host.isEmpty

def portInUse (url : Url) : Option Nat :=
  url.port <|> defaultPort url.scheme

def text (url : Url) : String :=
  url.scheme ++ ":" ++
    (match url.host with
     | some host => "//" ++ (url.credentials.map (·.text)).getD "" ++ host
     | none => if url.path.startsWith "//" then "/." else "") ++
    (match url.port with
     | some port => ":" ++ toString port
     | none => "") ++
    url.path ++
    (match url.query with
     | some query => "?" ++ query
     | none => "") ++
    (match url.fragment with
     | some fragment => "#" ++ fragment
     | none => "")

/-- Longer addresses are not sent, in bytes. -/
def lengthLimit : Nat := 65534

/-- A request can be sent to the address: it is of the web, and neither it nor its host
is out of bounds. -/
def isSendable (url : Url) : Bool :=
  url.hasHost && url.isWeb && url.text.utf8ByteSize ≤ lengthLimit &&
    url.host.all fun host => !host.toList.any "\"\x60\x7b\x7d".toList.contains

def port? (cs : List Char) : Option (Option Nat) :=
  if cs.isEmpty then some none
  else if cs.all Char.isDigit then
    let n := cs.foldl (fun n c => n * 10 + (c.toNat - 48)) 0
    if n < 65536 then some (some n) else none
  else none

def host? (special : Bool) (cs : List Char) : Option (List Char) :=
  match cs with
  | '[' :: inner =>
      if inner.getLast? == some ']' then
        (HostName.longGroups? inner.dropLast).map fun groups =>
          '[' :: HostName.longText groups ++ [']']
      else none
  | _ => if special then HostName.read? cs else HostName.verbatim? cs

structure Authority where
  credentials : Option Credentials
  host : List Char
  port : Option Nat
  /-- What stands after the port and belongs to the path. -/
  tail : List Char

/-- The host and what follows it: the first colon that is not in brackets. -/
def splitHost : Bool → List Char → List Char × List Char
  | _, [] => ([], [])
  | inBrackets, c :: rest =>
      if c == ':' && !inBrackets then ([], c :: rest)
      else
        let (host, after) :=
          splitHost (if c == '[' then true else if c == ']' then false else inBrackets) rest
        (c :: host, after)

/-- Reads what stands before the path.  Without a host there are no credentials and no
port, nor may a lone at sign stand before a path. -/
def authority? (scheme : String) (ends : Bool) (cs : List Char) : Option Authority := do
  let place := (cs.reverse.takeWhile (· != '@')).reverse
  let before := cs.take (cs.length - place.length)
  let credentials := Credentials.read before.dropLast
  let (name, rest) := splitHost false place
  let host ← host? (isSpecial scheme) name
  if host.isEmpty &&
      (credentials.isSome || !rest.isEmpty || (before == ['@'] && !ends)) then none
  else
    let (digits, tail) := splitBefore (· == '\\') (rest.drop 1)
    let port ← port? digits
    some ⟨credentials, host, if port == defaultPort scheme then none else port, tail⟩

def tails (special : Bool) (cs : List Char) : Option String × Option String :=
  let (before, mark) := splitBefore (· == '#') cs
  let query :=
    match before with
    | '?' :: rest =>
        some (String.ofList (escaped (if special then " \"#<>'" else " \"#<>") rest))
    | _ => none
  let fragment :=
    match mark with
    | '#' :: rest => some (String.ofList (escaped " \"<>\x60" rest))
    | _ => none
  (query, fragment)

def splitPath (cs : List Char) : List Char × List Char :=
  splitBefore (fun c => c == '?' || c == '#') cs

/-- The characters of an address that count. -/
def counted (s : String) : List Char :=
  (Text.stripWhile (fun c => c ≤ ' ') s.toList).filter
    fun c => c != '\t' && c != '\n' && c != '\r'

def scheme? (cs : List Char) : Option (String × List Char) :=
  let (name, rest) := splitBefore (· == ':') cs
  let wellFormed :=
    name.head?.any Char.isAlpha &&
      name.all fun c => c.isAlphanum || c == '+' || c == '-' || c == '.'
  if wellFormed && !rest.isEmpty then some (String.ofList (name.map Char.toLower), rest.drop 1)
  else none

def located? (scheme : String) (cs : List Char) : Option Url := do
  let special := isSpecial scheme
  let (place, after) := splitBefore (fun c => isSlash special c || c == '?' || c == '#') cs
  let (path, after) := splitPath after
  let found ← authority? scheme (path.isEmpty && after.isEmpty) place
  let (query, fragment) := tails special after
  some ⟨scheme, found.credentials, some (String.ofList found.host), found.port,
    UrlPath.normal special (found.tail ++ path), query, fragment⟩

def ofFile (host : List Char) (gone : List (List Char)) (after : List Char) : Url :=
  let (query, fragment) := tails true after
  ⟨"file", none, some (String.ofList host), none, UrlPath.fileText gone, query, fragment⟩

/-- The address of a file after two slashes.  A drive is no host, and takes the place of
one. -/
def locatedFile? (cs : List Char) : Option Url := do
  let (place, _) := splitBefore (fun c => isSlash true c || c == '?' || c == '#') cs
  if UrlPath.isDrive place then
    let (path, after) := splitPath cs
    some (ofFile [] (UrlPath.walk true [] (UrlPath.pieces true path)) after)
  else
    let (path, after) := splitPath (cs.drop place.length)
    let host ← if place.isEmpty then some [] else host? true place
    if host.isEmpty || host == "localhost".toList then
      some (ofFile [] (UrlPath.walk true [] (UrlPath.pieces true path)) after)
    else
      let gone := UrlPath.walk true [] (UrlPath.piecesFromRoot true path)
      some (ofFile (if gone.getLast?.any UrlPath.isDrive then [] else host) gone after)

def file? (cs : List Char) : Option Url :=
  let inPlace : Url :=
    let (path, after) := splitPath cs
    ofFile [] (UrlPath.walk true [] (UrlPath.piecesFromRoot true path)) after
  match cs with
  | a :: b :: after =>
      if isSlash true a && isSlash true b then locatedFile? after else some inPlace
  | _ => some inPlace

/-- The address without a host: a path from the root, or a text of its own. -/
def unlocated (scheme : String) (cs : List Char) : Url :=
  let (path, after) := splitPath cs
  let (query, fragment) := tails false after
  let text :=
    if path.head? == some '/' then UrlPath.normal false path
    else String.ofList (escaped "" path)
  ⟨scheme, none, none, none, text, query, fragment⟩

def ofScheme? (scheme : String) (rest : List Char) : Option Url :=
  if scheme == "file" then file? rest
  else if isSpecial scheme then located? scheme (rest.dropWhile (isSlash true))
  else
    match rest with
    | '/' :: '/' :: after => located? scheme after
    | _ => some (unlocated scheme rest)

def read (s : String) : Option Url :=
  (scheme? (counted s)).bind fun (scheme, rest) => ofScheme? scheme rest

def beside (base : Url) (special : Bool) (path : List Char) : String :=
  let kept := (base.path.toList.reverse.dropWhile (· != '/')).reverse
  UrlPath.normal special (kept ++ path)

/-- The address of a text as seen from another one, of which it leaves out what is the
same. -/
def relative? (base : Url) (cs : List Char) : Option Url :=
  let special := isSpecial base.scheme
  let (path, after) := splitPath cs
  let (query, fragment) := tails special after
  match path with
  | [] => some { base with query := if query.isSome then query else base.query, fragment }
  | '/' :: '/' :: place => located? base.scheme (place ++ after)
  | c :: rest =>
      if !isSlash special c then some { base with path := beside base special path, query, fragment }
      else if rest.head?.any (isSlash special) then
        located? base.scheme (rest.dropWhile (isSlash special) ++ after)
      else some { base with path := UrlPath.normal special path, query, fragment }

/-- Reads an address as seen from another one.  The scheme may be left out, or stand
alone before what is seen. -/
def join? (base : Url) (s : String) : Option Url :=
  let cs := counted s
  match scheme? cs with
  | none => relative? base cs
  | some (scheme, rest) =>
      if scheme == base.scheme && isSpecial scheme &&
          (rest.takeWhile (isSlash true)).length < 2 then
        relative? base rest
      else ofScheme? scheme rest

end Url

end Http

end FleetMonitor
