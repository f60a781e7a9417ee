import FleetMonitor.DomainName
import FleetMonitor.Text.Alphanumeric
import FleetMonitor.Text.Blank

/-!
# Mail addresses

`user@domain`, alone or between angle brackets after a name.  A reader takes the
longest piece of its kind and never takes it back.  Gaps of blanks and tabs around
words, users, domains and brackets do not count.
-/

set_option autoImplicit false

namespace FleetMonitor

structure MailAddress where
  name : List String
  user : String
  domain : String
deriving DecidableEq, Repr

namespace MailAddress

abbrev Reads (α : Type) := List Char → Option (α × List Char)

def isGap (c : Char) : Bool :=
  c == ' ' || c == '\t'

def isWide (c : Char) : Bool :=
  '\x80' ≤ c

def isAtomSign (c : Char) : Bool :=
  "!#$%&'*+-/=?^_\x60\x7b|\x7d~".toList.contains c

def isAtomChar (c : Char) : Bool :=
  c.isAlphanum || isAtomSign c || isWide c

def isBareControl (c : Char) : Bool :=
  let n := c.toNat
  (1 ≤ n && n ≤ 8) || n == 11 || n == 12 || (14 ≤ n && n ≤ 31) || n == 127

def isQuotable (c : Char) : Bool :=
  let n := c.toNat
  n == 33 || (35 ≤ n && n ≤ 91) || (93 ≤ n && n ≤ 126) || isBareControl c || isWide c

def isEscapable (c : Char) : Bool :=
  let n := c.toNat
  (1 ≤ n && n ≤ 9) || n == 11 || n == 12 || (14 ≤ n && n ≤ 127)

/-- A gap: at most its first character counts. -/
def gap (cs : List Char) : List Char × List Char :=
  ((cs.takeWhile isGap).take 1, cs.dropWhile isGap)

def dropGap (cs : List Char) : List Char :=
  cs.dropWhile isGap

def spaced {α : Type} (reader : Reads α) : Reads α := fun cs =>
  (reader (dropGap cs)).map fun (found, rest) => (found, dropGap rest)

def many {α : Type} (reader : Reads α) : Nat → List Char → List α × List Char
  | 0, cs => ([], cs)
  | fuel + 1, cs =>
      match reader cs with
      | none => ([], cs)
      | some (found, rest) =>
          let (more, rest) := many reader fuel rest
          (found :: more, rest)

def atomText : Reads (List Char) := fun cs =>
  match cs.takeWhile isAtomChar with
  | [] => none
  | taken => some (taken, cs.dropWhile isAtomChar)

def dottedAtoms : Reads (List Char) := fun cs => do
  let (first, rest) ← atomText cs
  let dotted : Reads (List Char) := fun cs =>
    match cs with
    | '.' :: rest => (atomText rest).map fun (taken, rest) => ('.' :: taken, rest)
    | _ => none
  let (more, rest) := many dotted rest.length rest
  some (first ++ more.flatten, rest)

def quotedChar : Reads (List Char)
  | '\\' :: c :: rest => if isEscapable c then some ([c], rest) else none
  | c :: rest => if isQuotable c then some ([c], rest) else none
  | [] => none

def quotedPiece : Reads (List Char) := fun cs =>
  let (before, rest) := gap cs
  (quotedChar rest).map fun (taken, rest) => (before ++ taken, rest)

def quotedText : Reads (List Char)
  | '"' :: rest =>
      let (taken, rest) := many quotedPiece rest.length rest
      match dropGap rest with
      | '"' :: rest => some (taken.flatten, rest)
      | _ => none
  | _ => none

def bare : Reads (List Char × List Char) := fun cs => do
  let (user, rest) ← spaced (fun cs => dottedAtoms cs <|> quotedText cs) cs
  match rest with
  | '@' :: rest =>
      let (domain, rest) ← spaced dottedAtoms rest
      some ((user, domain), rest)
  | _ => none

def word : Reads (List Char) :=
  spaced fun cs => quotedText cs <|> atomText cs

/-- A name in front of an address: a word, then words and dots. -/
def phrase : Reads (List (List Char)) := fun cs => do
  let (first, rest) ← word cs
  let dot : Reads (List Char) := fun cs =>
    match cs with
    | '.' :: rest => some (['.'], rest)
    | _ => none
  let (more, rest) := many (fun cs => word cs <|> dot cs) rest.length rest
  some (first :: more, rest)

def angled : Reads (List Char × List Char) :=
  spaced fun cs =>
    match cs with
    | '<' :: rest => do
        let (address, rest) ← bare rest
        match rest with
        | '>' :: rest => some (address, rest)
        | _ => none
    | _ => none

def named : Reads (List (List Char) × List Char × List Char) := fun cs =>
  let (name, rest) := (phrase cs).getD ([], cs)
  (angled rest).map fun (address, rest) => ((name, address), rest)

/-- An address with or without a name, as its parts.  Blanks at both ends do not
count. -/
def parts (cs : List Char) : Option (List (List Char) × List Char × List Char) :=
  let cs := cs.dropWhile Text.isBlank
  let found := named cs <|> (bare cs).map fun (address, rest) => (([], address), rest)
  found.bind fun (parts, rest) => if rest.all Text.isBlank then some parts else none

def weight (cs : List Char) : Nat :=
  (cs.map fun c => c.utf8Size).foldl (· + ·) 0

/-- Code points whose two bytes would encode a character by themselves. -/
def isPaired (c : Char) : Bool :=
  let n := c.toNat
  0xC280 ≤ n && n ≤ 0xDFBF && 0x80 ≤ n % 256 && n % 256 ≤ 0xBF

def isAllowed (c : Char) : Bool :=
  Text.isAlphanumeric c || isAtomSign c || isPaired c

def isAllowedQuoted (c : Char) : Bool :=
  isGap c || (c != '"' && c != '\\' && '!' ≤ c && c ≤ '~') || isPaired c

def isQuotedUser : List Char → Bool
  | [] => true
  | '\\' :: c :: rest => '!' ≤ c && c ≤ '~' && isQuotedUser rest
  | c :: rest => isAllowedQuoted c && isQuotedUser rest

/-- A user has at most 64 bytes and consists of atoms or is quoted. -/
def isUser (cs : List Char) : Bool :=
  if cs.isEmpty || 64 < weight cs then false
  else if cs.head? == some '"' && cs.getLast? == some '"' then
    2 < cs.length && isQuotedUser (cs.drop 1).dropLast
  else
    (DomainName.labels cs).all fun label => !label.isEmpty && label.all isAllowed

/-- A label of a domain has at most 63 bytes and a letter or a digit at both ends. -/
def isLabel (cs : List Char) : Bool :=
  weight cs ≤ 63 && cs.all isAllowed &&
    cs.head?.any Text.isAlphanumeric && cs.getLast?.any Text.isAlphanumeric

/-- A domain has at most 254 bytes and consists of labels. -/
def isPlainDomain (cs : List Char) : Bool :=
  weight cs ≤ 254 && (DomainName.labels cs).all isLabel

/-- A domain as it stands, or the name in ASCII that it means. -/
def isDomain (cs : List Char) : Bool :=
  isPlainDomain cs || (DomainName.ascii? cs).any isPlainDomain

def read (s : String) : Option MailAddress := do
  let (name, user, domain) ← parts s.toList
  if isUser user && isDomain domain then
    some ⟨name.map String.ofList, String.ofList user, String.ofList domain⟩
  else none

end MailAddress

inductive RelayError where
  | sender (address : String)
  | recipient (address : String)
  | unsent (address : String)
deriving DecidableEq, Repr

def RelayError.message : RelayError → String
  | sender address => "invalid sender address " ++ address
  | recipient address => "invalid recipient " ++ address
  | unsent address => "failed to send email to " ++ address

namespace MailAddress

def sender? (address : String) : Except RelayError MailAddress :=
  match read address with
  | some found => .ok found
  | none => .error (.sender address)

def recipient? (address : String) : Except RelayError MailAddress :=
  match read address with
  | some found => .ok found
  | none => .error (.recipient address)

end MailAddress

end FleetMonitor
