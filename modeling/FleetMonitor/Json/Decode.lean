import FleetMonitor.Json.Reader
import FleetMonitor.Text.Quoted

/-!
# Decoding documents

Typed values from documents.  A record is described by its list of fields; the
description serves both written forms, the object with named members and the
list with the fields in order.  Errors are causes, found in the order of the
text, and `DecodeError.message` words them.
-/

set_option autoImplicit false

namespace FleetMonitor

inductive Found where
  | null
  | flag (b : Bool)
  | integer (n : Int)
  | real (x : Float)
  | text (s : String)
  | sequence
  | map
deriving Repr

inductive DecodeError where
  | malformed
  | overlong
  | wrongType (found : Found) (expected : String)
  | wrongValue (found : Found) (expected : String)
  | wrongLength (length : Nat) (expected : String)
  | missingField (name : String)
  | duplicateField (name : String)
  | unknownVariant (name : String) (known : List String)
  | refused (reason : String)
  /-- A text that names a number which nothing can hold. -/
  | beyondRange
deriving Repr

def backquoted (s : String) : String :=
  "\x60" ++ s ++ "\x60"

def Found.description : Found → String
  | null => "null"
  | flag b => "boolean " ++ backquoted (if b then "true" else "false")
  | integer n => "integer " ++ backquoted (toString n)
  | real x => "floating point " ++ backquoted (Number.float x).text
  | text s => "string " ++ Text.quoted s
  | sequence => "sequence"
  | map => "map"

namespace DecodeError

def expectedNames : List String → String
  | [] => "there are no variants"
  | [a] => "expected " ++ backquoted a
  | [a, b] => "expected " ++ backquoted a ++ " or " ++ backquoted b
  | names => "expected one of " ++ ", ".intercalate (names.map backquoted)

/-- The wording of a cause; a malformed text and a number beyond all bounds
have none of their own. -/
def message : DecodeError → String
  | malformed => ""
  | overlong => "trailing characters"
  | beyondRange => ""
  | wrongType found expected =>
      "invalid type: " ++ found.description ++ ", expected " ++ expected
  | wrongValue found expected =>
      "invalid value: " ++ found.description ++ ", expected " ++ expected
  | wrongLength length expected =>
      "invalid length " ++ toString length ++ ", expected " ++ expected
  | missingField name => "missing field " ++ backquoted name
  | duplicateField name => "duplicate field " ++ backquoted name
  | unknownVariant name known =>
      "unknown variant " ++ backquoted name ++ ", " ++ expectedNames known
  | refused reason => reason

end DecodeError

/-- Where a document comes from.  A `text` ends where its list of fields ends;
a `tree` is a value given as such; a `buffer` is the remainder of an object
some of whose members were taken out before. -/
inductive Source where
  | text
  | tree
  | buffer
deriving DecidableEq, Repr

abbrev Decoder (α : Type) := Source → Document → Except DecodeError α

namespace Decoder

def mismatch (document : Document) (expected : String) : DecodeError :=
  match document with
  | .null => .wrongType .null expected
  | .bool b => .wrongType (.flag b) expected
  | .number (.whole n) => .wrongType (.integer n) expected
  | .number (.float x) => .wrongType (.real x) expected
  | .string s => .wrongType (.text s) expected
  | .array _ => .wrongType .sequence expected
  | .object _ => .wrongType .map expected
  | .unreadable => .malformed
  | .torn => .malformed

def string : Decoder String
  | _, .string s => .ok s
  | _, document => .error (mismatch document "a string")

def path : Decoder String
  | _, .string s => .ok s
  | _, document => .error (mismatch document "path string")

def bool : Decoder Bool
  | _, .bool b => .ok b
  | _, document => .error (mismatch document "a boolean")

/-- A double; whole numbers are taken to the nearest one. -/
def float : Decoder Float
  | _, .number n => .ok n.toFloat
  | _, document => .error (mismatch document "f64")

def integer (type : String) (low high : Int) : Decoder Int
  | _, .number (.whole n) =>
      if low ≤ n ∧ n ≤ high then .ok n else .error (.wrongValue (.integer n) type)
  | _, document => .error (mismatch document type)

def int64 : Decoder Int :=
  integer "i64" (-0x8000000000000000) 0x7fffffffffffffff

def natural (type : String) (bits : Nat) : Decoder Nat :=
  fun source document => (integer type 0 (Nat.pow 2 bits - 1) source document).map Int.toNat

def count : Decoder Nat :=
  natural "usize" 64

def nullable {α : Type} (decode : Decoder α) : Decoder (Option α)
  | _, .null => .ok none
  | source, document => (decode source document).map some

def nullDefault {α : Type} (default : α) (decode : Decoder α) : Decoder α :=
  fun source document => (nullable decode source document).map (·.getD default)

def list {α : Type} (decode : Decoder α) : Decoder (List α)
  | source, .array items => items.mapM (decode source)
  | _, document => .error (mismatch document "a sequence")

/-- An object with texts as values; the last value of a key wins. -/
def textMap : Decoder (List (String × String))
  | source, .object members => do
      let entries ← members.mapM fun (key, value) =>
        match key with
        | none => .error .malformed
        | some key => do pure (key, ← string source value)
      pure (Json.sortMembers entries)
  | _, document => .error (mismatch document "a map")

/-- A value among several, by name; the names of one value are its spellings. -/
structure Choice (α : Type) where
  names : List String
  value : α

def choose {α : Type} (choices : List (Choice α)) (name : String) : Except DecodeError α :=
  match choices.find? (fun choice => choice.names.contains name) with
  | some choice => .ok choice.value
  | none => .error (.unknownVariant name (choices.flatMap (·.names)))

/-- A value by name: the name itself, or an object whose only key is the name
and whose value is `null`. -/
def named {α : Type} (choices : List (Choice α)) : Decoder α
  | _, .string name => choose choices name
  | source, .object [(some name, value)] => do
      let chosen ← choose choices name
      match value with
      | .null => pure chosen
      | .object [] =>
          if source = .buffer then pure chosen else throw (mismatch value "unit")
      | other => throw (mismatch other "unit")
  | .text, _ => .error .malformed
  | _, .object _ => .error (.wrongValue .map "map with a single key")
  | _, document => .error (mismatch document "string or map")

/-- Whether a field may be absent: never; from objects only; always. -/
inductive Presence where
  | required
  | optional
  | defaulted
deriving DecidableEq, Repr

/-- A field of a record: its name, whether it may be absent, and how its value
is put into the record. -/
structure Field (α : Type) where
  name : String
  presence : Presence
  put : Source → Document → α → Except DecodeError α

def field {α β : Type} (presence : Presence) (name : String) (decode : Decoder β)
    (set : α → β → α) : Field α :=
  ⟨name, presence, fun source document record =>
    (decode source document).map (set record)⟩

/-- The description of a record.  `blank` holds the defaults of the fields that
have one; the other fields of it are always overwritten. -/
structure Record (α : Type) where
  title : String
  blank : α
  fields : List (Field α)

namespace Record

variable {α : Type}

def size (record : Record α) : String :=
  record.title ++ " with " ++ toString record.fields.length ++
    (if record.fields.length = 1 then " element" else " elements")

/-- Reads members in order: known fields once each, unknown ones passed over.
`seen` lists the known fields that occurred. -/
def readMembers (record : Record α) (source : Source) :
    List (Option String × Document) → List String → α → Except DecodeError (List String × α)
  | [], seen, acc => .ok (seen, acc)
  | (none, _) :: _, _, _ => .error .malformed
  | (some key, value) :: rest, seen, acc =>
      match record.fields.find? (fun field => field.name == key) with
      | none =>
          if value.intact then readMembers record source rest seen acc
          else .error .malformed
      | some field =>
          if seen.contains key then .error (.duplicateField key)
          else do
            let acc ← field.put source value acc
            readMembers record source rest (key :: seen) acc

def missing? (record : Record α) (seen : List String) : Option String :=
  (record.fields.find? fun field =>
    field.presence == .required && !seen.contains field.name).map (·.name)

/-- Reads fields by position; `index` counts those already read.  What is left
of the list is answered with the record. -/
def readItems (record : Record α) (source : Source) :
    List (Field α) → Nat → List Document → α → Except DecodeError (α × List Document)
  | [], _, items, acc => .ok (acc, items)
  | field :: fields, index, [], acc =>
      if field.presence = .defaulted then readItems record source fields (index + 1) [] acc
      else .error (.wrongLength index record.size)
  | field :: fields, index, item :: items, acc => do
      let acc ← field.put source item acc
      readItems record source fields (index + 1) items acc

def surplus (source : Source) (taken left : Nat) : DecodeError :=
  match source with
  | .text => .overlong
  | .tree => .wrongLength (taken + left) "fewer elements in array"
  | .buffer =>
      .wrongLength (taken + left)
        (toString taken ++ (if taken = 1 then " element in sequence" else " elements in sequence"))

def read (record : Record α) : Decoder α
  | source, .object members => do
      let (seen, value) ← record.readMembers source members [] record.blank
      match record.missing? seen with
      | some name => throw (.missingField name)
      | none => pure value
  | source, .array items => do
      let (value, left) ← record.readItems source record.fields 0 items record.blank
      if left.isEmpty then pure value
      else throw (surplus source (items.length - left.length) left.length)
  | _, document => .error (mismatch document record.title)

end Record

def empty {α : Type} (value : α) : Decoder α
  | source, .array items =>
      if items.isEmpty then .ok value else .error (Record.surplus source 0 items.length)
  | _, _ => .ok value

/-- The description of a value whose variant is named by one of its members.
Each variant reads what remains without that member. -/
structure Tagged (α : Type) where
  title : String
  tag : String
  variants : List (Choice (Decoder α))

namespace Tagged

variable {α : Type}

/-- The variant that a tag names; in a buffer it may be the variant's index. -/
def variant (tagged : Tagged α) : Source → Document → Except DecodeError (Decoder α)
  | _, .string name => choose tagged.variants name
  | .buffer, .number (.whole (.ofNat n)) =>
      match tagged.variants[n]? with
      | some choice => .ok choice.value
      | none =>
          .error (.wrongValue (.integer n)
            ("variant index 0 <= i < " ++ toString tagged.variants.length))
  | _, document => .error (mismatch document "variant identifier")

def readMembers (tagged : Tagged α) (source : Source) :
    List (Option String × Document) → Option (Decoder α) → List (Option String × Document) →
      Except DecodeError (Option (Decoder α) × List (Option String × Document))
  | [], variant, others => .ok (variant, others.reverse)
  | (none, _) :: _, _, _ => .error .malformed
  | (some key, value) :: rest, variant, others =>
      if key = tagged.tag then
        if variant.isSome then .error (.duplicateField tagged.tag)
        else do
          let chosen ← tagged.variant source value
          readMembers tagged source rest (some chosen) others
      else if value.value?.isSome then
        readMembers tagged source rest variant ((some key, value) :: others)
      else .error .malformed

/-- Reads a tagged value: an object with the tag among its members, or a list
with the tag in front. -/
def read (tagged : Tagged α) : Decoder α
  | source, .object members => do
      let (variant, others) ← tagged.readMembers source members none []
      match variant with
      | none => throw (.missingField tagged.tag)
      | some decode => decode .buffer (.object others)
  | _, .array [] => .error (.missingField tagged.tag)
  | source, .array (tag :: rest) => do
      let decode ← tagged.variant source tag
      if rest.all (fun item => item.value?.isSome) then decode .buffer (.array rest)
      else throw .malformed
  | _, document => .error (mismatch document tagged.title)

end Tagged

def ofText {α : Type} (decode : Decoder α) (s : String) : Except DecodeError α := do
  let (document, clean) := Document.read s
  let value ← decode .text document
  if clean then pure value else throw .malformed

/-- Decodes a value given as such; repeated keys and the order of members are
gone from it. -/
def ofJson {α : Type} (decode : Decoder α) (json : Json) : Except DecodeError α :=
  decode .tree (Document.ofJson json.sorted)

end Decoder

end FleetMonitor
