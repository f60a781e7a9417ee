import FleetMonitor.Text.Blank

/-!
# Header fields

Fields are written as `name=value` between commas and line feeds.  What is no
field is passed over.
-/

set_option autoImplicit false

namespace FleetMonitor

namespace Http

/-- A header field; the name is in lower case. -/
structure Header where
  name : String
  value : String
deriving DecidableEq, Repr, Inhabited

namespace Header

def isTokenChar (c : Char) : Bool :=
  c.isAlphanum || "!#$%&'*+-.^_\x60|~".toList.contains c

def isToken (s : String) : Bool :=
  !s.isEmpty && s.toList.all isTokenChar

def longestName : Nat := 65535

def isName (name : String) : Bool :=
  isToken name && decide (name.length ≤ longestName)

def isValueChar (c : Char) : Bool :=
  c == '\t' || (' ' ≤ c && c != '\x7f')

def isSeparator (c : Char) : Bool :=
  c == '\n' || c == ','

def cut? (c : Char) (cs : List Char) : Option (List Char × List Char) :=
  match cs.span (· != c) with
  | (before, _ :: after) => some (before, after)
  | (_, []) => none

/-- The field of a piece.  Blanks around name and value do not count. -/
def ofPiece (piece : List Char) : Option Header := do
  let (before, after) ← cut? '=' piece
  let name := Text.trim (String.ofList before)
  let value := Text.trim (String.ofList after)
  if isName name && value.toList.all isValueChar then
    some ⟨String.ofList (name.toList.map Char.toLower), value⟩
  else none

def ofText (raw : String) : List Header :=
  (raw.toList.splitOnP isSeparator).filterMap ofPiece

def values (headers : List Header) (name : String) : List String :=
  (headers.filter fun header => header.name == name).map (·.value)

end Header

/-- A table in which a request keeps its fields.  It takes them one by one and may be full. -/
class Table where
  State : Type
  empty : State
  append? : State → Header → Option State
  fields : State → List Header

namespace Table

/-- A field that is taken comes behind the others of its name, and the values of all other
names stay as they were. -/
class Lawful (table : Table) : Prop where
  fields_empty : table.fields table.empty = []
  values_append {state later : table.State} {header : Header}
    (taken : table.append? state header = some later) (name : String) :
    Header.values (table.fields later) name =
      Header.values (table.fields state) name ++ Header.values [header] name

def keep? [Table] (headers : List Header) : Option State :=
  headers.foldlM append? empty

/-- What is in a table that is a list, the latest field first, and the names in it. -/
structure Listed where
  names : List String
  latestFirst : List Header
deriving Repr

/-- A table that is a list, with room for some number of different names.  Room is made before
a field is looked at, so once all of it is taken no field is, be its name new or not. -/
@[reducible] def listed (room : Nat) : Table where
  State := Listed
  empty := ⟨[], []⟩
  append? kept header :=
    if kept.names.length < room then
      some ⟨kept.names.insert header.name, header :: kept.latestFirst⟩
    else none
  fields kept := kept.latestFirst.reverse

instance (room : Nat) : Lawful (listed room) where
  fields_empty := rfl
  values_append {state later header} taken name := by
    obtain ⟨-, added⟩ := Option.ite_none_right_eq_some.mp taken
    cases added
    change Header.values (header :: Listed.latestFirst state).reverse name =
      Header.values (Listed.latestFirst state).reverse name ++ _
    simp [Header.values]

end Table

/-- The fields of a text as a request has them; reading breaks off where its table is full. -/
def Header.readAll? [Table] (raw : String) : Option (List Header) :=
  (Table.keep? (ofText raw)).map Table.fields

end Http

end FleetMonitor
