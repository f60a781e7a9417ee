import FleetMonitor.Json.Basic

/-!
# JSON documents

What reading a text from left to right yields.  A text that breaks off still
has a document: everything before the break is there, and the break itself is
a `torn` node, the last one of the document.  Decoding such a document finds
whatever is wrong first, the shape of the part before the break or the break.

Some parts of a text can be passed over but not taken as values: numbers
beyond the doubles, strings with half of a surrogate pair, and lists or objects
nested too deeply.  They become `unreadable` nodes.
-/

set_option autoImplicit false

namespace FleetMonitor

/-- The outcome of reading a JSON text.  The key of a member is absent if it is
unreadable or the text breaks off before it. -/
inductive Document where
  | null
  | bool (b : Bool)
  | number (n : Number)
  | string (s : String)
  | array (items : List Document)
  | object (members : List (Option String × Document))
  | unreadable
  | torn
deriving Repr, Inhabited

namespace Document

mutual

def intact : Document → Bool
  | torn => false
  | array items => intactItems items
  | object members => intactMembers members
  | _ => true

def intactItems : List Document → Bool
  | [] => true
  | item :: rest => item.intact && intactItems rest

def intactMembers : List (Option String × Document) → Bool
  | [] => true
  | (_, value) :: rest => value.intact && intactMembers rest

end

mutual

/-- The value of a document, with members in the order of the text and keys as
often as they occur; none if any part of it cannot be taken as a value. -/
def value? : Document → Option Json
  | null => some .null
  | bool b => some (.bool b)
  | number n => some (.number n)
  | string s => some (.string s)
  | array items => (itemValues? items).map .array
  | object members => (memberValues? members).map .object
  | unreadable => none
  | torn => none

def itemValues? : List Document → Option (List Json)
  | [] => some []
  | item :: rest =>
      match item.value?, itemValues? rest with
      | some value, some values => some (value :: values)
      | _, _ => none

def memberValues? : List (Option String × Document) → Option (List (String × Json))
  | [] => some []
  | (key, item) :: rest =>
      match key, item.value?, memberValues? rest with
      | some key, some value, some values => some ((key, value) :: values)
      | _, _, _ => none

end

mutual

def ofJson : Json → Document
  | .null => null
  | .bool b => bool b
  | .number n => number n
  | .string s => string s
  | .array items => array (ofItems items)
  | .object members => object (ofMembers members)

def ofItems : List Json → List Document
  | [] => []
  | item :: rest => ofJson item :: ofItems rest

def ofMembers : List (String × Json) → List (Option String × Document)
  | [] => []
  | (key, item) :: rest => (some key, ofJson item) :: ofMembers rest

end

mutual

/-- A value and its document stand for each other. -/
theorem value?_ofJson (json : Json) : (ofJson json).value? = some json := by
  cases json with
  | array items => simp [ofJson, value?, itemValues?_ofItems items]
  | object members => simp [ofJson, value?, memberValues?_ofMembers members]
  | _ => simp [ofJson, value?]

theorem itemValues?_ofItems (items : List Json) :
    itemValues? (ofItems items) = some items := by
  cases items with
  | nil => simp [ofItems, itemValues?]
  | cons item rest =>
      simp [ofItems, itemValues?, value?_ofJson item, itemValues?_ofItems rest]

theorem memberValues?_ofMembers (members : List (String × Json)) :
    memberValues? (ofMembers members) = some members := by
  match members with
  | [] => simp [ofMembers, memberValues?]
  | (key, item) :: rest =>
      simp [ofMembers, memberValues?, value?_ofJson item, memberValues?_ofMembers rest]

end

end Document

end FleetMonitor
