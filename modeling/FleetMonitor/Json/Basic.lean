import FleetMonitor.Decimal.Reading
import FleetMonitor.Text.Hexadecimal

/-!
# JSON values

Values of JSON with the order of object members kept, and their compact text.
-/

set_option autoImplicit false

namespace FleetMonitor

/-- A number is whole, within the range of 64-bit integers of either sign, or a
double. -/
inductive Number where
  | whole (n : Int)
  | float (x : Float)
deriving Repr, Inhabited

inductive Json where
  | null
  | bool (b : Bool)
  | number (n : Number)
  | string (s : String)
  | array (items : List Json)
  | object (members : List (String × Json))
deriving Repr, Inhabited

namespace Number

def toFloat : Number → Float
  | whole n => Float.ofInt n
  | float x => x

/-- The text of a number; a double that is not finite has none. -/
def text : Number → String
  | whole n => toString n
  | float x => if x.isNaN || x.isInf then "null" else Decimal.exact x

end Number

namespace Json

def int (n : Int) : Json :=
  number (.whole n)

def nat (n : Nat) : Json :=
  number (.whole n)

def float (x : Float) : Json :=
  number (.float x)

def strings (texts : List String) : Json :=
  array (texts.map string)

def orNull {α : Type} (encode : α → Json) : Option α → Json
  | none => null
  | some a => encode a

def escaped (c : Char) : List Char :=
  if c = '"' then ['\\', '"']
  else if c = '\\' then ['\\', '\\']
  else if c = '\x08' then ['\\', 'b']
  else if c = '\x0c' then ['\\', 'f']
  else if c = '\n' then ['\\', 'n']
  else if c = '\r' then ['\\', 'r']
  else if c = '\t' then ['\\', 't']
  else if c.toNat < 0x20 then
    ['\\', 'u', '0', '0', Text.hexDigit (c.toNat / 16), Text.hexDigit (c.toNat % 16)]
  else [c]

def stringChars (s : String) : List Char :=
  '"' :: s.toList.flatMap escaped ++ ['"']

mutual

/-- The compact text of a value: no blanks, members in their order. -/
def chars : Json → List Char
  | null => "null".toList
  | bool true => "true".toList
  | bool false => "false".toList
  | number n => n.text.toList
  | string s => stringChars s
  | array items => '[' :: itemChars items ++ [']']
  | object members => '\x7b' :: memberChars members ++ ['\x7d']

def itemChars : List Json → List Char
  | [] => []
  | [item] => item.chars
  | item :: rest => item.chars ++ ',' :: itemChars rest

def memberChars : List (String × Json) → List Char
  | [] => []
  | [(key, value)] => stringChars key ++ ':' :: value.chars
  | (key, value) :: rest => stringChars key ++ ':' :: value.chars ++ ',' :: memberChars rest

end

def text (value : Json) : String :=
  String.ofList value.chars

/-- The members of an object in ascending order of their keys, one per key;
the last member of a key wins. -/
def sortMembers {α : Type} (members : List (String × α)) : List (String × α) :=
  let insert (sorted : List (String × α)) (member : String × α) : List (String × α) :=
    let (before, rest) := sorted.span (fun m => m.1 < member.1)
    match rest with
    | [] => before ++ [member]
    | head :: tail =>
        if head.1 = member.1 then before ++ member :: tail else before ++ member :: rest
  members.foldl insert []

mutual

def sorted : Json → Json
  | array items => array (sortedItems items)
  | object members => object (sortMembers (sortedMembers members))
  | value => value

def sortedItems : List Json → List Json
  | [] => []
  | item :: rest => item.sorted :: sortedItems rest

def sortedMembers : List (String × Json) → List (String × Json)
  | [] => []
  | (key, value) :: rest => (key, value.sorted) :: sortedMembers rest

end

def member? (key : String) : Json → Option Json
  | object members => members.lookup key
  | _ => none

end Json

end FleetMonitor
