import FleetMonitor.Instant
import FleetMonitor.Json.Basic

/-!
# Hosts

The latest report of a host: flat data under metric paths, and tags.  Nested
reports are flattened by joining keys with a point.  A metric is looked up by
its path, numbers written as texts included.
-/

set_option autoImplicit false

namespace FleetMonitor

/-- The latest report of one host.  Data and tags have one entry per key, in
ascending order. -/
structure Host where
  name : String
  updated : Instant
  data : List (String × Json)
  tags : List (String × String)
deriving Repr, Inhabited

namespace Host

mutual

/-- The entries of a value under a path: one per part that is not an object. -/
def leaves (path : String) : Json → List (String × Json)
  | .object members => memberLeaves path members
  | leaf => [(path, leaf)]

def memberLeaves (path : String) : List (String × Json) → List (String × Json)
  | [] => []
  | (key, value) :: rest => leaves (path ++ "." ++ key) value ++ memberLeaves path rest

end

/-- The entries of a nested report.  A report that is no object has none. -/
def flatten : Json → List (String × Json)
  | .object members => Json.sortMembers (members.flatMap fun (key, value) => leaves key value)
  | _ => []

def ofNested (name : String) (updated : Instant) (payload : Json) : Host :=
  ⟨name, updated, flatten payload, []⟩

def addData (host : Host) (entries : List (String × Json)) : Host :=
  { host with data := Json.sortMembers (host.data ++ entries) }

/-- A key that the path both starts and ends with. -/
def frames (key path : String) : Bool :=
  key.toList.isPrefixOf path.toList && key.toList.isSuffixOf path.toList

/-- The entry for a path: the one under the path itself, else the first whose
key the path starts and ends with. -/
def entry? (host : Host) (path : String) : Option Json :=
  match host.data.lookup path with
  | some value => some value
  | none => (host.data.find? (fun entry => frames entry.1 path)).map (·.2)

def reading? : Json → Option Float
  | .number n => some n.toFloat
  | .string s => Decimal.float? (Text.trim s)
  | .bool b => some (if b then 1 else 0)
  | _ => none

def metric? (host : Host) (path : String) : Option Float :=
  (host.entry? path).bind reading?

def tag? (host : Host) (key : String) : Option String :=
  host.tags.lookup key

def dataJson (host : Host) : Json :=
  .object host.data

end Host

end FleetMonitor
