import FleetMonitor.Check.Expression
import FleetMonitor.Check.Trigger

/-!
# Definitions of checks

A check as it is evaluated, and the row in which it is stored: three of its
columns are JSON texts.  `StoredCheck.definition?` decodes a row and
`StoredCheck.ofCheck` encodes a check.
-/

set_option autoImplicit false

namespace FleetMonitor

/-- The hosts a check looks at: those that a query selects among the recently
reporting ones, or those of a list. -/
inductive Selection where
  | query (text : String)
  | list (names : List String)
deriving DecidableEq, Repr, Inhabited

structure Check where
  id : Int
  clusterId : Int
  name : String
  interval : String
  hosts : Selection
  expressions : List Expression
  triggers : List Trigger
  silenced : Bool
deriving BEq, DecidableEq, Repr, Inhabited

inductive IntervalError where
  | unreadable (written : String) (cause : Span.ReadError)
  | zero
deriving DecidableEq, Repr

def IntervalError.message : IntervalError → String
  | unreadable written cause =>
      "unparsable check interval " ++ Text.quoted written ++ ": " ++ cause.message
  | zero => "check interval must be greater than zero"

namespace Check

/-- The interval between evaluations; it is never empty.  There is no answer if its
parts add up beyond the longest span: who reads such an interval breaks off. -/
def period? (check : Check) : Option (Except IntervalError Span) :=
  match Span.read (Text.trim check.interval) with
  | .error .beyondLongest => none
  | .error cause => some (.error (.unreadable check.interval cause))
  | .ok span => some (if span.isZero then .error .zero else .ok span)

def listedHosts (check : Check) : List String :=
  match check.hosts with
  | .list names => names
  | .query _ => []

end Check

/-- A check as it is stored, its last three columns in JSON. -/
structure StoredCheck where
  id : Int
  clusterId : Int
  name : String
  interval : String
  silenced : Bool
  hostsQuery : String
  hostsList : String
  expressions : String
  triggers : String
deriving DecidableEq, Repr, Inhabited

namespace StoredCheck

/-- Decodes a column that holds a list; a blank column and `null` hold none. -/
def decodeColumn {α : Type} (decode : Decoder α) (column : String) :
    Except DecodeError (List α) :=
  if Text.allBlank column then .ok []
  else Decoder.ofText (Decoder.nullDefault [] (Decoder.list decode)) column

/-- The selection of hosts: the query unless it is blank, else the list. -/
def selection? (row : StoredCheck) : Except DecodeError Selection :=
  if Text.allBlank row.hostsQuery then
    (decodeColumn Decoder.string row.hostsList).map .list
  else .ok (.query row.hostsQuery)

def definition? (row : StoredCheck) : Except DecodeError Check := do
  let hosts ← row.selection?
  let expressions ← decodeColumn Expression.decode row.expressions
  let triggers ← decodeColumn Trigger.decode row.triggers
  pure
    { id := row.id, clusterId := row.clusterId, name := row.name, interval := row.interval,
      hosts, expressions, triggers, silenced := row.silenced }

theorem definition?_cases {row : StoredCheck} {check : Check}
    (read : row.definition? = .ok check) :
    ∃ hosts expressions triggers, row.selection? = .ok hosts ∧
      decodeColumn Expression.decode row.expressions = .ok expressions ∧
      decodeColumn Trigger.decode row.triggers = .ok triggers ∧
      check =
        { id := row.id, clusterId := row.clusterId, name := row.name, interval := row.interval,
          hosts, expressions, triggers, silenced := row.silenced } := by
  unfold definition? at read
  cases selected : row.selection? with
  | error cause => rw [selected] at read; cases read
  | ok hosts =>
      cases expressions : decodeColumn Expression.decode row.expressions with
      | error cause => rw [selected, expressions] at read; cases read
      | ok es =>
          cases triggers : decodeColumn Trigger.decode row.triggers with
          | error cause => rw [selected, expressions, triggers] at read; cases read
          | ok ts =>
              rw [selected, expressions, triggers] at read
              exact ⟨hosts, es, ts, rfl, rfl, rfl, (Except.ok.inj read).symm⟩

def encodeColumn {α : Type} (encode : α → Json) (items : List α) : String :=
  (Json.array (items.map encode)).text

def ofCheck (check : Check) : StoredCheck :=
  let (hostsQuery, hostsList) :=
    match check.hosts with
    | .query text => (text, "[]")
    | .list names => ("", encodeColumn .string names)
  { id := check.id, clusterId := check.clusterId, name := check.name,
    interval := check.interval, silenced := check.silenced, hostsQuery, hostsList,
    expressions := encodeColumn Expression.encode check.expressions,
    triggers := encodeColumn Trigger.encode check.triggers }

def record : Decoder.Record StoredCheck where
  title := "struct StoredCheck"
  blank := ⟨0, 0, "", "", false, "", "", "", ""⟩
  fields :=
    [ Decoder.field .required "id" Decoder.int64 fun r id => { r with id },
      Decoder.field .required "cluster_id" Decoder.int64 fun r clusterId => { r with clusterId },
      Decoder.field .required "name" Decoder.string fun r name => { r with name },
      Decoder.field .required "interval" Decoder.string fun r interval => { r with interval },
      Decoder.field .required "is_silenced" Decoder.bool fun r silenced => { r with silenced },
      Decoder.field .required "hosts_query" Decoder.string
        fun r hostsQuery => { r with hostsQuery },
      Decoder.field .required "hosts_list" Decoder.string
        fun r hostsList => { r with hostsList },
      Decoder.field .required "expressions" Decoder.string
        fun r expressions => { r with expressions },
      Decoder.field .required "triggers" Decoder.string fun r triggers => { r with triggers } ]

def encode (row : StoredCheck) : Json :=
  .object
    [("id", .int row.id), ("cluster_id", .int row.clusterId), ("name", .string row.name),
     ("interval", .string row.interval), ("is_silenced", .bool row.silenced),
     ("hosts_query", .string row.hostsQuery), ("hosts_list", .string row.hostsList),
     ("expressions", .string row.expressions), ("triggers", .string row.triggers)]

end StoredCheck

end FleetMonitor
