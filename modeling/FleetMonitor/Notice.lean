import FleetMonitor.Check.Definition
import FleetMonitor.CycleRecord

/-!
# Notices

The texts that tell people of a failing check, and the number that a text
message goes to.
-/

set_option autoImplicit false

namespace FleetMonitor

namespace Notice

def summary (check : Check) (violations : Nat) : String :=
  "Check(ID: " ++ toString check.id ++ "): " ++ check.name ++ ", failed " ++
    toString violations ++ " times"

def hostLine (label : String) : List String → List String
  | [] => []
  | names => ["   " ++ label ++ ": " ++ ", ".intercalate names]

def expressionLines (number : Nat) (e : Expression) : List String :=
  [ "",
    toString number ++ ". [" ++ e.kind.typeName ++ "] " ++ e.kind.description,
    "   Failing: " ++ (if e.result.failing then "true" else "false") ] ++
  (if e.result.message.isEmpty then [] else ["   Message: " ++ e.result.message]) ++
  hostLine "Bad hosts" e.result.bad ++ hostLine "Good hosts" e.result.good

/-- What a mail says of a violation: the check, the time, and every expression
with its hosts. -/
def body (check : Check) (record : CycleRecord) : String :=
  let head :=
    [ "Check(ID: " ++ toString check.id ++ "): " ++ check.name,
      "Last violation: " ++ record.created.text ]
  let expressions := record.expressions.zipIdx.flatMap fun (e, i) => expressionLines (i + 1) e
  String.join ((head ++ expressions).map (· ++ "\n"))

def phoneDigits (phone : String) : String :=
  String.ofList (phone.toList.filter Char.isDigit)

end Notice

end FleetMonitor
