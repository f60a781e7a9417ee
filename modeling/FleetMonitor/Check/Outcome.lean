import FleetMonitor.Json.Decode

/-!
# Outcomes of expressions

What evaluating one expression found: which hosts are bad and which good, and
whether the expression fails.
-/

set_option autoImplicit false

namespace FleetMonitor

structure Outcome where
  failing : Bool
  message : String
  bad : List String
  good : List String
deriving DecidableEq, Repr, Inhabited

namespace Outcome

def empty : Outcome :=
  ⟨false, "", [], []⟩

def noHosts : Outcome :=
  { empty with failing := true, message := "There are no hosts to check" }

/-- Sorts hosts into bad and good, in their order; the expression fails if at
least `minHost` of them are bad. -/
def tally (minHost : Nat) (verdicts : List (String × Bool)) : Outcome :=
  let bad := (verdicts.filter (·.2)).map (·.1)
  let good := (verdicts.filter (fun verdict => !verdict.2)).map (·.1)
  { failing := minHost ≤ bad.length, message := "", bad, good }

def record : Decoder.Record Outcome where
  title := "struct ExpressionResult"
  blank := empty
  fields :=
    [ Decoder.field .defaulted "Value" Decoder.bool fun outcome failing =>
        { outcome with failing },
      Decoder.field .defaulted "Message" (Decoder.nullDefault "" Decoder.string)
        fun outcome message => { outcome with message },
      Decoder.field .defaulted "BadHostnames"
        (Decoder.nullDefault [] (Decoder.list Decoder.string))
        fun outcome bad => { outcome with bad },
      Decoder.field .defaulted "GoodHostnames"
        (Decoder.nullDefault [] (Decoder.list Decoder.string))
        fun outcome good => { outcome with good } ]

def decode : Decoder Outcome :=
  record.read

def encode (outcome : Outcome) : Json :=
  .object
    [("Value", .bool outcome.failing), ("Message", .string outcome.message),
     ("BadHostnames", .strings outcome.bad), ("GoodHostnames", .strings outcome.good)]

end Outcome

end FleetMonitor
