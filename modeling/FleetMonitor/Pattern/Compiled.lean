import FleetMonitor.Pattern.Machine
import FleetMonitor.Pattern.Meaning
import FleetMonitor.Pattern.Reader

/-!
# Patterns from texts

A text is a pattern if it is written like one, every sign of it means something, and
the machines that run it fit.
-/

set_option autoImplicit false

namespace FleetMonitor

namespace Pattern

inductive ReadError where
  | malformed
  | tooLarge
deriving DecidableEq, Repr

def ReadError.message : ReadError → String
  | malformed => "regex parse error"
  | tooLarge =>
      "Compiled regex exceeds size limit of " ++ toString sizeLimit ++ " bytes."

/-- Reads a pattern; case is ignored from the start if asked for. -/
def read (ignoreCase : Bool) (s : String) : Except ReadError Pattern :=
  match (Written.read? s.toList).bind (Written.meaning? (Flags.initial ignoreCase)) with
  | none => .error .malformed
  | some (pattern, _) => if fits pattern then .ok pattern else .error .tooLarge

end Pattern

end FleetMonitor
