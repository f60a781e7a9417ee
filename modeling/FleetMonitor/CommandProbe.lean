import FleetMonitor.LogSearch
import FleetMonitor.Routine
import FleetMonitor.Text.Utf8

/-!
# Probes by commands

Echo requests and remote logins are made by commands of the system.  A login that
is refused shows that the host is alive.
-/

set_option autoImplicit false

namespace FleetMonitor

inductive CommandResult where
  | finished (success : Bool) (output errors : List Nat)
  | notStarted (reason : String)
  | timedOut (limit : Span)
deriving DecidableEq, Repr

namespace CommandProbe

def pingArguments (hostname : String) : List String :=
  ["-c", "1", hostname]

/-- The arguments of a remote login; a blank port or user is left out. -/
def sshArguments (hostname : String) (probe : SshProbe) : List String :=
  let port := Text.trim probe.port
  let user := Text.trim probe.username
  ["-o", "BatchMode=yes", "-o", "ConnectTimeout=10"] ++
    (if port.isEmpty then [] else ["-p", port]) ++
    [if user.isEmpty then hostname else user ++ "@" ++ hostname, "exit"]

/-- A command with such arguments cannot be started, whatever the system. -/
def unstartable? (arguments : List String) : Option String :=
  if arguments.any fun argument => argument.toList.contains '\x00' then
    some "nul byte found in provided data"
  else none

def notStarted (reason : String) : Reach :=
  .unreachable ("failed to spawn probe: " ++ reason)

def timedOut (limit : Span) : Reach :=
  .unreachable ("probe timed out after " ++ limit.brief)

def pingReach : CommandResult → Reach
  | .notStarted reason => notStarted reason
  | .timedOut limit => timedOut limit
  | .finished true _ _ => .reachable
  | .finished false output _ => .unreachable (Text.trim (Text.ofUtf8 output))

/-- What a living host may say when it refuses a login. -/
def refusals : List String :=
  ["Permission denied", "Host key verification failed"]

def occurs (part whole : String) : Bool :=
  LogSearch.occurs part.toList whole.toList

def sshReach : CommandResult → Reach
  | .notStarted reason => notStarted reason
  | .timedOut limit => timedOut limit
  | .finished success output errors =>
      let text := Text.ofUtf8 output ++ Text.ofUtf8 errors
      if success || refusals.any fun refusal => occurs refusal text then .reachable
      else .unreachable (Text.trim text)

end CommandProbe

end FleetMonitor
