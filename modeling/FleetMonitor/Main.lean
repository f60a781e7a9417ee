import FleetMonitor.Fleet

/-!
# The command line

Reads the settings named on the command line and runs a daemon by them until it is
stopped from outside.  The daemon starts with an empty store; what its routines ask
of the network gets no answer here.
-/

set_option autoImplicit false

namespace FleetMonitor

def settingsPath? : List String → Option String
  | ["-f", path] => some path
  | _ => none

def usage : String :=
  "error: the following required arguments were not provided:\n  -f <FILE>\n\nUsage: fleet-checkd -f <FILE>"

/-- The place in the environment that may hold the password for mail. -/
def passwordVariable : String := "FLEET_CHECKS_SMTP_PASSWORD"

def Surroundings.isolated (micros : Int) : Surroundings where
  now := ⟨micros⟩
  store := .memory .empty
  foreignRows := []
  faults := []
  silence := ⟨[], [], []⟩
  probeDelay := ⟨0⟩
  mailReply := fun _ => .error "no network"
  pageReply := fun _ _ => .error "no network"
  outbox := ⟨[], []⟩
  keys := .empty

def Settings.dispatcher (settings : Settings) : Dispatcher where
  gateways := settings.checks.gateways
  hasMailer := settings.mail.isSome
  client := "fleet-checks daemon on: " ++ settings.address

def Fleet.single (settings : Settings) (micros : Int) : Fleet :=
  (Fleet.start (.isolated micros)).spawn settings settings.dispatcher ⟨0⟩

partial def keepGoing (moment : Moment Fleet) : IO Unit := do
  IO.sleep 10
  keepGoing (Fleet.timed.sleep 10 moment)

def readSettings (path : String) : IO (Except Settings.ReadError Settings) := do
  match ← (IO.FS.readFile path).toBaseIO with
  | .error e => pure (.error (.unreadable path (toString e)))
  | .ok text =>
      let password ← IO.getEnv passwordVariable
      pure ((Settings.read text).map (·.withPassword password))

end FleetMonitor

open FleetMonitor in
def main (args : List String) : IO UInt32 := do
  match settingsPath? args with
  | none =>
      IO.eprintln usage
      pure 2
  | some path =>
      match ← readSettings path with
      | .error e =>
          IO.eprintln ("Error: " ++ e.message)
          pure 1
      | .ok settings =>
          keepGoing ⟨⟨0⟩, Fleet.single settings 0⟩
          pure 0
