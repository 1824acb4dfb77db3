import LeaseQueue.Connection
import LeaseQueue.Fault
import LeaseQueue.Text.Blank
import LeaseQueue.Time

/-!
Settings of queues. An entry for a named queue overrides the defaults field by field; the first entry
with a name decides. `Configuration.validate` checks the defaults and every entry over them.
-/

namespace LeaseQueue

/-- What a batch peek returns when more messages are asked for than are pending: all of them, or
none. -/
inductive PeekPolicy where
  | clamp
  | strict
deriving DecidableEq, Inhabited

/-- For how long a renewed lease runs: the time asked for, or the time it was first granted for. -/
inductive RenewPolicy where
  | requested
  | granted
deriving DecidableEq, Inhabited

structure Settings where
  pollMillis : Nat := 100
  listenMillis : Nat := 1000
  peekPolicy : PeekPolicy := .clamp
  renewPolicy : RenewPolicy := .requested
deriving DecidableEq, Inhabited

def Settings.pollInterval (settings : Settings) : Duration := .ofMillis settings.pollMillis

def Settings.listenInterval (settings : Settings) : Duration := .ofMillis settings.listenMillis

structure Entry where
  name : String
  pollMillis : Option Nat := none
  listenMillis : Option Nat := none
  peekPolicy : Option PeekPolicy := none
  renewPolicy : Option RenewPolicy := none
  requireConnection : Bool := false
  connections : List Connection := []
  credential : Option Credential := none
deriving DecidableEq, Inhabited

def Entry.over (entry : Entry) (defaults : Settings) : Settings :=
  { pollMillis := entry.pollMillis.getD defaults.pollMillis
    listenMillis := entry.listenMillis.getD defaults.listenMillis
    peekPolicy := entry.peekPolicy.getD defaults.peekPolicy
    renewPolicy := entry.renewPolicy.getD defaults.renewPolicy }

structure Configuration where
  defaults : Settings := {}
  logLevel : String := "info"
  entries : List Entry := []
deriving DecidableEq, Inhabited

/-- What makes a configuration invalid. A scope names the defaults or the queue at fault. -/
inductive Violation where
  | noPollInterval (scope : String)
  | noListenInterval (scope : String)
  | blankName
  | duplicateName (name : String)
deriving DecidableEq

def Violation.fault : Violation → Fault
  | .noPollInterval scope =>
    .config "" "INVALID_POLL_INTERVAL" (scope ++ ": poll_interval_ms must be greater than zero")
  | .noListenInterval scope =>
    .config "" "INVALID_LISTEN_INTERVAL" (scope ++ ": listen_interval_ms must be greater than zero")
  | .blankName => .config "" "INVALID_QUEUE_NAME" "queue name must not be empty"
  | .duplicateName name =>
    .config "" "DUPLICATE_QUEUE" ("queue " ++ name ++ " is configured more than once")

def Settings.validate (settings : Settings) (scope : String) : Except Violation Unit :=
  if settings.pollMillis = 0 then .error (.noPollInterval scope)
  else if settings.listenMillis = 0 then .error (.noListenInterval scope)
  else .ok ()

namespace Configuration

def entry? (configuration : Configuration) (name : String) : Option Entry :=
  configuration.entries.find? fun entry => entry.name == name

def settingsFor (configuration : Configuration) (name : String) : Settings :=
  match configuration.entry? name with
  | some entry => entry.over configuration.defaults
  | none => configuration.defaults

def validateEntries (defaults : Settings) : (earlier : List String) → List Entry → Except Violation Unit
  | _, [] => .ok ()
  | earlier, entry :: rest => do
    if Text.isBlankText entry.name then throw .blankName
    if earlier.contains entry.name then throw (.duplicateName entry.name)
    (entry.over defaults).validate ("queue " ++ entry.name)
    validateEntries defaults (entry.name :: earlier) rest

def validate (configuration : Configuration) : Except Violation Unit := do
  configuration.defaults.validate "defaults"
  validateEntries configuration.defaults [] configuration.entries

end Configuration

end LeaseQueue
