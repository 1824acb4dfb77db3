import LeaseQueue.Settings.Document
import LeaseQueue.Text.Utf8

/-!
Loading a configuration: the file is read, then environment variables override parts of it, then
the result is validated. The first stage that fails decides the error.
-/

namespace LeaseQueue

/-- Where a program runs: the environment variables that are set, and the files that can be read from
the current directory. -/
structure Surroundings where
  environment : List (String × String) := []
  files : List (String × List UInt8) := []

namespace Surroundings

def valueOf? (surroundings : Surroundings) (name : String) : Option String :=
  surroundings.environment.lookup name

/-- A path without the steps that stay where they are. A path that ends in such a step names a
directory and is left as it is. -/
def plainPath (path : String) : String :=
  let stays (step : String) : Bool := step == "" || step == "."
  let steps := path.splitOn "/"
  if (steps.getLast?.map stays).getD true then path
  else
    let taken := "/".intercalate (steps.filter (!stays ·))
    if steps.head? = some "" then "/" ++ taken else taken

def nullDevice : String := "/dev/null"

def file? (surroundings : Surroundings) (path : String) : Option (List UInt8) :=
  if plainPath path = nullDevice then some []
  else (surroundings.files.find? fun file => plainPath file.1 == plainPath path).map Prod.snd

end Surroundings

inductive LoadError where
  /-- The file is not there, cannot be read, or is no text. -/
  | unreadable (path : String)
  /-- The file is no configuration in TOML. -/
  | malformed
  /-- The variable is set to something that is not a number of 64 bits. -/
  | badVariable (name : String)
  | invalid (violation : Violation)
deriving DecidableEq

def LoadError.message : LoadError → String
  | .unreadable path => "reading config " ++ path
  | .malformed => "TOML parse error"
  | .badVariable name => name
  | .invalid violation => violation.fault.message

namespace Configuration

def pollVariable : String := "MEMQ_POLL_INTERVAL_MS"

def listenVariable : String := "MEMQ_LISTEN_INTERVAL_MS"

def levelVariable : String := "MEMQ_LOG_LEVEL"

/-- The number that a variable is set to, if it is set. -/
def override? (lookup : String → Option String) (name : String) : Except LoadError (Option Nat) :=
  match lookup name with
  | none => .ok none
  | some text =>
    match Text.nat64? text with
    | some value => .ok (some value)
    | none => .error (.badVariable name)

def withPollMillis (configuration : Configuration) (millis : Nat) : Configuration :=
  { configuration with defaults := { configuration.defaults with pollMillis := millis } }

def withListenMillis (configuration : Configuration) (millis : Nat) : Configuration :=
  { configuration with defaults := { configuration.defaults with listenMillis := millis } }

def withLogLevel (configuration : Configuration) (level : String) : Configuration :=
  { configuration with logLevel := level }

/-- Applies the variables that are set, in order, up to the first that holds no number. What was
applied before it stays. -/
def override (lookup : String → Option String) (configuration : Configuration) :
    Configuration × Option LoadError :=
  match override? lookup pollVariable with
  | .error error => (configuration, some error)
  | .ok poll =>
    let configuration := poll.elim configuration configuration.withPollMillis
    match override? lookup listenVariable with
    | .error error => (configuration, some error)
    | .ok listen =>
      let configuration := listen.elim configuration configuration.withListenMillis
      ((lookup levelVariable).elim configuration configuration.withLogLevel, none)

def loadText (lookup : String → Option String) (text : String) : Except LoadError Configuration :=
  match read? text with
  | none => .error .malformed
  | some written =>
    match written.override lookup with
    | (_, some error) => .error error
    | (configuration, none) =>
      match configuration.validate with
      | .error violation => .error (.invalid violation)
      | .ok () => .ok configuration

def load (surroundings : Surroundings) (path : String) : Except LoadError Configuration :=
  match (surroundings.file? path).bind Text.Utf8.decode? with
  | none => .error (.unreadable path)
  | some text => loadText surroundings.valueOf? text

def pathVariable : String := "MEMQ_CONFIG"

def usualPath : String := "memq.toml"

end Configuration

def Surroundings.configPath (surroundings : Surroundings) : String :=
  (surroundings.valueOf? Configuration.pathVariable).getD Configuration.usualPath

namespace Configuration

/-- The configuration of a process that is not told of one. A file that is not there, or that does
not load, counts for nothing. -/
def loadUsual (surroundings : Surroundings) : Configuration :=
  match load surroundings surroundings.configPath with
  | .ok configuration => configuration
  | .error _ => {}

end Configuration

end LeaseQueue
