import LeaseQueue.Settings
import LeaseQueue.Text.Number
import LeaseQueue.Toml.Document

/-!
Configurations written as TOML documents. `Configuration.read?` reads one: a table of defaults for
all queues, a table for the log, and a list of queues. What a document leaves out has its default.
-/

namespace LeaseQueue

/-- Reads a table. An entry that is not one of the known five is an extra parameter and must hold a
text. -/
def Connection.ofToml? (value : Toml.Value) : Option Connection := do
  let fields ← value.entries?
  let text (name : String) : Option (Option String) := (fields.lookup name).mapM Toml.Value.string?
  let others := fields.filter fun field => !fieldNames.contains field.1
  let extra ← others.mapM fun (name, value) => value.string?.map fun found => (name, found)
  some
    { protocol := ← text "protocol"
      host := ← text "host"
      port := ← (fields.lookup "port").mapM (Toml.Value.nat? mostPort)
      uri := ← text "uri"
      discoveryKey := ← text "discovery_key"
      extra := extraOf extra }

def Credential.ofToml? (value : Toml.Value) : Option Credential := do
  let fields ← value.record? fieldNames
  let texts ← fields.mapM fun field => field.mapM Toml.Value.string?
  ofList? texts

def PeekPolicy.ofToml? : Toml.Value → Option PeekPolicy :=
  Toml.Value.choice? [("clamp", .clamp), ("strict", .strict)]

def RenewPolicy.ofToml? : Toml.Value → Option RenewPolicy :=
  Toml.Value.choice? [("requested", .requested), ("original", .granted)]

def Settings.fieldNames : List String :=
  ["poll_interval_ms", "listen_interval_ms", "peek_batch_policy", "renew_policy"]

def Settings.ofToml? (value : Toml.Value) : Option Settings := do
  let [poll, listen, peek, renew] ← value.record? fieldNames | none
  let base : Settings := {}
  some
    { pollMillis := ← poll.elim (some base.pollMillis) (Toml.Value.nat? Text.most64)
      listenMillis := ← listen.elim (some base.listenMillis) (Toml.Value.nat? Text.most64)
      peekPolicy := ← peek.elim (some base.peekPolicy) PeekPolicy.ofToml?
      renewPolicy := ← renew.elim (some base.renewPolicy) RenewPolicy.ofToml? }

def Entry.fieldNames : List String :=
  ["name", "poll_interval_ms", "listen_interval_ms", "peek_batch_policy", "renew_policy",
    "require_connection", "connections", "credential"]

def Entry.leastItems : Nat := 5

def Entry.hasLeastItems : Toml.Value → Bool
  | .array items => leastItems ≤ items.length
  | _ => true

def Entry.ofToml? (value : Toml.Value) : Option Entry := do
  guard (hasLeastItems value)
  let [some name, poll, listen, peek, renew, require, connections, credential] ←
    value.record? fieldNames | none
  some
    { name := ← name.string?
      pollMillis := ← poll.mapM (Toml.Value.nat? Text.most64)
      listenMillis := ← listen.mapM (Toml.Value.nat? Text.most64)
      peekPolicy := ← peek.mapM PeekPolicy.ofToml?
      renewPolicy := ← renew.mapM RenewPolicy.ofToml?
      requireConnection := ← require.elim (some false) Toml.Value.boolean?
      connections := ← connections.elim (some []) (Toml.Value.list? Connection.ofToml?)
      credential := ← credential.mapM Credential.ofToml? }

namespace Configuration

def logLevelOfToml? (value : Toml.Value) : Option String := do
  let [level] ← value.record? ["level"] | none
  level.elim (some ({} : Configuration).logLevel) Toml.Value.string?

def fieldNames : List String := ["defaults", "logging", "queues"]

def ofToml? (value : Toml.Value) : Option Configuration := do
  let [defaults, logging, queues] ← value.record? fieldNames | none
  some
    { defaults := ← defaults.elim (some {}) Settings.ofToml?
      logLevel := ← logging.elim (some ({} : Configuration).logLevel) logLevelOfToml?
      entries := ← queues.elim (some []) (Toml.Value.list? Entry.ofToml?) }

/-- Reads a document. It is not validated. -/
def read? (text : String) : Option Configuration := (Toml.read? text).bind ofToml?

end Configuration

end LeaseQueue
