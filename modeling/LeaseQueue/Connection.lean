import LeaseQueue.Json.Decode
import LeaseQueue.Text.Quoted

/-!
Parameters that a queue is opened with: where to connect, and with which credential. A queue in
memory accepts them and makes no use of them.
-/

namespace LeaseQueue

structure Connection where
  protocol : Option String := none
  host : Option String := none
  port : Option Nat := none
  uri : Option String := none
  discoveryKey : Option String := none
  extra : List (String × String) := []
deriving DecidableEq, Inhabited

namespace Connection

def ofUri (uri : String) : Connection := { uri := some uri }

def endpoint (connection : Connection) : Option String :=
  match connection.uri, connection.host with
  | some uri, _ => some uri
  | none, none => none
  | none, some host =>
    let scheme := (connection.protocol.map (· ++ "://")).getD ""
    let suffix := (connection.port.map fun number => ":" ++ toString number).getD ""
    some (scheme ++ host ++ suffix)

def mostPort : Nat := 65535

def fieldNames : List String := ["protocol", "host", "port", "uri", "discovery_key"]

def setExtra (name value : String) : List (String × String) → List (String × String)
  | [] => [(name, value)]
  | (other, kept) :: rest =>
    if name = other then (name, value) :: rest else (other, kept) :: setExtra name value rest

def extraOf (fields : List (String × String)) : List (String × String) :=
  fields.foldl (fun extra (name, value) => setExtra name value extra) []

/-- Reads an object. A field that is not one of the known five is an extra parameter and must hold
a text. -/
def ofNode? (node : Json.Node) : Option Connection := do
  let fields ← node.fields?
  let text (name : String) : Option (Option String) := do
    ((← Json.Node.field? fields name).getD .null).optional? Json.Node.text?
  let port ← Json.Node.field? fields "port"
  let others := fields.filter fun field => !fieldNames.contains field.1
  let extra ← others.mapM fun (name, value) => value.text?.map fun found => (name, found)
  some
    { protocol := ← text "protocol"
      host := ← text "host"
      port := ← (port.getD .null).optional? (Json.Node.nat? mostPort)
      uri := ← text "uri"
      discoveryKey := ← text "discovery_key"
      extra := extraOf extra }

end Connection

structure Credential where
  storeKey : Option String := none
  username : Option String := none
  password : Option String := none
  accessId : Option String := none
  accessKey : Option String := none
deriving DecidableEq, Inhabited

namespace Credential

def mask : Option String → Option String := Option.map fun _ => "***"

def shown (credential : Credential) : String :=
  Text.Quoted.record "CredentialParams"
    [("store_key", Text.Quoted.encodeOption credential.storeKey),
      ("username", Text.Quoted.encodeOption credential.username),
      ("password", Text.Quoted.encodeOption (mask credential.password)),
      ("access_id", Text.Quoted.encodeOption credential.accessId),
      ("access_key", Text.Quoted.encodeOption (mask credential.accessKey))]

def fieldNames : List String := ["store_key", "username", "password", "access_id", "access_key"]

def ofList? : List (Option String) → Option Credential
  | [storeKey, username, password, accessId, accessKey] =>
    some ⟨storeKey, username, password, accessId, accessKey⟩
  | _ => none

def ofNode? (node : Json.Node) : Option Credential := do
  let fields ← node.record? fieldNames 0
  let texts ← fields.mapM fun field => (field.getD .null).optional? Json.Node.text?
  ofList? texts

end Credential

end LeaseQueue
