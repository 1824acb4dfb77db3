import LeaseQueue.Fault
import LeaseQueue.Json.Decode

/-!
Which optional operations a queue offers. Queues do not enforce it; `Capabilities.require` is for
callers that want a fault instead of a check.
-/

namespace LeaseQueue

inductive Capability where
  | messageCount
  | send
  | receive
  | peek
  | peekBatch
  | renewLock
  | abandon
  | deadLetter
  | clear
deriving DecidableEq

namespace Capability

def all : List Capability :=
  [.messageCount, .send, .receive, .peek, .peekBatch, .renewLock, .abandon, .deadLetter, .clear]

def name : Capability → String
  | .messageCount => "message_count"
  | .send => "send"
  | .receive => "receive"
  | .peek => "peek"
  | .peekBatch => "peek_batch"
  | .renewLock => "renew_lock"
  | .abandon => "abandon"
  | .deadLetter => "dead_letter"
  | .clear => "clear"

end Capability

structure Capabilities where
  messageCount : Bool
  send : Bool
  receive : Bool
  peek : Bool
  peekBatch : Bool
  renewLock : Bool
  abandon : Bool
  deadLetter : Bool
  clear : Bool
deriving DecidableEq

namespace Capabilities

def none : Capabilities := ⟨false, false, false, false, false, false, false, false, false⟩

def memory : Capabilities := ⟨true, true, true, true, true, true, true, false, true⟩

def supports (offered : Capabilities) : Capability → Bool
  | .messageCount => offered.messageCount
  | .send => offered.send
  | .receive => offered.receive
  | .peek => offered.peek
  | .peekBatch => offered.peekBatch
  | .renewLock => offered.renewLock
  | .abandon => offered.abandon
  | .deadLetter => offered.deadLetter
  | .clear => offered.clear

/-- One flag for each capability, in the order of `Capability.all`. -/
def ofList? : List Bool → Option Capabilities
  | [messageCount, send, receive, peek, peekBatch, renewLock, abandon, deadLetter, clear] =>
    some ⟨messageCount, send, receive, peek, peekBatch, renewLock, abandon, deadLetter, clear⟩
  | _ => Option.none

def require (offered : Capabilities) (correlationId : String) (capability : Capability) :
    Except Fault Unit :=
  if offered.supports capability then .ok ()
  else .error (.notSupported correlationId capability.name)

def fieldNames : List String := Capability.all.map fun capability => "can_" ++ capability.name

def toValue (offered : Capabilities) : Json.Value :=
  .object (fieldNames.zip (Capability.all.map fun capability => .bool (offered.supports capability)))

def ofNode? (node : Json.Node) : Option Capabilities := do
  let fields ← node.record? fieldNames 9
  let flags ← fields.mapM fun field => field.bind Json.Node.bool?
  ofList? flags

end Capabilities

end LeaseQueue
