import LeaseQueue.Fault
import LeaseQueue.Json.Record
import LeaseQueue.Time

/-!
Messages: an envelope around a payload that no queue looks into. A message carries the token of a
lease while it is checked out to a consumer.
-/

namespace LeaseQueue

/-- Names a lease within the queue that granted it. -/
structure Token where
  number : UInt64
deriving DecidableEq, Inhabited

/-- The token after this one; the count starts again at zero after the last 64-bit word. -/
def Token.next (token : Token) : Token := ⟨token.number + 1⟩

/-- Tells messages apart; 128 bits, written as 32 hexadecimal digits. -/
structure MessageId where
  number : Nat
deriving DecidableEq, Inhabited

def MessageId.shown (id : MessageId) : String := String.ofList (Text.Hex.padded 32 id.number)

structure Message where
  id : MessageId
  correlationId : String
  kind : String
  payload : List UInt8
  sentAt : Option Instant := none
  token : Option Token := none
deriving DecidableEq, Inhabited

namespace Message

def ofValue (id : MessageId) (correlationId kind : String) (value : Json.Value) : Message :=
  { id, correlationId, kind, payload := value.bytes }

def text (message : Message) : String := Text.Utf8.lossy message.payload

def document? (message : Message) : Option Json.Node := Json.Node.read? (Text.Utf8.pieces message.payload)

def decode {α : Type} (read : Json.Node → Option α) (message : Message) : Except Fault α :=
  match message.document?.bind read with
  | some value => .ok value
  | none => .error .unreadable

def isLocked (message : Message) : Bool := message.token.isSome

def withoutToken (message : Message) : Message := { message with token := none }

def withToken (message : Message) (token : Token) : Message := { message with token := some token }

def stamped (message : Message) (now : Instant) : Message := { message with sentAt := some now }

def orDash (part : String) : String := if part.isEmpty then "---" else part

def shown (message : Message) : String :=
  "[" ++ orDash message.correlationId ++ "," ++ orDash message.kind ++ "," ++ orDash message.text ++ "]"

end Message

end LeaseQueue
