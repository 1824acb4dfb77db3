/-!
Why an operation is refused. Losing a lease is no fault: settling a message whose lease is gone
succeeds and does nothing.
-/

namespace LeaseQueue

inductive Fault where
  /-- A required setting or connection parameter is missing or invalid. -/
  | config (correlationId code detail : String)
  /-- The queue is not in a state that allows the operation. -/
  | invalidState (correlationId code detail : String)
  /-- The queue does not offer the operation. -/
  | notSupported (correlationId operation : String)
  /-- A payload could not be written as JSON or read from it. -/
  | serialization (detail : String)
deriving DecidableEq, Inhabited

namespace Fault

def code : Fault → String
  | .config _ code _ => code
  | .invalidState _ code _ => code
  | .notSupported _ _ => "NOT_SUPPORTED"
  | .serialization _ => "SERIALIZATION"

def serializationPreamble : String := "serialization error: "

def message : Fault → String
  | .config correlationId code detail => "[" ++ correlationId ++ "] " ++ code ++ ": " ++ detail
  | .invalidState correlationId code detail => "[" ++ correlationId ++ "] " ++ code ++ ": " ++ detail
  | .notSupported correlationId operation =>
    "[" ++ correlationId ++ "] operation " ++ operation ++ " is not supported"
  | .serialization detail => serializationPreamble ++ detail

def notOpened (correlationId : String) : Fault :=
  .invalidState correlationId "NOT_OPENED" "The queue is not opened"

def noConnection (correlationId queue : String) : Fault :=
  .config correlationId "NO_CONNECTION" ("Connection parameters are not set for queue " ++ queue)

def unwritable : Fault := .serialization "the value has no JSON text"

def unreadable : Fault := .serialization "the text is not the JSON of such a value"

end Fault

end LeaseQueue
