import LeaseQueue.Capability
import LeaseQueue.Connection

/-!
What every kind of queue has: a name, the capabilities it offers, and whether it is open.
-/

namespace LeaseQueue

structure Descriptor where
  name : String
  capabilities : Capabilities
  isOpen : Bool := false
deriving DecidableEq

namespace Descriptor

def shown (descriptor : Descriptor) : String := "[" ++ descriptor.name ++ "]"

def setOpen (descriptor : Descriptor) (isOpen : Bool) : Descriptor := { descriptor with isOpen }

def checkOpen (descriptor : Descriptor) (correlationId : String) : Except Fault Unit :=
  if descriptor.isOpen then .ok () else .error (.notOpened correlationId)

def resolve (descriptor : Descriptor) (correlationId : String) (connections : List Connection) :
    Except Fault (List Connection) :=
  if connections.isEmpty then .error (.noConnection correlationId descriptor.name)
  else .ok connections

end Descriptor

end LeaseQueue
