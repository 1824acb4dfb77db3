import LeaseQueue.Counters
import LeaseQueue.Descriptor
import LeaseQueue.Lease
import LeaseQueue.Settings

/-!
A queue in memory: messages pending in order, and leases on the messages that were received. Each
definition up to `announce` is one step that no other client's step can come between; `abandon` is
two such steps, `surrender` and `send`. Operations that take a message return the caller's copy as it
is afterwards.
-/

namespace LeaseQueue

/-- Pending messages, first in line first; leases; and the token that the next lease gets. -/
structure Store where
  pending : List Message := []
  leases : List Lease := []
  nextToken : Token := ⟨0⟩
deriving DecidableEq, Inhabited

namespace Store

def lease? (store : Store) (token : Token) : Option Lease :=
  store.leases.find? fun lease => lease.token == token

def withoutLease (store : Store) (token : Token) : Store :=
  { store with leases := store.leases.filter fun lease => lease.token != token }

/-- Records a lease, in place of one with the same token. -/
def withLease (store : Store) (lease : Lease) : Store :=
  { store with leases := (store.withoutLease lease.token).leases ++ [lease] }

def push (store : Store) (message : Message) : Store :=
  { store with pending := store.pending ++ [message] }

def take? (store : Store) (timeout : Duration) (now : Instant) : Option (Message × Store) :=
  match store.pending with
  | [] => none
  | first :: rest =>
    let message := first.withToken store.nextToken
    let lease : Lease := ⟨store.nextToken, message, Term.grant timeout now⟩
    some (message, { store with pending := rest, nextToken := store.nextToken.next }.withLease lease)

def clear (store : Store) : Store := { store with pending := [], leases := [] }

end Store

/-- `cancelled` asks the listeners of the queue to stop. `arrivals` counts the announcements that a
message has arrived; a receiver that registered at an earlier count has one due to it. -/
structure Queue where
  descriptor : Descriptor
  settings : Settings := {}
  store : Store := {}
  counters : Counters := {}
  cancelled : Bool := false
  arrivals : Nat := 0
deriving DecidableEq

namespace Queue

def ofSettings (name : String) (settings : Settings) : Queue :=
  { descriptor := ⟨name, .memory, false⟩, settings }

def name (queue : Queue) : String := queue.descriptor.name

def isOpen (queue : Queue) : Bool := queue.descriptor.isOpen

def pendingCount (queue : Queue) : Nat := queue.store.pending.length

def lockedCount (queue : Queue) : Nat := queue.store.leases.length

def openUp (queue : Queue) : Queue := { queue with descriptor := queue.descriptor.setOpen true }

def close (queue : Queue) : Queue :=
  { queue with descriptor := queue.descriptor.setOpen false, cancelled := true }

def clear (queue : Queue) : Queue := { queue with store := queue.store.clear, cancelled := false }

/-- Asks listeners to stop before their next iteration. -/
def endListen (queue : Queue) : Queue := { queue with cancelled := true }

/-- Takes back a request to stop, as a new listener does when it begins. -/
def resume (queue : Queue) : Queue := { queue with cancelled := false }

def push (queue : Queue) (message : Message) (now : Instant) : Queue :=
  { queue with store := queue.store.push (message.stamped now) }

def announce (queue : Queue) : Queue :=
  { queue with counters := queue.counters.countSent, arrivals := queue.arrivals + 1 }

def send (queue : Queue) (message : Message) (now : Instant) : Queue :=
  (queue.push message now).announce

def peek (queue : Queue) : Option Message := queue.store.pending.head?

def batchSize (queue : Queue) (count : Nat) : Nat :=
  if count ≤ queue.pendingCount then count
  else
    match queue.settings.peekPolicy with
    | .clamp => queue.pendingCount
    | .strict => 0

def peekBatch (queue : Queue) (count : Nat) : List Message :=
  queue.store.pending.take (queue.batchSize count)

def take? (queue : Queue) (timeout : Duration) (now : Instant) : Option (Message × Queue) :=
  (queue.store.take? timeout now).map fun (message, store) =>
    (message, { queue with store, counters := queue.counters.countReceived })

def renew (queue : Queue) (message : Message) (timeout : Duration) (now : Instant) : Queue :=
  match message.token.bind queue.store.lease? with
  | none => queue
  | some lease =>
    let span :=
      match queue.settings.renewPolicy with
      | .requested => timeout
      | .granted => lease.term.timeout
    let renewed (other : Lease) : Lease :=
      if other.token = lease.token then { other with term := other.term.renew span now } else other
    { queue with store := { queue.store with leases := queue.store.leases.map renewed } }

/-- Ends the lease that a message names and counts it, whether it has lapsed or not. -/
def settle (queue : Queue) (count : Counters → Counters) (message : Message) : Message × Queue :=
  match message.token.bind queue.store.lease? with
  | none => (message.withoutToken, queue)
  | some lease =>
    (message.withoutToken,
      { queue with store := queue.store.withoutLease lease.token, counters := count queue.counters })

def complete (queue : Queue) (message : Message) : Message × Queue :=
  queue.settle Counters.countCompleted message

/-- Gives up on a received message. There is no destination for it, so it is dropped. -/
def deadLetter (queue : Queue) (message : Message) : Message × Queue :=
  queue.settle Counters.countDeadLettered message

/-- Ends the lease that a message names. When it was still running, the message it was granted for
is to be sent again. A copy whose lease is gone keeps its token. -/
def surrender (queue : Queue) (message : Message) (now : Instant) :
    Message × Option Message × Queue :=
  match message.token.bind queue.store.lease? with
  | none => (message, none, queue)
  | some lease =>
    let freed := { queue with store := queue.store.withoutLease lease.token }
    if lease.term.isExpired now then (message.withoutToken, none, freed)
    else
      (message.withoutToken, some lease.message.withoutToken,
        { freed with counters := freed.counters.countAbandoned })

def abandon (queue : Queue) (message : Message) (now : Instant) : Message × Queue :=
  match queue.surrender message now with
  | (kept, none, freed) => (kept, freed)
  | (kept, some returned, freed) => (kept, freed.send returned now)

def report (queue : Queue) : String := queue.counters.report queue.name

def inspected (queue : Queue) : String :=
  Text.Quoted.record "MemoryMessageQueue"
    [("name", Text.Quoted.encode queue.name), ("open", toString queue.isOpen),
      ("pending", toString queue.pendingCount), ("locked", toString queue.lockedCount)]

end Queue

end LeaseQueue
