import LeaseQueue.Queue

/-!
A call that waits for a message. It registers for arrivals before it looks at the store, so an
arrival between the look and the wait is due to it at once. It waits in slices of the poll interval
and gives up at its deadline. A message it gets is leased for as long as the call was willing to
wait.
-/

namespace LeaseQueue

/-- Where a receiving call stands. A call that is `unstarted` has no deadline yet. `registered` and
`parked` remember the count of arrivals at which it registered. -/
inductive Reception.Stage where
  | unstarted
  | looking
  | registered (arrivals : Nat)
  | parked (arrivals : Nat) (wakeAt : Instant)
  | finished (result : Option Message)
deriving DecidableEq

structure Reception where
  timeout : Duration
  deadline : Instant
  stage : Reception.Stage := .looking
deriving DecidableEq

namespace Reception

def later (timeout : Duration) : Reception :=
  { timeout, deadline := .origin, stage := .unstarted }

def start (timeout : Duration) (now : Instant) : Reception :=
  { timeout, deadline := now.deadlineAfter timeout }

/-- Whether the call can go on now: it does not wait, or an arrival or the end of its slice has come. -/
def isReady (call : Reception) (queue : Queue) (now : Instant) : Bool :=
  match call.stage with
  | .unstarted => true
  | .looking => true
  | .registered _ => true
  | .parked arrivals wakeAt => arrivals != queue.arrivals || wakeAt ≤ now
  | .finished _ => false

def wakeAt? (call : Reception) : Option Instant :=
  match call.stage with
  | .parked _ wakeAt => some wakeAt
  | _ => none

def look (call : Reception) (arrivals : Nat) (queue : Queue) (now : Instant) : Reception × Queue :=
  match queue.take? call.timeout now with
  | some (message, rest) => ({ call with stage := .finished (some message) }, rest)
  | none =>
    if call.deadline ≤ now then ({ call with stage := .finished none }, queue)
    else
      let slice := min (call.deadline - now) queue.settings.pollInterval
      ({ call with stage := .parked arrivals (now + slice) }, queue)

def step (call : Reception) (queue : Queue) (now : Instant) : Reception × Queue :=
  match call.stage with
  | .unstarted => (start call.timeout now, queue)
  | .looking => ({ call with stage := .registered queue.arrivals }, queue)
  | .registered arrivals => call.look arrivals queue now
  | .parked _ _ =>
    if call.isReady queue now then ({ call with stage := .looking }, queue) else (call, queue)
  | .finished _ => (call, queue)

def isFinished (call : Reception) : Bool :=
  match call.stage with
  | .finished _ => true
  | _ => false

def message? (call : Reception) : Option Message :=
  match call.stage with
  | .finished result => result
  | _ => none

end Reception

end LeaseQueue
