import LeaseQueue.Reception

/-!
A loop that hands the messages of a queue to a receiver. An iteration receives with the listen
interval as its timeout, lets the receiver act on the message, and sleeps until one interval after
the iteration began. The request to stop is looked at before an iteration, when a message has been
received, and before the sleep; a message received after the request goes back to the queue.
-/

namespace LeaseQueue

inductive Action where
  | complete
  | abandon
  | deadLetter
  | renew (timeout : Duration)
  | send (text : String)
  | sleep (span : Duration)
  | endListen
  | close
  | clear
  | fail
  | pass
deriving DecidableEq

structure Plan where
  calls : List (List Action)
deriving DecidableEq

def Plan.call (plan : Plan) (index : Nat) : List Action :=
  match plan.calls[index]? with
  | some actions => actions
  | none => plan.calls.getLast?.getD []

def Plan.size (plan : Plan) : Nat :=
  plan.calls.foldl (fun total actions => total + actions.length + 1) 0

/-- Where a listener stands. `iteration` is the point at which the current iteration began. -/
inductive Listener.Stage where
  | starting
  | betweenIterations
  | receiving (iteration : Instant) (call : Reception)
  | handling (iteration : Instant) (message : Message) (todo : List Action) (resumeAt : Instant)
  | dispatched (iteration : Instant)
  | sleeping (wakeAt : Instant)
  | finished (fault : Option Fault)
deriving DecidableEq

structure Listener where
  correlationId : String
  plan : Plan
  calls : Nat := 0
  stage : Listener.Stage := .starting
deriving DecidableEq

/-- What can be seen of a listener: a message given to the receiver, and how the receiver ended. -/
inductive Listener.Notice where
  | given (message : Message)
  | ended (succeeded : Bool) (locked : Bool)
deriving DecidableEq

namespace Listener

/-- What one step leaves behind. `minted` says that the given message id was used up. -/
structure Outcome where
  listener : Listener
  queue : Queue
  notices : List Notice := []
  minted : Bool := false

def isFinished (listener : Listener) : Bool :=
  match listener.stage with
  | .finished _ => true
  | _ => false

def isReady (listener : Listener) (queue : Queue) (now : Instant) : Bool :=
  match listener.stage with
  | .starting => true
  | .betweenIterations => true
  | .receiving _ call => call.isReady queue now
  | .handling _ _ _ resumeAt => resumeAt ≤ now
  | .dispatched _ => true
  | .sleeping wakeAt => wakeAt ≤ now
  | .finished _ => false

def wakeAt? (listener : Listener) : Option Instant :=
  match listener.stage with
  | .receiving _ call => call.wakeAt?
  | .handling _ _ _ resumeAt => some resumeAt
  | .sleeping wakeAt => some wakeAt
  | _ => none

def moveTo (listener : Listener) (stage : Stage) (queue : Queue) : Outcome :=
  { listener := { listener with stage }, queue }

/-- A message has been received: it is given to the receiver, or goes back when a stop was asked for. -/
def dispatch (listener : Listener) (iteration : Instant) (message : Message) (queue : Queue)
    (now : Instant) : Outcome :=
  if queue.cancelled then
    listener.moveTo (.dispatched iteration) (queue.abandon message now).2
  else
    { listener :=
        { listener with
          calls := listener.calls + 1
          stage := .handling iteration message (listener.plan.call listener.calls) now }
      queue
      notices := [.given message] }

def receive (listener : Listener) (iteration : Instant) (call : Reception) (queue : Queue)
    (now : Instant) : Outcome :=
  let (call, queue) := call.step queue now
  match call.stage with
  | .finished none => listener.moveTo (.dispatched iteration) queue
  | .finished (some message) => listener.dispatch iteration message queue now
  | _ => listener.moveTo (.receiving iteration call) queue

def handle (listener : Listener) (iteration : Instant) (message : Message) (todo : List Action)
    (queue : Queue) (now : Instant) (freshId : MessageId) : Outcome :=
  let ended (succeeded : Bool) : Outcome :=
    { listener.moveTo (.dispatched iteration) queue with notices := [.ended succeeded message.isLocked] }
  match todo with
  | [] => ended true
  | action :: rest =>
    let go (message : Message) (queue : Queue) : Outcome :=
      listener.moveTo (.handling iteration message rest now) queue
    match action with
    | .complete => go (queue.complete message).1 (queue.complete message).2
    | .abandon => go (queue.abandon message now).1 (queue.abandon message now).2
    | .deadLetter => go (queue.deadLetter message).1 (queue.deadLetter message).2
    | .renew timeout => go message (queue.renew message timeout now)
    | .send text =>
      let sent : Message :=
        { id := freshId, correlationId := "cb", kind := "cb", payload := Text.Utf8.encode text }
      { go message (queue.send sent now) with minted := true }
    | .sleep span => listener.moveTo (.handling iteration message rest (now + span)) queue
    | .endListen => go message queue.endListen
    | .close => go message queue.close
    | .clear => go message queue.clear
    | .fail => ended false
    | .pass => go message queue

/-- The rest of an iteration once its message, if any, has been dealt with. -/
def rest (listener : Listener) (iteration : Instant) (queue : Queue) (now : Instant) : Outcome :=
  let wakeAt := iteration + queue.settings.listenInterval
  if queue.cancelled then listener.moveTo (.finished none) queue
  else if now < wakeAt then listener.moveTo (.sleeping wakeAt) queue
  else listener.moveTo .betweenIterations queue

def step (listener : Listener) (queue : Queue) (now : Instant) (freshId : MessageId) : Outcome :=
  if !listener.isReady queue now then listener.moveTo listener.stage queue
  else
  match listener.stage with
  | .starting =>
    match queue.descriptor.checkOpen listener.correlationId with
    | .ok () => listener.moveTo .betweenIterations queue
    | .error fault => listener.moveTo (.finished (some fault)) queue
  | .betweenIterations =>
    if queue.cancelled then listener.moveTo (.finished none) queue
    else
      listener.moveTo (.receiving now (Reception.start queue.settings.listenInterval now)) queue
  | .receiving iteration call => listener.receive iteration call queue now
  | .handling iteration message todo _ => listener.handle iteration message todo queue now freshId
  | .dispatched iteration => listener.rest iteration queue now
  | .sleeping _ => listener.moveTo .betweenIterations queue
  | .finished _ => listener.moveTo listener.stage queue

end Listener

end LeaseQueue
