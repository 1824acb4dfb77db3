import LeaseQueue.System
import LeaseQueue.Proofs.Operation

/-!
A turn of a task does nothing to its queue but operations that a client could do as well. They all
fall on the instant of the turn, and no other task comes between them.
-/

namespace LeaseQueue

def Queue.performAll (queue : Queue) (now : Instant) (operations : List Operation) : Queue :=
  operations.foldl (fun queue operation => operation.perform queue now) queue

theorem Queue.performAll_append (queue : Queue) (now : Instant) (first second : List Operation) :
    queue.performAll now (first ++ second) = (queue.performAll now first).performAll now second :=
  List.foldl_append

namespace Reception

def operations (call : Reception) : List Operation :=
  match call.stage with
  | .registered _ => [.take call.timeout]
  | _ => []

theorem look_queue (call : Reception) (arrivals : Nat) (queue : Queue) (now : Instant) :
    (call.look arrivals queue now).2 = (Operation.take call.timeout).perform queue now := by
  simp only [look, Operation.perform]
  cases queue.take? call.timeout now with
  | none =>
      simp only [Option.map_none, Option.getD_none]
      split <;> rfl
  | some taken => rfl

theorem step_queue (call : Reception) (queue : Queue) (now : Instant) :
    (call.step queue now).2 = queue.performAll now call.operations := by
  unfold step operations
  cases call.stage with
  | registered arrivals => exact look_queue call arrivals queue now
  | parked arrivals wakeAt =>
      simp only [Queue.performAll, List.foldl_nil]
      split <;> rfl
  | unstarted | looking | finished => rfl

theorem step_returns {call : Reception} {queue : Queue} {now : Instant} {message : Message}
    (waiting : call.isFinished = false)
    (returned : (call.step queue now).1.message? = some message) :
    call.operations = [.take call.timeout] ∧
      (Operation.take call.timeout).deed? queue now =
        some (.granted message call.timeout (queue.store.lease? queue.store.nextToken)) := by
  cases stage : call.stage with
  | registered arrivals =>
      refine ⟨by simp [operations, stage], ?_⟩
      simp only [step, stage, look] at returned
      simp only [Operation.deed?]
      cases taken : queue.take? call.timeout now with
      | none =>
          rw [taken] at returned
          by_cases late : call.deadline ≤ now <;> simp [late, message?] at returned
      | some found =>
          rw [taken] at returned
          have same : found.1 = message := by simpa [message?] using returned
          rw [← same]
          rfl
  | parked arrivals wakeAt =>
      simp only [step, stage] at returned
      split at returned <;> simp [message?, stage] at returned
  | unstarted | looking => simp [step, stage, message?, start] at returned
  | finished result => simp [isFinished, stage] at waiting

end Reception

def Action.operation? (action : Action) (message : Message) (freshId : MessageId) :
    Option Operation :=
  match action with
  | .complete => some (.complete message)
  | .abandon => some (.abandon message)
  | .deadLetter => some (.deadLetter message)
  | .renew timeout => some (.renew message timeout)
  | .send text =>
    some (.send { id := freshId, correlationId := "cb", kind := "cb", payload := Text.Utf8.encode text })
  | .endListen => some .endListen
  | .close => some .close
  | .clear => some .clear
  | .sleep _ | .fail | .pass => none

namespace Listener

/-- What a listener does with a message that its call received: it goes back after a request to stop. -/
def handBack (queue : Queue) (call : Reception) (now : Instant) : List Operation :=
  match call.stage, queue.take? call.timeout now with
  | .registered _, some (message, _) => if queue.cancelled then [.abandon message] else []
  | _, _ => []

def operations (listener : Listener) (queue : Queue) (now : Instant) (freshId : MessageId) :
    List Operation :=
  if !listener.isReady queue now then []
  else
    match listener.stage with
    | .receiving _ call => call.operations ++ handBack queue call now
    | .handling _ message (action :: _) _ => (action.operation? message freshId).toList
    | _ => []

theorem moveTo_queue (listener : Listener) (stage : Stage) (queue : Queue) :
    (listener.moveTo stage queue).queue = queue := rfl

theorem dispatch_queue (listener : Listener) (iteration : Instant) (message : Message)
    (queue : Queue) (now : Instant) :
    (listener.dispatch iteration message queue now).queue =
      queue.performAll now (if queue.cancelled then [.abandon message] else []) := by
  unfold dispatch
  split <;> rfl

theorem receive_queue (listener : Listener) (iteration : Instant) (call : Reception)
    (queue : Queue) (now : Instant) (ready : call.isReady queue now = true) :
    (listener.receive iteration call queue now).queue =
      queue.performAll now (call.operations ++ handBack queue call now) := by
  unfold receive Reception.operations handBack
  cases stage : call.stage with
  | unstarted | looking => simp [Reception.step, stage, Queue.performAll, moveTo, Reception.start]
  | parked arrivals wakeAt =>
      simp [Reception.step, stage, ready, Queue.performAll, moveTo]
  | finished result => simp [Reception.isReady, stage] at ready
  | registered arrivals =>
      cases taken : queue.take? call.timeout now with
      | none =>
          by_cases late : call.deadline ≤ now <;>
            simp [Reception.step, stage, Reception.look, taken, late, Queue.performAll,
              Operation.perform, moveTo]
      | some found =>
          obtain ⟨message, next⟩ := found
          obtain ⟨first, rest, head, messageEq, nextEq⟩ := Queue.take?_eq_some taken
          have sameFlag : next.cancelled = queue.cancelled := by rw [nextEq]
          simp only [Reception.step, stage, Reception.look, taken, dispatch_queue, sameFlag]
          simp [Queue.performAll, Operation.perform, taken]

theorem handle_queue (listener : Listener) (iteration : Instant) (message : Message)
    (action : Action) (todo : List Action) (queue : Queue) (now : Instant) (freshId : MessageId) :
    (listener.handle iteration message (action :: todo) queue now freshId).queue =
      queue.performAll now (action.operation? message freshId).toList := by
  cases action <;> rfl

theorem rest_queue (listener : Listener) (iteration : Instant) (queue : Queue) (now : Instant) :
    (listener.rest iteration queue now).queue = queue := by
  unfold rest
  simp only []
  split
  · rfl
  · split <;> rfl

theorem step_queue (listener : Listener) (queue : Queue) (now : Instant) (freshId : MessageId) :
    (listener.step queue now freshId).queue =
      queue.performAll now (listener.operations queue now freshId) := by
  unfold step operations
  by_cases ready : listener.isReady queue now
  · simp only [ready, Bool.not_true, Bool.false_eq_true, if_false]
    cases stage : listener.stage with
    | starting =>
        simp only []
        split <;> rfl
    | betweenIterations =>
        simp only []
        split <;> rfl
    | receiving iteration call =>
        have callReady : call.isReady queue now = true := by
          simpa [isReady, stage] using ready
        exact receive_queue listener iteration call queue now callReady
    | handling iteration message todo resumeAt =>
        cases todo with
        | nil => rfl
        | cons action todo =>
            exact handle_queue listener iteration message action todo queue now freshId
    | dispatched iteration => exact rest_queue listener iteration queue now
    | sleeping wakeAt => rfl
    | finished fault => rfl
  · simp [ready, moveTo_queue, Queue.performAll]

end Listener

def Job.operations (job : Job) (queue : Queue) (now : Instant) (freshId : MessageId) :
    List Operation :=
  match job with
  | .receive call => call.operations
  | .listen listener => listener.operations queue now freshId

end LeaseQueue
