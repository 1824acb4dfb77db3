import LeaseQueue.Proofs.Turn

/-!
All that a receiving call and a listener can do in one step, and when. Later arguments go through
these cases and never open a step again.
-/

namespace LeaseQueue

namespace Reception

/-- One step of a call, by the stage it is at and what it finds. -/
inductive Advance (call : Reception) (queue : Queue) (now : Instant) : Reception → Queue → Prop
  | begins (fresh : call.stage = .unstarted) : Advance call queue now (start call.timeout now) queue
  | registers (looking : call.stage = .looking) :
      Advance call queue now { call with stage := .registered queue.arrivals } queue
  | takes {arrivals : Nat} {message : Message} {rest : Queue}
      (registered : call.stage = .registered arrivals)
      (taken : queue.take? call.timeout now = some (message, rest)) :
      Advance call queue now { call with stage := .finished (some message) } rest
  | givesUp {arrivals : Nat} (registered : call.stage = .registered arrivals)
      (empty : queue.store.pending = []) (late : call.deadline ≤ now) :
      Advance call queue now { call with stage := .finished none } queue
  | parks {arrivals : Nat} (registered : call.stage = .registered arrivals)
      (empty : queue.store.pending = []) (early : now < call.deadline) :
      Advance call queue now
        { call with
          stage := .parked arrivals (now + min (call.deadline - now) queue.settings.pollInterval) }
        queue
  | wakes {arrivals : Nat} {wakeAt : Instant} (parked : call.stage = .parked arrivals wakeAt)
      (due : arrivals ≠ queue.arrivals ∨ wakeAt ≤ now) :
      Advance call queue now { call with stage := .looking } queue
  | idles (waiting : call.isReady queue now = false) : Advance call queue now call queue

theorem step_advance (call : Reception) (queue : Queue) (now : Instant) :
    Advance call queue now (call.step queue now).1 (call.step queue now).2 := by
  unfold step
  cases stage : call.stage with
  | unstarted => exact .begins stage
  | looking => exact .registers stage
  | registered arrivals =>
      simp only [look]
      cases taken : queue.take? call.timeout now with
      | some found => exact .takes stage taken
      | none =>
          have empty := Queue.take?_eq_none.mp taken
          by_cases late : call.deadline ≤ now
          · simp only [late, if_true]
            exact .givesUp stage empty late
          · simp only [late, if_false]
            exact .parks stage empty (Nat.not_le.mp late)
  | parked arrivals wakeAt =>
      simp only []
      split
      · rename_i ready
        simp only [isReady, stage, Bool.or_eq_true, bne_iff_ne, decide_eq_true_eq] at ready
        exact .wakes stage ready
      · rename_i waiting
        exact .idles (Bool.not_eq_true _ ▸ waiting)
  | finished result => exact .idles (by simp [isReady, stage])

end Reception

namespace Listener

/-- One step of a listener: what becomes of it and of its queue, and what can be seen of it. -/
inductive Move (listener : Listener) (queue : Queue) (now : Instant) (freshId : MessageId) :
    Listener → Queue → List Notice → Prop
  | idles (waiting : listener.isReady queue now = false) : Move listener queue now freshId listener queue []
  | refused (starting : listener.stage = .starting) (closed : queue.isOpen = false) :
      Move listener queue now freshId
        { listener with stage := .finished (some (.notOpened listener.correlationId)) } queue []
  | opens (starting : listener.stage = .starting) (isOpen : queue.isOpen = true) :
      Move listener queue now freshId { listener with stage := .betweenIterations } queue []
  | begins (between : listener.stage = .betweenIterations) (calm : queue.cancelled = false) :
      Move listener queue now freshId
        { listener with
          stage := .receiving now (Reception.start queue.settings.listenInterval now) } queue []
  | stops (unbusy : listener.stage = .betweenIterations ∨ ∃ iteration, listener.stage = .dispatched iteration)
      (cancelled : queue.cancelled = true) :
      Move listener queue now freshId { listener with stage := .finished none } queue []
  | waits {iteration : Instant} {call next : Reception}
      (receiving : listener.stage = .receiving iteration call)
      (advanced : call.Advance queue now next queue) (unfinished : next.isFinished = false) :
      Move listener queue now freshId { listener with stage := .receiving iteration next } queue []
  | misses {iteration : Instant} {call : Reception} {arrivals : Nat}
      (receiving : listener.stage = .receiving iteration call)
      (registered : call.stage = .registered arrivals) (empty : queue.store.pending = [])
      (late : call.deadline ≤ now) :
      Move listener queue now freshId { listener with stage := .dispatched iteration } queue []
  | gives {iteration : Instant} {call : Reception} {arrivals : Nat} {message : Message} {rest : Queue}
      (receiving : listener.stage = .receiving iteration call)
      (registered : call.stage = .registered arrivals)
      (taken : queue.take? call.timeout now = some (message, rest)) (calm : queue.cancelled = false) :
      Move listener queue now freshId
        { listener with
          calls := listener.calls + 1
          stage := .handling iteration message (listener.plan.call listener.calls) now }
        rest [.given message]
  | handsBack {iteration : Instant} {call : Reception} {arrivals : Nat} {message : Message}
      {rest : Queue} (receiving : listener.stage = .receiving iteration call)
      (registered : call.stage = .registered arrivals)
      (taken : queue.take? call.timeout now = some (message, rest))
      (cancelled : queue.cancelled = true) :
      Move listener queue now freshId { listener with stage := .dispatched iteration }
        (rest.abandon message now).2 []
  | acts {iteration resumeAt next : Instant} {message kept : Message} {action : Action}
      {todo : List Action}
      (handling : listener.stage = .handling iteration message (action :: todo) resumeAt) :
      Move listener queue now freshId
        { listener with stage := .handling iteration kept todo next }
        (queue.performAll now (action.operation? message freshId).toList) []
  | ends {iteration resumeAt : Instant} {message : Message} {todo : List Action}
      (handling : listener.stage = .handling iteration message todo resumeAt) (succeeded : Bool) :
      Move listener queue now freshId { listener with stage := .dispatched iteration } queue
        [.ended succeeded message.isLocked]
  | sleeps {iteration : Instant} (dispatched : listener.stage = .dispatched iteration)
      (calm : queue.cancelled = false) (early : now < iteration + queue.settings.listenInterval) :
      Move listener queue now freshId
        { listener with stage := .sleeping (iteration + queue.settings.listenInterval) } queue []
  | restarts {iteration : Instant} (dispatched : listener.stage = .dispatched iteration)
      (calm : queue.cancelled = false) (late : iteration + queue.settings.listenInterval ≤ now) :
      Move listener queue now freshId { listener with stage := .betweenIterations } queue []
  | wakes {wakeAt : Instant} (sleeping : listener.stage = .sleeping wakeAt) (due : wakeAt ≤ now) :
      Move listener queue now freshId { listener with stage := .betweenIterations } queue []

theorem receive_move {listener : Listener} {iteration : Instant} {call : Reception} {queue : Queue}
    {now : Instant} (freshId : MessageId) (receiving : listener.stage = .receiving iteration call)
    (ready : call.isReady queue now = true) :
    Move listener queue now freshId (listener.receive iteration call queue now).listener
      (listener.receive iteration call queue now).queue
      (listener.receive iteration call queue now).notices := by
  have advanced := call.step_advance queue now
  unfold receive
  generalize call.step queue now = result at advanced
  obtain ⟨next, rest⟩ := result
  simp only at advanced ⊢
  cases advanced with
  | begins fresh => exact .waits receiving (.begins fresh) rfl
  | registers looking => exact .waits receiving (.registers looking) rfl
  | takes registered taken =>
      obtain ⟨first, others, head, messageEq, restEq⟩ := Queue.take?_eq_some taken
      have sameFlag : rest.cancelled = queue.cancelled := by rw [restEq]
      simp only [dispatch]
      cases cancelled : rest.cancelled with
      | true => exact .handsBack receiving registered taken (sameFlag ▸ cancelled)
      | false => exact .gives receiving registered taken (sameFlag ▸ cancelled)
  | givesUp registered empty late => exact .misses receiving registered empty late
  | parks registered empty early => exact .waits receiving (.parks registered empty early) rfl
  | wakes parked due => exact .waits receiving (.wakes parked due) rfl
  | idles waiting => simp [waiting] at ready

theorem handle_move {listener : Listener} {iteration resumeAt : Instant} {message : Message}
    {todo : List Action} {queue : Queue} (now : Instant) (freshId : MessageId)
    (handling : listener.stage = .handling iteration message todo resumeAt) :
    Move listener queue now freshId
      (listener.handle iteration message todo queue now freshId).listener
      (listener.handle iteration message todo queue now freshId).queue
      (listener.handle iteration message todo queue now freshId).notices := by
  cases todo with
  | nil => exact .ends handling true
  | cons action rest =>
      cases action with
      | fail => exact .ends handling false
      | _ => exact .acts handling

theorem step_move (listener : Listener) (queue : Queue) (now : Instant) (freshId : MessageId) :
    Move listener queue now freshId (listener.step queue now freshId).listener
      (listener.step queue now freshId).queue (listener.step queue now freshId).notices := by
  unfold step
  cases ready : listener.isReady queue now with
  | false => exact .idles ready
  | true =>
      simp only [Bool.not_true, Bool.false_eq_true, if_false]
      cases stage : listener.stage with
      | starting =>
          simp only [Descriptor.checkOpen]
          cases isOpen : queue.descriptor.isOpen with
          | true => exact .opens stage isOpen
          | false => exact .refused stage isOpen
      | betweenIterations =>
          cases cancelled : queue.cancelled with
          | true => exact .stops (.inl stage) cancelled
          | false => exact .begins stage cancelled
      | receiving iteration call =>
          have callReady : call.isReady queue now = true := by simpa [isReady, stage] using ready
          exact receive_move freshId stage callReady
      | handling iteration message todo resumeAt => exact handle_move now freshId stage
      | dispatched iteration =>
          simp only [rest]
          cases cancelled : queue.cancelled with
          | true => exact .stops (.inr ⟨iteration, stage⟩) cancelled
          | false =>
              simp only [Bool.false_eq_true, if_false]
              split
              · rename_i early
                exact .sleeps stage cancelled early
              · rename_i late
                exact .restarts stage cancelled (Nat.not_lt.mp late)
      | sleeping wakeAt => exact .wakes stage (by simpa [isReady, stage] using ready)
      | finished fault => simp [isReady, stage] at ready

end Listener

end LeaseQueue
