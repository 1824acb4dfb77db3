import LeaseQueue.Proofs.Turn

/-!
Queues that differ by the past of one of them: its tokens, its counters and its count of arrivals are
ahead. Every operation and every step of a call or a listener does the same to both.
-/

namespace LeaseQueue

structure Shift where
  tokens : UInt64
  counters : Counters
  arrivals : Nat

def Token.shifted (token : Token) (shift : Shift) : Token := ⟨token.number + shift.tokens⟩

def Counters.shifted (counters : Counters) (shift : Shift) : Counters where
  sent := counters.sent + shift.counters.sent
  received := counters.received + shift.counters.received
  completed := counters.completed + shift.counters.completed
  abandoned := counters.abandoned + shift.counters.abandoned
  deadLettered := counters.deadLettered + shift.counters.deadLettered

def Message.shifted (message : Message) (shift : Shift) : Message :=
  { message with token := message.token.map fun token => token.shifted shift }

def Lease.shifted (lease : Lease) (shift : Shift) : Lease :=
  ⟨lease.token.shifted shift, lease.message.shifted shift, lease.term⟩

def Store.shifted (store : Store) (shift : Shift) : Store where
  pending := store.pending.map fun message => message.shifted shift
  leases := store.leases.map fun lease => lease.shifted shift
  nextToken := store.nextToken.shifted shift

def Queue.shifted (queue : Queue) (shift : Shift) : Queue :=
  { queue with
    store := queue.store.shifted shift
    counters := queue.counters.shifted shift
    arrivals := queue.arrivals + shift.arrivals }

def Operation.shifted (operation : Operation) (shift : Shift) : Operation :=
  match operation with
  | .send message => .send (message.shifted shift)
  | .renew message timeout => .renew (message.shifted shift) timeout
  | .complete message => .complete (message.shifted shift)
  | .deadLetter message => .deadLetter (message.shifted shift)
  | .abandon message => .abandon (message.shifted shift)
  | .openUp | .close | .clear | .endListen | .resume | .peek | .peekBatch _ | .take _ => operation

def Operation.Answer.shifted (answer : Operation.Answer) (shift : Shift) : Operation.Answer :=
  match answer with
  | .done => .done
  | .kept message => .kept (message.shifted shift)
  | .found message? => .found (message?.map fun message => message.shifted shift)
  | .batch messages => .batch (messages.map fun message => message.shifted shift)

def Reception.Stage.shifted (stage : Reception.Stage) (shift : Shift) : Reception.Stage :=
  match stage with
  | .registered arrivals => .registered (arrivals + shift.arrivals)
  | .parked arrivals wakeAt => .parked (arrivals + shift.arrivals) wakeAt
  | .finished result => .finished (result.map fun message => message.shifted shift)
  | .unstarted | .looking => stage

def Reception.shifted (call : Reception) (shift : Shift) : Reception :=
  { call with stage := call.stage.shifted shift }

def Listener.Stage.shifted (stage : Listener.Stage) (shift : Shift) : Listener.Stage :=
  match stage with
  | .receiving iteration call => .receiving iteration (call.shifted shift)
  | .handling iteration message todo resumeAt =>
    .handling iteration (message.shifted shift) todo resumeAt
  | .starting | .betweenIterations | .dispatched _ | .sleeping _ | .finished _ => stage

def Listener.shifted (listener : Listener) (shift : Shift) : Listener :=
  { listener with stage := listener.stage.shifted shift }

def Listener.Notice.shifted (notice : Listener.Notice) (shift : Shift) : Listener.Notice :=
  match notice with
  | .given message => .given (message.shifted shift)
  | .ended succeeded locked => .ended succeeded locked

def Listener.Outcome.shifted (outcome : Listener.Outcome) (shift : Shift) : Listener.Outcome where
  listener := outcome.listener.shifted shift
  queue := outcome.queue.shifted shift
  notices := outcome.notices.map fun notice => notice.shifted shift
  minted := outcome.minted

def Job.shifted (job : Job) (shift : Shift) : Job :=
  match job with
  | .receive call => .receive (call.shifted shift)
  | .listen listener => .listen (listener.shifted shift)

section Data

variable (shift : Shift)

@[simp] theorem Token.shifted_inj {token other : Token} :
    token.shifted shift = other.shifted shift ↔ token = other := by
  obtain ⟨number⟩ := token
  obtain ⟨otherNumber⟩ := other
  simp [shifted]

@[simp] theorem Token.shifted_beq (token other : Token) :
    (token.shifted shift == other.shifted shift) = (token == other) := by
  rw [Bool.eq_iff_iff, beq_iff_eq, beq_iff_eq, shifted_inj]

theorem Token.shifted_next (token : Token) :
    token.next.shifted shift = (token.shifted shift).next := by
  simp only [shifted, next, Token.mk.injEq]
  ac_rfl

@[simp] theorem Message.isLocked_shifted (message : Message) :
    (message.shifted shift).isLocked = message.isLocked := Option.isSome_map

inductive Counters.IsCount : (Counters → Counters) → Prop
  | sent : IsCount countSent
  | received : IsCount countReceived
  | completed : IsCount countCompleted
  | abandoned : IsCount countAbandoned
  | deadLettered : IsCount countDeadLettered

theorem Counters.IsCount.shifted {count : Counters → Counters} (counts : IsCount count)
    (counters : Counters) : (count counters).shifted shift = count (counters.shifted shift) := by
  cases counts with
  | sent | received | completed | abandoned | deadLettered =>
      simp only [Counters.shifted, countSent, countReceived, countCompleted, countAbandoned,
        countDeadLettered, mk.injEq, and_self, and_true, true_and]
      ac_rfl

namespace Store

variable (store : Store)

theorem lease?_shifted (token : Token) :
    (store.shifted shift).lease? (token.shifted shift) =
      (store.lease? token).map fun lease => lease.shifted shift := by
  simp only [lease?, shifted, List.find?_map]
  congr 2
  funext lease
  simp [Lease.shifted]

theorem shifted_withoutLease (token : Token) :
    (store.withoutLease token).shifted shift =
      (store.shifted shift).withoutLease (token.shifted shift) := by
  simp only [withoutLease, shifted, List.filter_map, mk.injEq, true_and, and_true]
  congr 2
  funext lease
  simp [Lease.shifted, bne]

theorem shifted_push (message : Message) :
    (store.push message).shifted shift = (store.shifted shift).push (message.shifted shift) := by
  simp [push, shifted]

theorem shifted_withRenewed (lease : Lease) (span : Duration) (now : Instant) :
    (store.withRenewed lease span now).shifted shift =
      (store.shifted shift).withRenewed (lease.shifted shift) span now := by
  simp only [withRenewed, shifted, List.map_map, mk.injEq, true_and, and_true]
  apply List.map_congr_left
  intro other _
  by_cases same : other.token = lease.token <;> simp [Lease.shifted, same]

theorem shifted_withGranted (message : Message) (rest : List Message) (timeout : Duration)
    (now : Instant) :
    (store.withGranted message rest timeout now).shifted shift =
      (store.shifted shift).withGranted (message.shifted shift)
        (rest.map fun message => message.shifted shift) timeout now := by
  have kept := congrArg Store.leases (store.shifted_withoutLease shift store.nextToken)
  simp only [shifted] at kept
  simp only [shifted, withGranted, withLease, mk.injEq, true_and, List.map_append, List.map_cons,
    List.map_nil]
  refine ⟨?_, store.nextToken.shifted_next shift⟩
  exact congrArg (fun leases => leases ++ _) kept

theorem take?_shifted (timeout : Duration) (now : Instant) :
    (store.shifted shift).take? timeout now =
      (store.take? timeout now).map fun (message, next) =>
        (message.shifted shift, next.shifted shift) := by
  cases head : store.pending with
  | nil => simp [take?, head, shifted]
  | cons first rest =>
      have granted := store.shifted_withGranted shift (first.withToken store.nextToken) rest timeout now
      simp only [withGranted] at granted
      simp only [take?, head, Option.map_some, granted]
      simp [shifted, head, Message.shifted, Message.withToken]

end Store

namespace Queue

variable (queue : Queue) (message : Message) (now : Instant)

theorem leaseOf?_shifted :
    (queue.shifted shift).leaseOf? (message.shifted shift) =
      (queue.leaseOf? message).map fun lease => lease.shifted shift := by
  unfold leaseOf?
  cases named : message.token with
  | none => simp [Message.shifted, named]
  | some token =>
      simp only [Message.shifted, named, Option.map_some, Option.bind_some]
      exact queue.store.lease?_shifted shift token

theorem send_shifted :
    (queue.shifted shift).send (message.shifted shift) now = (queue.send message now).shifted shift := by
  have pushed := queue.store.shifted_push shift (message.stamped now)
  simp only [send, push, announce, shifted, pushed, Counters.IsCount.sent.shifted, mk.injEq,
    true_and]
  exact ⟨rfl, by omega⟩

theorem take?_shifted (timeout : Duration) :
    (queue.shifted shift).take? timeout now =
      (queue.take? timeout now).map fun (message, next) =>
        (message.shifted shift, next.shifted shift) := by
  have taken := queue.store.take?_shifted shift timeout now
  simp only [take?, shifted, taken, Option.map_map]
  congr 1
  funext found
  simp [Counters.IsCount.received.shifted]

theorem renew_shifted (timeout : Duration) :
    (queue.shifted shift).renew (message.shifted shift) timeout now =
      (queue.renew message timeout now).shifted shift := by
  have sought := queue.leaseOf?_shifted shift message
  cases found : queue.leaseOf? message with
  | none =>
      rw [found] at sought
      rw [renew_of_none timeout sought, renew_of_none timeout found]
  | some lease =>
      rw [found] at sought
      rw [renew_of_some timeout sought, renew_of_some timeout found]
      simp only [shifted, Store.shifted_withRenewed]
      rfl

theorem settle_shifted {count : Counters → Counters} (counts : Counters.IsCount count) :
    (queue.shifted shift).settle count (message.shifted shift) =
      ((queue.settle count message).1.shifted shift, (queue.settle count message).2.shifted shift) := by
  have sought := queue.leaseOf?_shifted shift message
  cases found : queue.leaseOf? message with
  | none =>
      rw [found] at sought
      rw [settle_of_none count sought, settle_of_none count found]
      rfl
  | some lease =>
      rw [found] at sought
      rw [settle_of_some count sought, settle_of_some count found]
      simp only [shifted, Store.shifted_withoutLease, counts.shifted]
      rfl

theorem abandon_shifted :
    (queue.shifted shift).abandon (message.shifted shift) now =
      ((queue.abandon message now).1.shifted shift, (queue.abandon message now).2.shifted shift) := by
  have sought := queue.leaseOf?_shifted shift message
  cases found : queue.leaseOf? message with
  | none =>
      rw [found] at sought
      rw [abandon_of_none sought, abandon_of_none found]
  | some lease =>
      rw [found] at sought
      cases expired : lease.term.isExpired now with
      | true =>
          rw [abandon_of_lapsed sought expired, abandon_of_lapsed found expired]
          simp only [shifted, Store.shifted_withoutLease]
          rfl
      | false =>
          rw [abandon_of_running sought expired, abandon_of_running found expired]
          simp only [shifted, Store.shifted_push, Store.shifted_withoutLease,
            Counters.IsCount.sent.shifted, Counters.IsCount.abandoned.shifted, Prod.mk.injEq,
            mk.injEq, true_and]
          exact ⟨rfl, rfl, by omega⟩

theorem peek_shifted :
    (queue.shifted shift).peek = queue.peek.map fun message => message.shifted shift := by
  simp [peek, shifted, Store.shifted]

theorem batchSize_shifted (count : Nat) :
    (queue.shifted shift).batchSize count = queue.batchSize count := by
  have same : (queue.shifted shift).pendingCount = queue.pendingCount := List.length_map _
  rw [batchSize, batchSize, same]
  rfl

theorem peekBatch_shifted (count : Nat) :
    (queue.shifted shift).peekBatch count =
      (queue.peekBatch count).map fun message => message.shifted shift := by
  rw [peekBatch, peekBatch, batchSize_shifted, List.map_take]
  rfl

end Queue

namespace Operation

variable (operation : Operation) (queue : Queue) (now : Instant)

theorem perform_shifted :
    (operation.shifted shift).perform (queue.shifted shift) now =
      (operation.perform queue now).shifted shift := by
  cases operation with
  | openUp | close | clear | endListen | resume | peek | peekBatch => rfl
  | send message => exact queue.send_shifted shift message now
  | take timeout =>
      simp only [Operation.shifted, perform, queue.take?_shifted shift now timeout]
      cases queue.take? timeout now <;> rfl
  | renew message timeout => exact queue.renew_shifted shift message now timeout
  | complete message =>
      have settled := queue.settle_shifted shift message .completed
      exact congrArg Prod.snd settled
  | deadLetter message =>
      have settled := queue.settle_shifted shift message .deadLettered
      exact congrArg Prod.snd settled
  | abandon message => exact congrArg Prod.snd (queue.abandon_shifted shift message now)

theorem answer_shifted :
    (operation.shifted shift).answer (queue.shifted shift) now =
      (operation.answer queue now).shifted shift := by
  cases operation with
  | openUp | close | clear | endListen | resume | send | renew => rfl
  | peek => exact congrArg Answer.found (queue.peek_shifted shift)
  | peekBatch count => exact congrArg Answer.batch (queue.peekBatch_shifted shift count)
  | take timeout =>
      simp only [Operation.shifted, answer, queue.take?_shifted shift now timeout, Answer.shifted,
        Option.map_map]
      rfl
  | complete message =>
      have settled := queue.settle_shifted shift message .completed
      exact congrArg (fun result => Answer.kept result.1) settled
  | deadLetter message =>
      have settled := queue.settle_shifted shift message .deadLettered
      exact congrArg (fun result => Answer.kept result.1) settled
  | abandon message =>
      exact congrArg (fun result => Answer.kept result.1) (queue.abandon_shifted shift message now)

end Operation

namespace Reception

variable (call : Reception) (queue : Queue) (now : Instant)

theorem isReady_shifted :
    (call.shifted shift).isReady (queue.shifted shift) now = call.isReady queue now := by
  unfold isReady
  cases stage : call.stage with
  | parked arrivals wakeAt =>
      have same : (arrivals + shift.arrivals != queue.arrivals + shift.arrivals) =
          (arrivals != queue.arrivals) := by
        rw [Bool.eq_iff_iff, bne_iff_ne, bne_iff_ne]
        omega
      simp [shifted, Stage.shifted, stage, Queue.shifted, same]
  | _ => simp [shifted, Stage.shifted, stage]

theorem look_shifted (arrivals : Nat) :
    (call.shifted shift).look (arrivals + shift.arrivals) (queue.shifted shift) now =
      ((call.look arrivals queue now).1.shifted shift,
        (call.look arrivals queue now).2.shifted shift) := by
  have taken := queue.take?_shifted shift now call.timeout
  have sameTimeout : (call.shifted shift).timeout = call.timeout := rfl
  have sameDeadline : (call.shifted shift).deadline = call.deadline := rfl
  simp only [look, sameTimeout, sameDeadline, taken]
  cases queue.take? call.timeout now with
  | some found => rfl
  | none =>
      by_cases late : call.deadline ≤ now <;> simp only [Option.map_none, late, if_true, if_false] <;> rfl

theorem step_shifted :
    (call.shifted shift).step (queue.shifted shift) now =
      ((call.step queue now).1.shifted shift, (call.step queue now).2.shifted shift) := by
  have ready := call.isReady_shifted shift queue now
  unfold step
  cases stage : call.stage with
  | unstarted | looking | finished => simp only [shifted, Stage.shifted, stage] <;> rfl
  | registered arrivals =>
      simp only [shifted, Stage.shifted, stage]
      exact call.look_shifted shift queue now arrivals
  | parked arrivals wakeAt =>
      simp only [ready]
      simp only [shifted, Stage.shifted, stage]
      split <;> simp [stage]

end Reception

namespace Listener

variable (listener : Listener) (queue : Queue) (now : Instant)

theorem isReady_shifted :
    (listener.shifted shift).isReady (queue.shifted shift) now = listener.isReady queue now := by
  unfold isReady
  cases stage : listener.stage with
  | receiving iteration call =>
      simp only [shifted, Stage.shifted, stage]
      exact call.isReady_shifted shift queue now
  | _ => simp only [shifted, Stage.shifted, stage]

theorem dispatch_shifted (iteration : Instant) (message : Message) :
    (listener.shifted shift).dispatch iteration (message.shifted shift) (queue.shifted shift) now =
      (listener.dispatch iteration message queue now).shifted shift := by
  have sameFlag : (queue.shifted shift).cancelled = queue.cancelled := rfl
  simp only [dispatch, sameFlag, queue.abandon_shifted shift message now]
  split <;> rfl

theorem receive_shifted (iteration : Instant) (call : Reception) :
    (listener.shifted shift).receive iteration (call.shifted shift) (queue.shifted shift) now =
      (listener.receive iteration call queue now).shifted shift := by
  unfold receive
  rw [call.step_shifted shift queue now]
  generalize call.step queue now = result
  obtain ⟨⟨timeout, deadline, stage⟩, rest⟩ := result
  cases stage with
  | finished found =>
      cases found with
      | none => rfl
      | some message => exact listener.dispatch_shifted shift rest now iteration message
  | unstarted | looking | registered | parked => rfl

theorem handle_shifted (iteration : Instant) (message : Message) (todo : List Action)
    (freshId : MessageId) :
    (listener.shifted shift).handle iteration (message.shifted shift) todo (queue.shifted shift) now
        freshId =
      (listener.handle iteration message todo queue now freshId).shifted shift := by
  cases todo with
  | nil =>
      simp only [handle, Message.isLocked_shifted]
      rfl
  | cons action rest =>
      cases action with
      | complete =>
          have settled := queue.settle_shifted shift message .completed
          simp only [handle, Queue.complete, settled]
          rfl
      | deadLetter =>
          have settled := queue.settle_shifted shift message .deadLettered
          simp only [handle, Queue.deadLetter, settled]
          rfl
      | abandon =>
          simp only [handle, queue.abandon_shifted shift message now]
          rfl
      | renew timeout =>
          simp only [handle, queue.renew_shifted shift message now timeout]
          rfl
      | send text =>
          have sent (message : Message) (unlocked : message.shifted shift = message) :
              (queue.shifted shift).send message now = (queue.send message now).shifted shift := by
            rw [← queue.send_shifted shift message now, unlocked]
          simp only [handle]
          rw [sent _ rfl]
          rfl
      | fail =>
          simp only [handle, Message.isLocked_shifted]
          rfl
      | sleep | endListen | close | clear | pass => rfl

theorem rest_shifted (iteration : Instant) :
    (listener.shifted shift).rest iteration (queue.shifted shift) now =
      (listener.rest iteration queue now).shifted shift := by
  have sameFlag : (queue.shifted shift).cancelled = queue.cancelled := rfl
  have sameSettings : (queue.shifted shift).settings = queue.settings := rfl
  simp only [rest, sameFlag, sameSettings]
  split
  · rfl
  · split <;> rfl

theorem step_shifted (freshId : MessageId) :
    (listener.shifted shift).step (queue.shifted shift) now freshId =
      (listener.step queue now freshId).shifted shift := by
  have ready := listener.isReady_shifted shift queue now
  unfold step
  rw [ready]
  split
  · rfl
  · cases stage : listener.stage with
    | starting =>
        have sameDescriptor : (queue.shifted shift).descriptor = queue.descriptor := rfl
        simp only [shifted, Stage.shifted, stage, sameDescriptor]
        split <;> rfl
    | betweenIterations =>
        have sameFlag : (queue.shifted shift).cancelled = queue.cancelled := rfl
        simp only [shifted, Stage.shifted, stage, sameFlag]
        split <;> rfl
    | receiving iteration call =>
        simp only [shifted, Stage.shifted, stage]
        exact listener.receive_shifted shift queue now iteration call
    | handling iteration message todo resumeAt =>
        simp only [shifted, Stage.shifted, stage]
        exact listener.handle_shifted shift queue now iteration message todo freshId
    | dispatched iteration =>
        simp only [shifted, Stage.shifted, stage]
        exact listener.rest_shifted shift queue now iteration
    | sleeping | finished =>
        simp only [shifted, Stage.shifted, stage]
        rfl

end Listener

end Data

end LeaseQueue
