import LeaseQueue.Proofs.Pace
import LeaseQueue.Proofs.Renewal
import Mathlib.Data.List.Flatten

/-!
What a listener does with the messages it receives. Each goes to the receiver, or back to the end of
the line when a stop was asked for.
-/

namespace LeaseQueue

theorem Operation.deed_delivers {operation : Operation}
    (other : ∀ timeout, operation ≠ .take timeout) (queue : Queue) (now : Instant) :
    Chronicle.delivered ((operation.deed? queue now).map fun deed => (now, deed)).toList = [] := by
  cases operation with
  | take timeout => exact absurd rfl (other timeout)
  | abandon message =>
      simp only [deed?]
      cases queue.leaseOf? message with
      | none => rfl
      | some lease => cases expired : lease.term.isExpired now <;> simp [Chronicle.delivered, expired]
  | complete message | deadLetter message =>
      simp only [deed?]
      cases queue.leaseOf? message <;> rfl
  | renew message timeout =>
      simp only [deed?]
      cases message.token <;> rfl
  | openUp | close | clear | endListen | resume | peek | peekBatch | send => rfl

theorem Queue.delivered_of_others {operations : List Operation}
    (others : ∀ operation ∈ operations, ∀ timeout, operation ≠ .take timeout) (queue : Queue)
    (now : Instant) :
    Chronicle.delivered (queue.chronicle (operations.map fun operation => (now, operation))) = [] := by
  induction operations generalizing queue with
  | nil => rfl
  | cons operation rest ih =>
      rw [List.map_cons, Queue.chronicle, Chronicle.delivered_append,
        Operation.deed_delivers (others operation List.mem_cons_self),
        ih fun other member => others other (List.mem_cons_of_mem _ member), List.append_nil]

namespace Listener

def granted (listener : Listener) (queue : Queue) (now : Instant) : List Message :=
  match listener.stage with
  | .receiving _ call =>
    match call.stage with
    | .registered _ => ((queue.take? call.timeout now).map Prod.fst).toList
    | _ => []
  | _ => []

theorem Turn.received_eq (turn : Turn) :
    turn.received = turn.listener.granted turn.queue turn.now := by
  obtain ⟨⟨listener, queue, now⟩, freshId⟩ := turn
  simp only [received, chronicle, granted]
  cases stage : listener.stage with
  | receiving iteration call =>
      cases callStage : call.stage with
      | registered arrivals =>
          have ready : listener.isReady queue now = true := by
            simp [isReady, stage, Reception.isReady, callStage]
          simp only [operations, ready, stage, Reception.operations, callStage, handBack]
          cases taken : queue.take? call.timeout now with
          | none => simp [Queue.chronicle, Operation.deed?, taken, Chronicle.delivered]
          | some found =>
              have granted : Chronicle.delivered
                  (((Operation.take call.timeout).deed? queue now).map
                    fun deed => (now, deed)).toList = [found.1] := by
                simp [Operation.deed?, taken, Chronicle.delivered]
              have returned : ∀ operation ∈ if queue.cancelled then [Operation.abandon found.1] else [],
                  ∀ timeout, operation ≠ .take timeout := by
                intro operation member
                split at member <;> simp_all
              simp only [Bool.not_true, Bool.false_eq_true, if_false, List.cons_append,
                List.nil_append, List.map_cons, Queue.chronicle, Chronicle.delivered_append, granted,
                Queue.delivered_of_others returned]
              rfl
      | unstarted | looking | parked | finished =>
          simp [operations, stage, Reception.operations, callStage, handBack, Queue.chronicle,
            Chronicle.delivered]
  | handling iteration message todo resumeAt =>
      cases todo with
      | nil => simp [operations, stage, Queue.chronicle, Chronicle.delivered]
      | cons action todo =>
          cases ready : listener.isReady queue now with
          | false => simp [operations, ready, Queue.chronicle, Chronicle.delivered]
          | true =>
              simp only [operations, ready, stage]
              refine Queue.delivered_of_others ?_ queue now
              intro operation member timeout
              cases action <;> simp_all [Action.operation?]
  | starting | betweenIterations | dispatched | sleeping | finished =>
      simp [operations, stage, Queue.chronicle, Chronicle.delivered]

/-- What becomes of the message, if any, that a listener is granted in one step. -/
inductive Handled (queue : Queue) (now : Instant) :
    (received given : List Message) → (next : Queue) → Prop
  | nothing (next : Queue) : Handled queue now [] [] next
  | called (message : Message) {token : Token} {lease : Lease} {next : Queue}
      (calm : queue.cancelled = false) (named : message.token = some token)
      (leased : next.store.lease? token = some lease) (same : lease.message = message) :
      Handled queue now [message] [message] next
  | handedBack (message : Message) {token : Token} {next : Queue}
      (cancelled : queue.cancelled = true) (named : message.token = some token)
      (unleased : next.store.lease? token = none)
      (last : next.store.pending =
        queue.store.pending.tail ++ [message.withoutToken.stamped now]) :
      Handled queue now [message] [] next

section Moves

variable {listener next : Listener} {queue rest : Queue} {now : Instant} {freshId : MessageId}
  {notices : List Notice}

theorem granted_of_waiting (waiting : listener.isReady queue now = false) :
    listener.granted queue now = [] := by
  unfold granted
  split
  · split
    · simp_all [isReady, Reception.isReady]
    · rfl
  · rfl

theorem granted_of_taken {iteration : Instant} {call : Reception} {arrivals : Nat}
    {message : Message} (receiving : listener.stage = .receiving iteration call)
    (registered : call.stage = .registered arrivals)
    (taken : queue.take? call.timeout now = some (message, rest)) :
    listener.granted queue now = [message] := by
  simp only [granted, receiving, registered, taken]
  rfl

theorem granted_of_empty (empty : queue.store.pending = []) (listener : Listener) :
    listener.granted queue now = [] := by
  unfold granted
  split
  · split
    · rw [Queue.take?_eq_none.mpr empty]
      rfl
    · rfl
  · rfl

theorem Move.handled {interval : Duration} {latest : Instant}
    (move : Move listener queue now freshId next rest notices)
    (timed : listener.Timed interval latest) (paces : 0 < interval.nanos) :
    Handled queue now (listener.granted queue now) (notices.filterMap Notice.message?) rest := by
  have idle (grants : listener.granted queue now = [])
      (silent : notices.filterMap Notice.message? = []) :
      Handled queue now (listener.granted queue now) (notices.filterMap Notice.message?) rest := by
    rw [grants, silent]
    exact .nothing rest
  cases move with
  | idles waiting => exact idle (granted_of_waiting waiting) rfl
  | refused stage | opens stage | begins stage | sleeps stage | restarts stage | wakes stage =>
      exact idle (by simp [granted, stage]) rfl
  | acts stage | ends stage => exact idle (by simp [granted, stage]) rfl
  | stops unbusy =>
      rcases unbusy with stage | ⟨iteration, stage⟩
      · exact idle (by simp [granted, stage]) rfl
      · exact idle (by simp [granted, stage]) rfl
  | misses receiving registered empty => exact idle (granted_of_empty empty listener) rfl
  | waits receiving advanced unfinished =>
      cases advanced with
      | parks registered empty => exact idle (granted_of_empty empty listener) rfl
      | takes | givesUp => simp [Reception.isFinished] at unfinished
      | begins stage | registers stage | wakes stage =>
          exact idle (by simp [granted, receiving, stage]) rfl
      | idles waiting => exact idle (granted_of_waiting (by simpa [isReady, receiving])) rfl
  | gives receiving registered taken calm =>
      obtain ⟨named, leased⟩ := Queue.leaseOf?_taken taken
      rw [granted_of_taken receiving registered taken]
      exact .called _ calm named ((Queue.leaseOf?_of_token named).symm.trans leased) rfl
  | handsBack receiving registered taken cancelled =>
      obtain ⟨named, leased⟩ := Queue.leaseOf?_taken taken
      rw [granted_of_taken receiving registered taken]
      rw [Timed, receiving] at timed
      -- The lease runs for an interval from now, so the message does go back.
      have running : now < now.deadlineAfter interval := now.lt_deadlineAfter paces
      rw [← timed.2.timeout_eq] at running
      rw [Queue.abandon_of_running leased (decide_eq_false (Instant.not_le.mpr running))]
      refine .handedBack _ cancelled named ?_ ?_
      · rw [Store.lease?_push, Store.lease?_withoutLease, if_pos rfl]
      · obtain ⟨first, others, head, _, rfl⟩ := Queue.take?_eq_some taken
        simp [head]

theorem Move.ended (move : Move listener queue now freshId next rest notices)
    {succeeded locked : Bool} (ended : .ended succeeded locked ∈ notices) :
    rest = queue ∧ next.isFinished = false := by
  cases move with
  | ends => exact ⟨rfl, rfl⟩
  | _ => simp at ended

theorem Move.finishes (move : Move listener queue now freshId next rest notices)
    (finished : next.isFinished = true) :
    listener.isFinished = true ∨ queue.cancelled = true ∨
      listener.stage = .starting ∧ queue.isOpen = false := by
  cases move with
  | idles => exact Or.inl finished
  | refused starting closed => exact Or.inr (Or.inr ⟨starting, closed⟩)
  | stops unbusy cancelled => exact Or.inr (Or.inl cancelled)
  | _ => simp [isFinished] at finished

end Moves

theorem Handled.sublist {queue next : Queue} {now : Instant} {received given : List Message}
    (handled : Handled queue now received given next) : given.Sublist received := by
  cases handled with
  | nothing | called => exact List.Sublist.refl _
  | handedBack => exact List.nil_sublist _

end Listener

namespace Listening

variable {listening : Listening}

theorem timed_of_turn {more : List System.Event} {turn : Listener.Turn}
    (member : turn ∈ listening.turnsDuring more) :
    turn.listener.Timed listening.interval turn.now := by
  obtain ⟨early, _, present⟩ := scene_of_turn member
  exact (timed present :)

theorem handled (paces : 0 < listening.interval.nanos) {more : List System.Event}
    {turn : Listener.Turn} (member : turn ∈ listening.turnsDuring more) :
    Listener.Handled turn.queue turn.now turn.received turn.given turn.next.queue := by
  rw [turn.received_eq]
  exact turn.move.handled (timed_of_turn member) paces

theorem further_chronicle (more : List System.Event) :
    (listening.further more).whole.chronicle =
      listening.whole.chronicle ++
        listening.whole.queue.chronicle (listening.historyDuring more) := by
  rw [further_whole, Run.further_chronicle]
  rfl

theorem received_during (event : System.Event) :
    ((listening.turnsDuring [event]).flatMap Listener.Turn.received).Sublist
      (Chronicle.delivered (listening.whole.queue.chronicle (listening.historyDuring [event]))) := by
  rw [turnsDuring_singleton, System.turn?]
  split
  · rename_i own
    cases present : listening.final.scene? listening.index listening.id with
    | none => exact List.nil_sublist _
    | some scene =>
        rw [historyDuring_singleton, own, System.operations_turn present, ← queue_of_scene present,
          ← now_of_scene present, Option.map_some, Option.toList_some, List.flatMap_singleton]
        exact List.Sublist.refl _
  · exact List.nil_sublist _

theorem received_sublist (more : List System.Event) :
    ((listening.turnsDuring more).flatMap Listener.Turn.received).Sublist
      (listening.further more).whole.chronicle.delivered := by
  induction more using List.reverseRecOn with
  | nil => exact List.nil_sublist _
  | append_singleton early event ih =>
      rw [← further_further, further_chronicle, Chronicle.delivered_append, turnsDuring_append,
        List.flatMap_append]
      exact ih.append (received_during event)

/-- From an event on the message is leased, until a deed takes the lease away. -/
def Leases (listening : Listening) (event : System.Event) (message : Message) : Prop :=
  ∃ token, message.token = some token ∧ ∀ (more : List System.Event) (later : Chronicle),
    (listening.further (event :: more)).whole.chronicle =
      (listening.further [event]).whole.chronicle ++ later →
    (∀ entry ∈ later, entry.2.replaces token = false) →
    ∃ lease, (listening.further (event :: more)).whole.queue.store.lease? token = some lease ∧
      lease.message = message

theorem leases_of_given (paces : 0 < listening.interval.nanos) {event : System.Event}
    {message : Message} (given : message ∈ listening.givenDuring [event]) :
    listening.Leases event message := by
  obtain ⟨turn, member, called⟩ := List.mem_flatMap.mp given
  have present := scene_of_last member
  have handled := handled paces member
  generalize turn.received = received, turn.given = given at handled called
  cases handled with
  | nothing | handedBack => simp at called
  | called message calm named leased same =>
      obtain rfl := List.mem_singleton.mp called
      refine ⟨_, named, ?_⟩
      intro more later split kept
      rw [queue_of_scene present, (listening.further [event]).whole.recorded.lease?_eq_tenure,
        Option.map_eq_some_iff] at leased
      obtain ⟨tenure, known, rfl⟩ := leased
      rw [(listening.further (event :: more)).whole.recorded.lease?_eq_tenure, split,
        Chronicle.tenure?_append_of_kept known kept]
      exact ⟨_, rfl, same⟩

structure Dispatches (listening : Listening) : Prop where
  handled : ∀ turn ∈ listening.turns,
    Listener.Handled turn.queue turn.now turn.received turn.given turn.next.queue
  inOrder : (listening.turns.flatMap Listener.Turn.given).Sublist
    (listening.turns.flatMap Listener.Turn.received)
  granted : (listening.turns.flatMap Listener.Turn.received).Sublist
    listening.whole.chronicle.delivered
  ended : ∀ turn ∈ listening.turns, ∀ succeeded locked,
    .ended succeeded locked ∈ turn.outcome.notices →
      turn.next.queue = turn.queue ∧ turn.next.listener.isFinished = false
  leased : ∀ event, ∀ message ∈ listening.givenDuring [event], listening.Leases event message
  finishes : ∀ turn ∈ listening.turns, turn.next.listener.isFinished = true →
    turn.listener.isFinished = true ∨ turn.queue.cancelled = true ∨
      turn.listener.stage = .starting ∧ turn.queue.isOpen = false
  paced : Listener.Paced listening.interval
    (listening.begun.attendedDuring listening.events = true) listening.starts listening.dealt

end Listening

/-- What a listener receives goes to its receiver, in the order in which its queue granted it, or goes
back to the end of the line when a stop was asked for. However the receiver's call ends, the listener
goes on and the message stays leased until a deed takes the lease away. A listener that started ends
only when it sees the request, and its iterations are an interval apart or follow one another. -/
theorem listener_dispatches (listening : Listening) (paces : .ofMillis 1 ≤ listening.interval) :
    listening.Dispatches := by
  have positive : 0 < listening.interval.nanos := Nat.lt_of_lt_of_le (by decide) paces
  have begins : 0 < listening.begun.interval.nanos := positive
  have handled : ∀ turn ∈ listening.turns,
      Listener.Handled turn.queue turn.now turn.received turn.given turn.next.queue :=
    fun _ member => Listening.handled begins member
  refine ⟨handled, ?_, listening.begun.received_sublist listening.events, ?_, ?_, ?_,
    listening.iterations_paced⟩
  · exact List.Sublist.flatMap_right _ fun turn member => (handled turn member).sublist
  · exact fun turn _ _ _ ended => turn.move.ended ended
  · exact fun _ _ given => Listening.leases_of_given positive given
  · exact fun turn _ finished => turn.move.finishes finished

theorem listener_dispatches_waiting :
    let first : Message := { id := ⟨1⟩, correlationId := "c", kind := "job", payload := [49] }
    let second : Message := { id := ⟨2⟩, correlationId := "c", kind := "job", payload := [50] }
    let listening := Listening.waiting.further
      [.call 0 (.send first), .turn 0, .turn 0, .turn 0, .turn 0, .turn 0, .turn 0,
        .pass (.ofMillis 100), .turn 0, .turn 0, .turn 0, .turn 0, .call 0 .endListen,
        .call 0 (.send second), .turn 0, .turn 0, .turn 0]
    listening.turns.flatMap Listener.Turn.given = [(first.stamped .origin).withToken ⟨0⟩] ∧
      listening.starts = [⟨0⟩, ⟨100000000⟩] ∧
      listening.dealt = [⟨0⟩, ⟨100000000⟩] ∧ listening.Dispatches := by
  intro first second listening
  exact ⟨by decide, by decide, by decide, listener_dispatches _ (by decide)⟩

end LeaseQueue
