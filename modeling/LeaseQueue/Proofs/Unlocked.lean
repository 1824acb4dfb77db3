import LeaseQueue.Proofs.Run

/-!
Which pending messages name a lease. A message that is handed back loses its token, but a send appends a
message as its client holds it. So a copy of a received message is pending with its token, and whoever
peeks at it has the lease of the receiver in hand.
-/

namespace LeaseQueue

theorem Recorded.sent_of_locked {policy : RenewPolicy} {chronicle : Chronicle} {store : Store}
    (recorded : Recorded policy chronicle store) :
    ∀ message ∈ store.pending, message.isLocked = true →
      ∃ time, (time, Deed.sent message) ∈ chronicle := by
  induction recorded with
  | empty => simp
  | @next past store next now deed _ step known =>
      intro message member locked
      have earlier (old : message ∈ store.pending) :
          ∃ time, (time, Deed.sent message) ∈ past ++ [(now, deed)] := by
        obtain ⟨time, listed⟩ := known message old locked
        exact ⟨time, List.mem_append_left _ listed⟩
      cases step with
      | sent added =>
          rcases List.mem_append.mp member with old | new
          · exact earlier old
          · rw [List.mem_singleton.mp new]
            exact ⟨now, by simp⟩
      | granted timeout head =>
          rw [head] at earlier
          exact earlier (List.mem_cons_of_mem _ member)
      | renewed | missed | ended => exact earlier member
      | returned =>
          rcases List.mem_append.mp member with old | new
          · exact earlier old
          · rw [List.mem_singleton.mp new] at locked
            simp [Message.isLocked, Message.withoutToken, Message.stamped] at locked
      | cleared => simp at member

namespace Queue

variable {queue : Queue} {message : Message}

theorem peek_pending (peeked : queue.peek = some message) : message ∈ queue.store.pending :=
  List.mem_of_head? peeked

theorem peekBatch_pending {count : Nat} (peeked : message ∈ queue.peekBatch count) :
    message ∈ queue.store.pending :=
  List.mem_of_mem_take peeked

theorem unlocked_calls (unlocked : message.isLocked = false) (timeout : Duration) (now : Instant) :
    queue.complete message = (message, queue) ∧ queue.deadLetter message = (message, queue) ∧
      queue.abandon message now = (message, queue) ∧ queue.renew message timeout now = queue := by
  have unnamed : message.token = none := by simpa [Message.isLocked] using unlocked
  have same : message.withoutToken = message := by simp [Message.withoutToken, ← unnamed]
  have missing : queue.leaseOf? message = none := by simp [leaseOf?, unnamed]
  have idle := calls_of_none missing timeout now
  rwa [same] at idle

end Queue

theorem Run.recorded_before {run : Run} {earlier later : List (Instant × Operation)}
    (split : run.history = earlier ++ later) :
    run.chronicle = run.fresh.chronicle earlier ++ (run.fresh.after earlier).chronicle later ∧
      Recorded run.settings.renewPolicy (run.fresh.chronicle earlier)
        (run.fresh.after earlier).store := by
  have unused : Recorded run.fresh.settings.renewPolicy [] run.fresh.store := .empty
  exact ⟨by rw [chronicle, split, Queue.chronicle_append], unused.after earlier⟩

theorem Queue.pending_of_sent {queue : Queue} {history : List (Instant × Operation)} {time : Instant}
    {message : Message} (listed : (time, Deed.sent message) ∈ queue.chronicle history) :
    ∃ earlier later, history = earlier ++ later ∧ message ∈ (queue.after earlier).store.pending := by
  induction history generalizing queue with
  | nil => simp [chronicle] at listed
  | cons moment rest ih =>
      obtain ⟨now, operation⟩ := moment
      rcases List.mem_append.mp listed with first | others
      · obtain ⟨deed, done, same⟩ := Option.map_eq_some_iff.mp (Option.mem_toList.mp first)
        obtain ⟨rfl, rfl⟩ := Prod.mk.inj same
        have stored := (operation.perform_effect queue now).store
        rw [done] at stored
        refine ⟨[(now, operation)], rest, rfl, ?_⟩
        change message ∈ (operation.perform queue now).store.pending
        generalize (operation.perform queue now).store = next at stored
        cases stored with
        | sent added => simp
      · obtain ⟨earlier, later, rfl, member⟩ := ih others
        exact ⟨(now, operation) :: earlier, later, rfl, member⟩

/-- In every run a message is pending under a token only as it was sent. So no pending message is locked at
any point of a run exactly if none was sent that was; what a peek shows is then unlocked, and a call on it
leaves the queue as it is. -/
theorem pending_is_locked_only_as_sent (run : Run) :
    (∀ message ∈ run.queue.store.pending, message.isLocked = true →
      ∃ time, (time, Deed.sent message) ∈ run.chronicle) ∧
    ((∀ earlier later, run.history = earlier ++ later →
        ∀ message ∈ (run.fresh.after earlier).store.pending, message.isLocked = false) ↔
      ∀ time message, (time, Deed.sent message) ∈ run.chronicle → message.isLocked = false) ∧
    ((∀ time message, (time, Deed.sent message) ∈ run.chronicle → message.isLocked = false) →
      ∀ message, (run.queue.peek = some message ∨ ∃ count, message ∈ run.queue.peekBatch count) →
        message.isLocked = false ∧ ∀ timeout now,
          run.queue.complete message = (message, run.queue) ∧
          run.queue.deadLetter message = (message, run.queue) ∧
          run.queue.abandon message now = (message, run.queue) ∧
          run.queue.renew message timeout now = run.queue) := by
  have onlySent := run.recorded.sent_of_locked
  refine ⟨onlySent, ⟨?_, ?_⟩, ?_⟩
  · intro unlocked time message listed
    obtain ⟨earlier, later, split, member⟩ := Queue.pending_of_sent listed
    exact unlocked earlier later split message member
  · intro unlocked earlier later split message member
    obtain ⟨whole, recorded⟩ := Run.recorded_before split
    rw [Bool.eq_false_iff]
    intro locked
    obtain ⟨time, listed⟩ := recorded.sent_of_locked message member locked
    have sentUnlocked := unlocked time message (whole ▸ List.mem_append_left _ listed)
    simp [sentUnlocked] at locked
  · intro unlocked message peeked
    have member : message ∈ run.queue.store.pending := by
      rcases peeked with first | ⟨count, listed⟩
      · exact Queue.peek_pending first
      · exact Queue.peekBatch_pending listed
    have own : message.isLocked = false := by
      rw [Bool.eq_false_iff]
      intro locked
      obtain ⟨time, listed⟩ := onlySent message member locked
      simp [unlocked time message listed] at locked
    exact ⟨own, Queue.unlocked_calls own⟩

def Run.handingOver : Run where
  system := {}
  name := "orders"
  settings := {}
  events :=
    let message : Message := { id := ⟨1⟩, correlationId := "c", kind := "job", payload := [1] }
    [.call 0 (.send message), .call 0 (.take (.ofMillis 1000)),
      .call 0 (.abandon (message.withToken ⟨0⟩))]

theorem pending_is_locked_only_as_sent_handingOver :
    (∀ time message, (time, Deed.sent message) ∈ Run.handingOver.chronicle →
      message.isLocked = false) ∧
    ∃ message, Run.handingOver.queue.peek = some message ∧ message.isLocked = false ∧
      ∀ now, Run.handingOver.queue.abandon message now = (message, Run.handingOver.queue) := by
  have unlocked : ∀ time message, (time, Deed.sent message) ∈ Run.handingOver.chronicle →
      message.isLocked = false := by
    obtain ⟨sent, granted, timeout, lease, returned, deeds, plain⟩ :
        ∃ sent granted timeout lease returned,
          Run.handingOver.chronicle.map Prod.snd =
            [.sent sent, .granted granted timeout none, .returned lease returned] ∧
          sent.isLocked = false := ⟨_, _, _, _, _, rfl, rfl⟩
    intro time message listed
    have named := List.mem_map_of_mem (f := Prod.snd) listed
    rw [deeds] at named
    obtain rfl : message = sent := by simpa using named
    exact plain
  obtain ⟨-, -, calls⟩ := pending_is_locked_only_as_sent Run.handingOver
  obtain ⟨message, peeked⟩ : ∃ message, Run.handingOver.queue.peek = some message := ⟨_, rfl⟩
  obtain ⟨own, idle⟩ := calls unlocked message (Or.inl peeked)
  exact ⟨unlocked, message, peeked, own, fun now => (idle (.ofMillis 0) now).2.2.1⟩

def Run.resending : Run where
  system := {}
  name := "orders"
  settings := {}
  events :=
    let message : Message := { id := ⟨1⟩, correlationId := "c", kind := "job", payload := [1] }
    [.call 0 (.send message), .call 0 (.take (.ofMillis 1000)),
      .call 0 (.send (message.withToken ⟨0⟩))]

/-- Completing what a peek showed ends the lease of the receiver. -/
theorem resent_copy_names_live_lease :
    ∃ message, Run.resending.queue.peek = some message ∧ message.isLocked = true ∧
      Run.resending.queue.lockedCount = 1 ∧
      (Run.resending.queue.complete message).2.lockedCount = 0 ∧
      (Run.resending.queue.complete message).2.counters.completed = 1 := by
  refine ⟨_, rfl, ?_⟩
  decide

end LeaseQueue
