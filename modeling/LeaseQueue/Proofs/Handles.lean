import LeaseQueue.Proofs.Settlement
import LeaseQueue.Proofs.Line

/-!
Several queues side by side. A token is a number that each queue counts for itself, so a queue cannot tell
a message of another queue from its own message of the same number.
-/

namespace LeaseQueue

/-- What a client can ask for with a message in hand. -/
inductive Use where
  | complete
  | deadLetter
  | abandon
  | renew (timeout : Duration)
deriving DecidableEq

def Use.call (use : Use) (message : Message) : Operation :=
  match use with
  | .complete => .complete message
  | .deadLetter => .deadLetter message
  | .abandon => .abandon message
  | .renew timeout => .renew message timeout

namespace Use

variable (use : Use) {queue : Queue} {message other : Message} {lease : Lease} (now : Instant)

theorem perform_of_none (missing : queue.leaseOf? message = none) :
    (use.call message).perform queue now = queue := by
  cases use with
  | complete | deadLetter => exact congrArg Prod.snd (Queue.settle_of_none _ missing)
  | abandon => exact congrArg Prod.snd (Queue.abandon_of_none missing)
  | renew timeout => exact Queue.renew_of_none timeout missing

theorem perform_congr (same : message.token = other.token) :
    (use.call message).perform queue now = (use.call other).perform queue now := by
  have sought : queue.leaseOf? other = queue.leaseOf? message := by
    simp only [Queue.leaseOf?, same]
  cases found : queue.leaseOf? message with
  | none =>
      rw [use.perform_of_none now found, use.perform_of_none now (sought.trans found)]
  | some lease =>
      have held := sought.trans found
      cases use with
      | complete | deadLetter =>
          simp only [call, Operation.perform, Queue.complete, Queue.deadLetter,
            Queue.settle_of_some _ found, Queue.settle_of_some _ held]
      | abandon =>
          simp only [call, Operation.perform]
          cases expired : lease.term.isExpired now with
          | true =>
              rw [Queue.abandon_of_lapsed found expired, Queue.abandon_of_lapsed held expired]
          | false =>
              rw [Queue.abandon_of_running found expired, Queue.abandon_of_running held expired]
      | renew timeout =>
          simp only [call, Operation.perform, Queue.renew_of_some timeout found,
            Queue.renew_of_some timeout held]

theorem perform_frame {token : Token} (named : message.token = some token) :
    let next := (use.call message).perform queue now
    (∀ different, different ≠ token →
      next.store.lease? different = queue.store.lease? different) ∧
    next.store.nextToken = queue.store.nextToken ∧
    queue.store.pending <+: next.store.pending := by
  intro next
  cases found : queue.leaseOf? message with
  | none =>
      have same : next = queue := use.perform_of_none now found
      rw [same]
      exact ⟨fun _ _ => rfl, rfl, List.prefix_rfl⟩
  | some lease =>
      obtain ⟨own, held⟩ := Queue.leaseOf?_eq_some found
      obtain rfl := Option.some.inj (named.symm.trans own)
      have removed {store : Store} (same : store.lease? = (queue.store.withoutLease lease.token).lease?)
          {different : Token} (apart : different ≠ lease.token) :
          store.lease? different = queue.store.lease? different := by
        rw [same, Store.lease?_withoutLease, if_neg apart]
      cases use with
      | complete | deadLetter =>
          have settled : next.store = queue.store.withoutLease lease.token :=
            congrArg (fun outcome => outcome.2.store) (Queue.settle_of_some _ found)
          rw [settled]
          exact ⟨fun _ => removed rfl, rfl, List.prefix_rfl⟩
      | abandon =>
          have outcome : next = (queue.abandon message now).2 := rfl
          cases expired : lease.term.isExpired now with
          | true =>
              rw [outcome, Queue.abandon_of_lapsed found expired]
              exact ⟨fun _ => removed rfl, rfl, List.prefix_rfl⟩
          | false =>
              rw [outcome, Queue.abandon_of_running found expired]
              exact ⟨fun _ => removed rfl, rfl, List.prefix_append _ _⟩
      | renew timeout =>
          have outcome : next = queue.renew message timeout now := rfl
          rw [outcome, Queue.renew_of_some timeout found]
          refine ⟨fun different apart => ?_, rfl, List.prefix_rfl⟩
          rw [Store.lease?_withRenewed held, if_neg apart]

end Use

theorem Recorded.lease_numbered {policy : RenewPolicy} {chronicle : Chronicle} {store : Store}
    (recorded : Recorded policy chronicle store) :
    ∀ lease ∈ store.leases, ∃ number, chronicle.delivered[number]? = some lease.message ∧
      lease.token = Token.nth number := by
  induction recorded with
  | empty => simp
  | @next past store next now deed before step known =>
      have old {lease : Lease} (member : lease ∈ store.leases) :
          ∃ number, (Chronicle.delivered (past ++ [(now, deed)]))[number]? = some lease.message ∧
            lease.token = Token.nth number := by
        obtain ⟨number, listed, numbered⟩ := known lease member
        have bound : number < past.delivered.length := (List.getElem?_eq_some_iff.mp listed).1
        refine ⟨number, ?_, numbered⟩
        rw [Chronicle.delivered_append, List.getElem?_append_left bound, listed]
      intro lease member
      cases step with
      | sent | missed => exact old member
      | granted timeout head =>
          rw [Store.withGranted_leases, List.mem_append, List.mem_singleton] at member
          rcases member with kept | rfl
          · exact old (List.mem_of_mem_filter kept)
          · refine ⟨past.delivered.length, ?_, before.nextToken_eq⟩
            rw [Chronicle.delivered_append]
            exact List.getElem?_concat_length
      | renewed timeout found =>
          obtain ⟨former, listed, rfl⟩ := List.mem_map.mp member
          obtain ⟨number, delivered, numbered⟩ := old listed
          refine ⟨number, ?_, ?_⟩
          · split <;> exact delivered
          · split <;> exact numbered
      | returned | ended => exact old (List.mem_of_mem_filter member)
      | cleared => simp at member

theorem Recorded.delivered_token {policy : RenewPolicy} {chronicle : Chronicle} {store : Store}
    (recorded : Recorded policy chronicle store) {number : Nat} {message : Message}
    (listed : chronicle.delivered[number]? = some message) :
    message.token = some (Token.nth number) := by
  obtain ⟨front, divided⟩ := recorded.divided
  rw [divided.delivered_eq, List.getElem?_mapIdx] at listed
  obtain ⟨first, _, rfl⟩ := Option.map_eq_some_iff.mp listed
  rfl

/-- Queues side by side, each of them unused, and all that happens to them from then on. -/
structure Fleet where
  queues : List (String × Settings)
  events : List System.Event

namespace Fleet

variable (fleet : Fleet)

def start : System :=
  { queues := fleet.queues.map fun (name, settings) => Queue.ofSettings name settings }

def final : System := fleet.start.run fleet.events

def queue (index : Nat) : Queue := fleet.final.queue index

def chronicle (index : Nat) : Chronicle :=
  (fleet.start.queue index).chronicle (fleet.start.history index fleet.events)

variable {fleet} {index : Nat}

theorem recorded (bound : index < fleet.queues.length) :
    Recorded (fleet.start.queue index).settings.renewPolicy (fleet.chronicle index)
      (fleet.queue index).store := by
  let fresh := Queue.ofSettings fleet.queues[index].1 fleet.queues[index].2
  have made : fleet.start.queue? index = some fresh := by simp [start, System.queue?, bound, fresh]
  have first : fleet.start.queue index = fresh := by rw [System.queue, made, Option.getD_some]
  have last : fleet.queue index = fresh.after (fleet.start.history index fleet.events) := by
    rw [queue, System.queue, final, System.run_queue?, made]
    rfl
  have unused : Recorded fresh.settings.renewPolicy [] fresh.store := .empty
  rw [chronicle, first, last]
  exact unused.after (fleet.start.history index fleet.events)

end Fleet

/-- In every run of any number of queues, a message that one of them granted with its receive of a number
bears that number as its token, and any of the queues takes it for its own message of that number. Where no
lease is kept under the number, as in a queue that granted fewer, a call on the message does nothing. Where
one is, it is the lease of a message of that queue's own, and a call does to it what a call on that message
does, and ends it when it completes. No other lease, and no other queue, is changed. -/
theorem handle_passes_for_own (fleet : Fleet) (granting other number : Nat) {handle : Message}
    (known : granting < fleet.queues.length) (present : other < fleet.queues.length)
    (received : (fleet.chronicle granting).delivered[number]? = some handle) :
    let queue := fleet.queue other
    let token := Token.nth number
    handle.token = some token ∧
    (token ∉ queue.store.tokens → ∀ (use : Use) now, (use.call handle).perform queue now = queue) ∧
    (number < UInt64.size → (fleet.chronicle other).delivered.length ≤ number →
      token ∉ queue.store.tokens) ∧
    (∀ lease, queue.store.lease? token = some lease →
      (∃ place, (fleet.chronicle other).delivered[place]? = some lease.message ∧
        Token.nth place = token) ∧
      (∀ (use : Use) now,
        (use.call handle).perform queue now = (use.call lease.message).perform queue now) ∧
      token ∉ (queue.complete handle).2.store.tokens) ∧
    (∀ (use : Use) now, let next := (use.call handle).perform queue now
      (∀ different, different ≠ token →
        next.store.lease? different = queue.store.lease? different) ∧
      next.store.nextToken = queue.store.nextToken ∧ queue.store.pending <+: next.store.pending) ∧
    ∀ (use : Use) index, index ≠ other →
      (fleet.final.after (.call other (use.call handle))).queue? index = fleet.final.queue? index := by
  intro queue token
  have named : handle.token = some token := (Fleet.recorded known).delivered_token received
  have recorded := Fleet.recorded present
  refine ⟨named, ?_, ?_, ?_, fun use now => use.perform_frame now named, ?_⟩
  · intro gone use now
    exact use.perform_of_none now (Queue.leaseOf?_stale named gone)
  · intro short fewer held
    have bound := recorded.token_lt (by omega) token held
    rw [Token.nth_toNat short] at bound
    omega
  · intro lease found
    obtain ⟨member, sameToken⟩ := Store.lease?_eq_some found
    obtain ⟨place, delivered, numbered⟩ := recorded.lease_numbered lease member
    have own := recorded.delivered_token delivered
    rw [← numbered, sameToken] at own
    refine ⟨⟨place, delivered, numbered.symm.trans sameToken⟩, ?_, ?_⟩
    · exact fun use now => use.perform_congr now (named.trans own.symm)
    · have settled : queue.complete handle = _ :=
        Queue.settle_of_some _ ((Queue.leaseOf?_of_token named).trans found)
      rw [settled, Store.withoutLease_tokens, sameToken]
      simp
  · intro use index apart
    rw [System.after_queue?]
    cases held : fleet.final.queue? index with
    | none => rfl
    | some neighbour => simp [System.operations, Ne.symm apart, Queue.performAll]

def Fleet.abreast : Fleet where
  queues := [("a", {}), ("b", {})]
  events :=
    let message : Message := { id := ⟨1⟩, correlationId := "c", kind := "job", payload := [1] }
    [.call 0 (.send message), .call 1 (.send { message with id := ⟨2⟩ }),
      .call 0 (.take (.ofMillis 1000)), .call 1 (.take (.ofMillis 1000))]

theorem handle_passes_for_own_abreast :
    ∃ handle lease, (Fleet.abreast.chronicle 0).delivered[0]? = some handle ∧
      (Fleet.abreast.queue 1).store.lease? (Token.nth 0) = some lease ∧
      lease.message.id ≠ handle.id ∧
      ∀ (use : Use) now, (use.call handle).perform (Fleet.abreast.queue 1) now =
        (use.call lease.message).perform (Fleet.abreast.queue 1) now := by
  refine ⟨_, _, rfl, rfl, by decide, ?_⟩
  obtain ⟨_, _, _, leased, _⟩ := handle_passes_for_own Fleet.abreast 0 1 0 (by decide) (by decide) rfl
  exact (leased _ rfl).2.1

/-- Completing a message of one queue on another ends the lease of another message there. -/
theorem handle_ends_lease_of_other_queue :
    ∃ handle, (Fleet.abreast.chronicle 0).delivered[0]? = some handle ∧
      (Fleet.abreast.queue 1).lockedCount = 1 ∧
      ((Fleet.abreast.queue 1).complete handle).2.lockedCount = 0 ∧
      ((Fleet.abreast.queue 1).complete handle).2.counters.completed = 1 := by
  refine ⟨_, rfl, ?_⟩
  decide

end LeaseQueue
