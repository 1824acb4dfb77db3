import LeaseQueue.Proofs.Tokens

/-!
Rounds of a receive and the return of what it got. They leave a queue as it was but for its next token and
its counts, so `2 ^ 64` receives later the tokens start again while the first lease is still there.
-/

namespace LeaseQueue

theorem System.history_calls (system : System) (index : Nat) (calls : List Operation) :
    system.history index (calls.map (Event.call index)) =
      calls.map fun operation => (system.clock, operation) := by
  induction calls generalizing system with
  | nil => rfl
  | cons operation rest ih =>
      have sameClock : (system.after (.call index operation)).clock = system.clock := rfl
      rw [List.map_cons, history, ih, sameClock]
      simp [operations]

/-- A receive that is handed back at once, a number of times; the tokens count up from the first. -/
def Operation.rounds (message : Message) (timeout : Duration) (first : Nat) :
    (count : Nat) → List Operation
  | 0 => []
  | count + 1 =>
    .take timeout :: .abandon (message.withToken (Token.nth first)) ::
      rounds message timeout (first + 1) count

def Queue.rounded (queue : Queue) (count : Nat) : Queue :=
  { queue with
    store := { queue.store with nextToken := ⟨queue.store.nextToken.number + .ofNat count⟩ }
    counters := { queue.counters with
      sent := queue.counters.sent + .ofNat count
      received := queue.counters.received + .ofNat count
      abandoned := queue.counters.abandoned + .ofNat count }
    arrivals := queue.arrivals + count }

namespace Store

theorem withoutLease_of_fresh {store : Store} {token : Token} (fresh : token ∉ store.tokens) :
    store.withoutLease token = store := by
  have kept : store.leases.filter (fun lease => lease.token != token) = store.leases := by
    rw [List.filter_eq_self]
    intro lease member
    simp only [bne_iff_ne, ne_eq]
    rintro rfl
    exact fresh (List.mem_map_of_mem member)
  rw [withoutLease, kept]

theorem withoutLease_withGranted {store : Store} (fresh : store.nextToken ∉ store.tokens)
    (message : Message) (rest : List Message) (timeout : Duration) (now : Instant) :
    (store.withGranted message rest timeout now).withoutLease store.nextToken =
      { store with pending := rest, nextToken := store.nextToken.next } := by
  have kept := congrArg Store.leases (withoutLease_of_fresh fresh)
  simp only [withoutLease] at kept
  simp [withGranted, withLease, withoutLease, kept]

end Store

namespace Queue

variable {queue : Queue} {message : Message} {timeout : Duration} {now : Instant}

theorem rounded_zero (queue : Queue) : queue.rounded 0 = queue := by
  simp [rounded]

theorem rounded_rounded (queue : Queue) (first second : Nat) :
    (queue.rounded first).rounded second = queue.rounded (first + second) := by
  simp [rounded, UInt64.ofNat_add, UInt64.add_assoc, Nat.add_assoc]

theorem take_of_pending {first : Message} {rest : List Message}
    (head : queue.store.pending = first :: rest) (timeout : Duration) (now : Instant) :
    (Operation.take timeout).perform queue now =
      { queue with
        store := queue.store.withGranted (first.withToken queue.store.nextToken) rest timeout now
        counters := queue.counters.countReceived } := by
  rw [Operation.perform, take?_of_pending head]
  rfl

theorem deed_of_pending {first : Message} {rest : List Message}
    (head : queue.store.pending = first :: rest) (timeout : Duration) (now : Instant) :
    (Operation.take timeout).deed? queue now =
      some (.granted (first.withToken queue.store.nextToken) timeout
        (queue.store.lease? queue.store.nextToken)) := by
  rw [Operation.deed?, take?_of_pending head]
  rfl

end Queue

/-- Whether a queue can go through some rounds with a message: nothing else is pending, and no lease has
one of the tokens to come. -/
structure Queue.Revolves (queue : Queue) (message : Message) (timeout : Duration) (now : Instant)
    (first count : Nat) : Prop where
  alone : queue.store.pending = [message.stamped now]
  unlocked : message.token = none
  running : (Term.grant timeout now).isExpired now = false
  numbered : queue.store.nextToken = Token.nth first
  fresh : ∀ number, first ≤ number → number < first + count →
    Token.nth number ∉ queue.store.tokens

namespace Queue.Revolves

variable {queue : Queue} {message : Message} {timeout : Duration} {now : Instant} {first count : Nat}

theorem nextToken_fresh (revolves : queue.Revolves message timeout now first (count + 1)) :
    queue.store.nextToken ∉ queue.store.tokens := by
  rw [revolves.numbered]
  exact revolves.fresh first (Nat.le_refl _) (by omega)

theorem next (revolves : queue.Revolves message timeout now first (count + 1)) :
    (queue.rounded 1).Revolves message timeout now (first + 1) count where
  alone := revolves.alone
  unlocked := revolves.unlocked
  running := revolves.running
  numbered := by
    rw [← Token.nth_next, ← revolves.numbered]
    rfl
  fresh number low high := revolves.fresh number (by omega) (by omega)

theorem leaseOf?_taken (revolves : queue.Revolves message timeout now first count) :
    ((Operation.take timeout).perform queue now).leaseOf?
        (message.withToken queue.store.nextToken) =
      some ⟨queue.store.nextToken, (message.stamped now).withToken queue.store.nextToken,
        Term.grant timeout now⟩ := by
  rw [take_of_pending revolves.alone, leaseOf?_of_token rfl, Store.lease?_withGranted, if_pos rfl]

theorem perform_round (revolves : queue.Revolves message timeout now first (count + 1)) :
    (Operation.abandon (message.withToken (Token.nth first))).perform
        ((Operation.take timeout).perform queue now) now = queue.rounded 1 := by
  have stored := Store.withoutLease_withGranted revolves.nextToken_fresh
    ((message.stamped now).withToken queue.store.nextToken) [] timeout now
  have same : ((message.stamped now).withToken queue.store.nextToken).withoutToken.stamped now =
      message.stamped now := by
    simp [Message.withToken, Message.withoutToken, Message.stamped, revolves.unlocked]
  have handed := abandon_of_running revolves.leaseOf?_taken revolves.running
  rw [← revolves.numbered]
  refine (congrArg Prod.snd handed).trans ?_
  rw [take_of_pending revolves.alone]
  simp only [stored, same, Queue.rounded, revolves.alone]
  simp [Store.push, Token.next, Counters.countReceived, Counters.countAbandoned,
    Counters.countSent]

theorem performAll_rounds (revolves : queue.Revolves message timeout now first count) :
    queue.performAll now (Operation.rounds message timeout first count) = queue.rounded count := by
  induction count generalizing queue first with
  | zero => exact queue.rounded_zero.symm
  | succ count ih =>
      have once := revolves.perform_round
      have others := ih revolves.next
      rw [rounded_rounded, Nat.add_comm 1 count] at others
      rw [← others, ← once]
      rfl

theorem chronicle_rounds (revolves : queue.Revolves message timeout now first count) :
    ∀ entry ∈ queue.chronicle
        ((Operation.rounds message timeout first count).map fun operation => (now, operation)),
      (∃ received, entry.2 = .granted received timeout none) ∨
        ∃ lease returned, entry.2 = .returned lease returned := by
  induction count generalizing queue first with
  | zero => simp [Operation.rounds, chronicle]
  | succ count ih =>
      have vacant := Store.lease?_eq_none_iff.mpr revolves.nextToken_fresh
      have taken := deed_of_pending revolves.alone timeout now
      rw [vacant] at taken
      have returned : ∃ lease handed, (Operation.abandon (message.withToken (Token.nth first))).deed?
          ((Operation.take timeout).perform queue now) now = some (.returned lease handed) := by
        rw [← revolves.numbered, Operation.deed?, revolves.leaseOf?_taken]
        simp [revolves.running]
      obtain ⟨lease, handed, returned⟩ := returned
      have others := ih revolves.next
      simp only [Operation.rounds, List.map_cons, chronicle, taken, returned, revolves.perform_round,
        Option.map_some, Option.toList_some, List.singleton_append, List.mem_cons]
      rintro entry (rfl | rfl | later)
      · exact Or.inl ⟨_, rfl⟩
      · exact Or.inr ⟨_, _, rfl⟩
      · exact others entry later

end Queue.Revolves

namespace Run

def ofCalls (calls : List Operation) : Run where
  system := {}
  name := "orders"
  settings := {}
  events := calls.map (.call 0)

theorem ofCalls_history (calls : List Operation) :
    (ofCalls calls).history = calls.map fun operation => (.origin, operation) :=
  System.history_calls (ofCalls calls).start 0 calls

theorem ofCalls_queue (calls : List Operation) :
    (ofCalls calls).queue = (Queue.ofSettings "orders" {}).performAll .origin calls := by
  rw [queue_eq, ofCalls_history, Queue.after_map]
  rfl

theorem ofCalls_chronicle (calls : List Operation) :
    (ofCalls calls).chronicle =
      (Queue.ofSettings "orders" {}).chronicle
        (calls.map fun operation => (.origin, operation)) := by
  rw [chronicle, ofCalls_history]
  rfl

def keptMessage : Message := { id := ⟨1⟩, correlationId := "c", kind := "job", payload := [1] }

def turnedMessage : Message := { id := ⟨2⟩, correlationId := "c", kind := "job", payload := [2] }

/-- A message is received and kept; another goes through some rounds and is received once more. -/
def lapping (rounds : Nat) : Run :=
  ofCalls ([.send keptMessage, .take (.ofMillis 50), .send turnedMessage] ++
    (Operation.rounds turnedMessage (.ofMillis 50) 1 rounds ++ [.take (.ofMillis 50)]))

def lappingStart : Queue :=
  (Queue.ofSettings "orders" {}).performAll .origin
    [.send keptMessage, .take (.ofMillis 50), .send turnedMessage]

variable {rounds : Nat}

theorem ofNat_of_full (full : rounds + 1 = UInt64.size) : UInt64.ofNat rounds = -1 := by
  have around : UInt64.ofNat rounds + 1 = 0 := by
    rw [show (1 : UInt64) = .ofNat 1 from rfl, ← UInt64.ofNat_add, full]
    rfl
  grind

theorem lappingStart_revolves (short : rounds < UInt64.size) :
    lappingStart.Revolves turnedMessage (.ofMillis 50) .origin 1 rounds where
  alone := by decide
  unlocked := rfl
  running := by decide
  numbered := by decide
  fresh number low high held := by
    rw [show lappingStart.store.tokens = [Token.nth 0] by decide, List.mem_singleton] at held
    have same := Token.nth_toNat (show number < UInt64.size by omega)
    rw [held, Token.nth_toNat (by decide)] at same
    omega

theorem lapping_queue (short : rounds < UInt64.size) :
    (lapping rounds).queue =
      (Operation.take (.ofMillis 50)).perform (lappingStart.rounded rounds) .origin := by
  rw [lapping, ofCalls_queue, Queue.performAll_append, Queue.performAll_append,
    ← lappingStart, (lappingStart_revolves short).performAll_rounds]
  rfl

theorem lapping_chronicle (short : rounds < UInt64.size) :
    ∃ between received displaced,
      (lapping rounds).chronicle =
        [(.origin, .sent (keptMessage.stamped .origin)),
          (.origin, .granted ((keptMessage.stamped .origin).withToken ⟨0⟩) (.ofMillis 50) none),
          (.origin, .sent (turnedMessage.stamped .origin))] ++
        (between ++ [(.origin, .granted received (.ofMillis 50) displaced)]) ∧
      ∀ entry ∈ between, (∃ message, entry.2 = .granted message (.ofMillis 50) none) ∨
        ∃ lease message, entry.2 = .returned lease message := by
  have revolves := lappingStart_revolves short
  have head : (lappingStart.rounded rounds).store.pending = [turnedMessage.stamped .origin] :=
    revolves.alone
  obtain ⟨received, displaced, last⟩ : ∃ received displaced,
      (Operation.take (.ofMillis 50)).deed? (lappingStart.rounded rounds) .origin =
        some (.granted received (.ofMillis 50) displaced) :=
    ⟨_, _, Queue.deed_of_pending head _ _⟩
  refine ⟨_, received, displaced, ?_, revolves.chronicle_rounds⟩
  rw [lapping, ofCalls_chronicle, List.map_append, List.map_append, Queue.chronicle_append,
    Queue.chronicle_append, Queue.after_map, ← lappingStart, Queue.after_map,
    revolves.performAll_rounds]
  simp only [List.map_cons, List.map_nil, Queue.chronicle, last]
  rfl

theorem lapping_deeds (short : rounds < UInt64.size) :
    ∀ entry ∈ (lapping rounds).chronicle, (∃ message, entry.2 = .sent message) ∨
      (∃ message timeout displaced, entry.2 = .granted message timeout displaced) ∨
        ∃ lease message, entry.2 = .returned lease message := by
  obtain ⟨between, received, displaced, chronicle, kinds⟩ := lapping_chronicle short
  intro entry member
  rw [chronicle] at member
  simp only [List.mem_append, List.mem_cons, List.not_mem_nil, or_false] at member
  rcases member with (rfl | rfl | rfl) | inside | rfl
  · exact Or.inl ⟨_, rfl⟩
  · exact Or.inr (Or.inl ⟨_, _, _, rfl⟩)
  · exact Or.inl ⟨_, rfl⟩
  · rcases kinds entry inside with ⟨_, same⟩ | returned
    · exact Or.inr (Or.inl ⟨_, _, _, same⟩)
    · exact Or.inr (Or.inr returned)
  · exact Or.inr (Or.inl ⟨_, _, _, rfl⟩)

theorem lapping_full (full : rounds + 1 = UInt64.size) :
    (lapping rounds).queue.store.pending = [] ∧
    (lapping rounds).queue.store.leases.map (fun lease => lease.message.id) = [turnedMessage.id] ∧
    (lapping rounds).queue.counters =
      { sent := 1, received := 1, completed := 0, abandoned := -1, deadLettered := 0 } := by
  have start : lappingStart.rounded rounds =
      { lappingStart with
        store := { lappingStart.store with nextToken := ⟨0⟩ }
        counters := { sent := 1, received := 0, completed := 0, abandoned := -1, deadLettered := 0 }
        arrivals := 2 + rounds } := by
    rw [Queue.rounded, ofNat_of_full full]
    rfl
  rw [lapping_queue (by omega), start]
  exact ⟨rfl, rfl, rfl⟩

end Run

end LeaseQueue
