import LeaseQueue.Queue

/-!
What a client can do to a queue in one go, and what becomes of messages and leases then. A deed is
one change of a queue's store, and `Store.Step` gives the store that each deed leaves behind. Every
operation does at most one deed.
-/

namespace LeaseQueue

/-- `take` is what a receiving call does whenever it looks for a message. -/
inductive Operation where
  | openUp
  | close
  | clear
  | endListen
  | resume
  | peek
  | peekBatch (count : Nat)
  | send (message : Message)
  | take (timeout : Duration)
  | renew (message : Message) (timeout : Duration)
  | complete (message : Message)
  | deadLetter (message : Message)
  | abandon (message : Message)
deriving DecidableEq

def Operation.perform (operation : Operation) (queue : Queue) (now : Instant) : Queue :=
  match operation with
  | .openUp => queue.openUp
  | .close => queue.close
  | .clear => queue.clear
  | .endListen => queue.endListen
  | .resume => queue.resume
  | .peek => queue
  | .peekBatch _ => queue
  | .send message => queue.send message now
  | .take timeout => ((queue.take? timeout now).map Prod.snd).getD queue
  | .renew message timeout => queue.renew message timeout now
  | .complete message => (queue.complete message).2
  | .deadLetter message => (queue.deadLetter message).2
  | .abandon message => (queue.abandon message now).2

inductive Operation.Answer where
  | done
  | kept (message : Message)
  | found (message? : Option Message)
  | batch (messages : List Message)
deriving DecidableEq

def Operation.answer (operation : Operation) (queue : Queue) (now : Instant) : Answer :=
  match operation with
  | .openUp | .close | .clear | .endListen | .resume | .send _ | .renew _ _ => .done
  | .peek => .found queue.peek
  | .peekBatch count => .batch (queue.peekBatch count)
  | .take timeout => .found ((queue.take? timeout now).map Prod.fst)
  | .complete message => .kept (queue.complete message).1
  | .deadLetter message => .kept (queue.deadLetter message).1
  | .abandon message => .kept (queue.abandon message now).1

inductive Ending where
  | completed
  | deadLettered
  | lapsed
deriving DecidableEq

/-- One change of a store. A message is given as it lies in the store or leaves it. `granted` names
the lease, if any, that the new one took the place of; `renewed` is done by every call that names a
token, whether or not it finds a lease. -/
inductive Deed where
  | sent (message : Message)
  | granted (message : Message) (timeout : Duration) (displaced : Option Lease)
  | renewed (token : Token) (timeout : Duration)
  | returned (lease : Lease) (message : Message)
  | ended (lease : Lease) (ending : Ending)
  | cleared (pending : List Message) (leases : List Lease)
deriving DecidableEq

def Queue.leaseOf? (queue : Queue) (message : Message) : Option Lease :=
  message.token.bind queue.store.lease?

def Operation.deed? (operation : Operation) (queue : Queue) (now : Instant) : Option Deed :=
  match operation with
  | .send message => some (.sent (message.stamped now))
  | .take timeout =>
    (queue.take? timeout now).map fun (message, _) =>
      .granted message timeout (queue.store.lease? queue.store.nextToken)
  | .renew message timeout => message.token.map fun token => .renewed token timeout
  | .complete message => (queue.leaseOf? message).map fun lease => .ended lease .completed
  | .deadLetter message => (queue.leaseOf? message).map fun lease => .ended lease .deadLettered
  | .abandon message =>
    (queue.leaseOf? message).map fun lease =>
      if lease.term.isExpired now then .ended lease .lapsed
      else .returned lease (lease.message.withoutToken.stamped now)
  | .clear => some (.cleared queue.store.pending queue.store.leases)
  | .openUp | .close | .endListen | .resume | .peek | .peekBatch _ => none

/-- For how long a renewed lease runs, given the time asked for and the time it ran for so far. -/
def RenewPolicy.span : RenewPolicy → (asked current : Duration) → Duration
  | .requested, asked, _ => asked
  | .granted, _, current => current

namespace Store

def withRenewed (store : Store) (lease : Lease) (span : Duration) (now : Instant) : Store :=
  { store with
    leases := store.leases.map fun other =>
      if other.token = lease.token then { other with term := other.term.renew span now } else other }

def withGranted (store : Store) (message : Message) (rest : List Message) (timeout : Duration)
    (now : Instant) : Store :=
  { store with pending := rest, nextToken := store.nextToken.next }.withLease
    ⟨store.nextToken, message, Term.grant timeout now⟩

/-- The stores before and after a deed. -/
inductive Step (policy : RenewPolicy) (now : Instant) : Store → Deed → Store → Prop
  | sent (store : Store) (message : Message) :
      Step policy now store (.sent (message.stamped now)) (store.push (message.stamped now))
  | granted {store : Store} {first : Message} {rest : List Message} (timeout : Duration)
      (head : store.pending = first :: rest) :
      Step policy now store
        (.granted (first.withToken store.nextToken) timeout (store.lease? store.nextToken))
        (store.withGranted (first.withToken store.nextToken) rest timeout now)
  | renewed {store : Store} {lease : Lease} (timeout : Duration)
      (found : store.lease? lease.token = some lease) :
      Step policy now store (.renewed lease.token timeout)
        (store.withRenewed lease (policy.span timeout lease.term.timeout) now)
  | missed {store : Store} {token : Token} (timeout : Duration)
      (missing : store.lease? token = none) :
      Step policy now store (.renewed token timeout) store
  | returned {store : Store} {lease : Lease} (found : store.lease? lease.token = some lease)
      (running : lease.term.isExpired now = false) :
      Step policy now store (.returned lease (lease.message.withoutToken.stamped now))
        ((store.withoutLease lease.token).push (lease.message.withoutToken.stamped now))
  | ended {store : Store} {lease : Lease} {ending : Ending}
      (found : store.lease? lease.token = some lease)
      (overdue : ending = .lapsed → lease.term.isExpired now = true) :
      Step policy now store (.ended lease ending) (store.withoutLease lease.token)
  | cleared (store : Store) :
      Step policy now store (.cleared store.pending store.leases) store.clear

def Change (policy : RenewPolicy) (now : Instant) (store : Store) : Option Deed → Store → Prop
  | none, next => next = store
  | some deed, next => Step policy now store deed next

theorem lease?_eq_some {store : Store} {token : Token} {lease : Lease}
    (found : store.lease? token = some lease) : lease ∈ store.leases ∧ lease.token = token := by
  have member := List.mem_of_find?_eq_some found
  have named := List.find?_some found
  exact ⟨member, by simpa using named⟩

theorem lease?_withoutLease (store : Store) (token other : Token) :
    (store.withoutLease token).lease? other = if other = token then none else store.lease? other := by
  simp only [lease?, withoutLease, List.find?_filter]
  by_cases same : other = token
  · rw [if_pos same, List.find?_eq_none]
    intro lease _
    simp [same]
  · rw [if_neg same]
    congr 1
    funext lease
    by_cases named : lease.token = other <;> simp [named, same]

theorem lease?_withRenewed {store : Store} {lease : Lease}
    (found : store.lease? lease.token = some lease) (span : Duration) (now : Instant)
    (other : Token) :
    (store.withRenewed lease span now).lease? other =
      if other = lease.token then some { lease with term := lease.term.renew span now }
      else store.lease? other := by
  have unnamed : (store.withRenewed lease span now).lease? other =
      (store.lease? other).map fun held =>
        if held.token = lease.token then { held with term := held.term.renew span now } else held := by
    simp only [lease?, withRenewed, List.find?_map]
    congr 2
    funext held
    simp only [Function.comp_apply]
    split <;> rfl
  rw [unnamed]
  by_cases same : other = lease.token
  · rw [if_pos same, same, found, Option.map_some, if_pos rfl]
  · rw [if_neg same]
    cases held : store.lease? other with
    | none => rfl
    | some found =>
        have named := (lease?_eq_some held).2
        rw [Option.map_some, if_neg (named ▸ same)]

@[simp] theorem withoutLease_pending (store : Store) (token : Token) :
    (store.withoutLease token).pending = store.pending := rfl

@[simp] theorem withoutLease_nextToken (store : Store) (token : Token) :
    (store.withoutLease token).nextToken = store.nextToken := rfl

@[simp] theorem push_pending (store : Store) (message : Message) :
    (store.push message).pending = store.pending ++ [message] := rfl

@[simp] theorem push_leases (store : Store) (message : Message) :
    (store.push message).leases = store.leases := rfl

@[simp] theorem push_nextToken (store : Store) (message : Message) :
    (store.push message).nextToken = store.nextToken := rfl

@[simp] theorem lease?_push (store : Store) (message : Message) (token : Token) :
    (store.push message).lease? token = store.lease? token := rfl

@[simp] theorem clear_pending (store : Store) : store.clear.pending = [] := rfl

@[simp] theorem clear_leases (store : Store) : store.clear.leases = [] := rfl

@[simp] theorem clear_nextToken (store : Store) : store.clear.nextToken = store.nextToken := rfl

@[simp] theorem withRenewed_pending (store : Store) (lease : Lease) (span : Duration)
    (now : Instant) : (store.withRenewed lease span now).pending = store.pending := rfl

@[simp] theorem withRenewed_nextToken (store : Store) (lease : Lease) (span : Duration)
    (now : Instant) : (store.withRenewed lease span now).nextToken = store.nextToken := rfl

@[simp] theorem withGranted_pending (store : Store) (message : Message) (rest : List Message)
    (timeout : Duration) (now : Instant) :
    (store.withGranted message rest timeout now).pending = rest := rfl

@[simp] theorem withGranted_nextToken (store : Store) (message : Message) (rest : List Message)
    (timeout : Duration) (now : Instant) :
    (store.withGranted message rest timeout now).nextToken = store.nextToken.next := rfl

@[simp] theorem withGranted_leases (store : Store) (message : Message) (rest : List Message)
    (timeout : Duration) (now : Instant) :
    (store.withGranted message rest timeout now).leases =
      (store.withoutLease store.nextToken).leases ++
        [⟨store.nextToken, message, Term.grant timeout now⟩] := rfl

theorem lease?_withGranted (store : Store) (message : Message) (rest : List Message)
    (timeout : Duration) (now : Instant) (other : Token) :
    (store.withGranted message rest timeout now).lease? other =
      if other = store.nextToken then some ⟨store.nextToken, message, Term.grant timeout now⟩
      else store.lease? other := by
  have kept := store.lease?_withoutLease store.nextToken other
  rw [lease?] at kept ⊢
  rw [withGranted_leases, List.find?_append, kept]
  by_cases same : other = store.nextToken
  · simp [same]
  · simp [same, Ne.symm same]

theorem take?_eq_some {store : Store} {timeout : Duration} {now : Instant} {message : Message}
    {next : Store} (taken : store.take? timeout now = some (message, next)) :
    ∃ first rest, store.pending = first :: rest ∧
      message = first.withToken store.nextToken ∧
      next = store.withGranted (first.withToken store.nextToken) rest timeout now := by
  unfold take? at taken
  split at taken
  · simp at taken
  · rename_i first rest head
    simp only [Option.some.injEq, Prod.mk.injEq] at taken
    exact ⟨first, rest, head, taken.1.symm, taken.2.symm⟩

theorem take?_eq_none {store : Store} {timeout : Duration} {now : Instant} :
    store.take? timeout now = none ↔ store.pending = [] := by
  unfold take?
  split <;> simp_all

end Store

namespace Queue

theorem leaseOf?_eq_some {queue : Queue} {message : Message} {lease : Lease}
    (found : queue.leaseOf? message = some lease) :
    message.token = some lease.token ∧ queue.store.lease? lease.token = some lease := by
  unfold leaseOf? at found
  obtain ⟨token, named, held⟩ := Option.bind_eq_some_iff.mp found
  have same := (Store.lease?_eq_some held).2
  exact ⟨by rw [named, same], by rw [same]; exact held⟩

theorem leaseOf?_of_token {queue : Queue} {message : Message} {token : Token}
    (named : message.token = some token) :
    queue.leaseOf? message = queue.store.lease? token := by
  simp [leaseOf?, named]

section LeaseOperations

variable {queue : Queue} {message : Message} {lease : Lease} {now : Instant}

theorem renew_of_none (timeout : Duration) (missing : queue.leaseOf? message = none) :
    queue.renew message timeout now = queue := by
  unfold leaseOf? at missing
  simp only [renew, missing]

theorem renew_of_some (timeout : Duration) (found : queue.leaseOf? message = some lease) :
    queue.renew message timeout now =
      { queue with
        store := queue.store.withRenewed lease
          (queue.settings.renewPolicy.span timeout lease.term.timeout) now } := by
  unfold leaseOf? at found
  simp only [renew, found]
  cases queue.settings.renewPolicy <;> rfl

theorem settle_of_none (count : Counters → Counters) (missing : queue.leaseOf? message = none) :
    queue.settle count message = (message.withoutToken, queue) := by
  unfold leaseOf? at missing
  simp only [settle, missing]

theorem settle_of_some (count : Counters → Counters) (found : queue.leaseOf? message = some lease) :
    queue.settle count message =
      (message.withoutToken,
        { queue with
          store := queue.store.withoutLease lease.token
          counters := count queue.counters }) := by
  unfold leaseOf? at found
  simp only [settle, found]

theorem abandon_of_none (missing : queue.leaseOf? message = none) :
    queue.abandon message now = (message, queue) := by
  unfold leaseOf? at missing
  simp only [abandon, surrender, missing]

theorem calls_of_none (missing : queue.leaseOf? message = none) (timeout : Duration) (now : Instant) :
    queue.complete message = (message.withoutToken, queue) ∧
      queue.deadLetter message = (message.withoutToken, queue) ∧
      queue.abandon message now = (message, queue) ∧
      queue.renew message timeout now = queue :=
  ⟨settle_of_none _ missing, settle_of_none _ missing, abandon_of_none missing,
    renew_of_none timeout missing⟩

theorem abandon_of_lapsed (found : queue.leaseOf? message = some lease)
    (lapsed : lease.term.isExpired now = true) :
    queue.abandon message now =
      (message.withoutToken, { queue with store := queue.store.withoutLease lease.token }) := by
  unfold leaseOf? at found
  simp only [abandon, surrender, found, lapsed, if_true]

theorem abandon_of_running (found : queue.leaseOf? message = some lease)
    (running : lease.term.isExpired now = false) :
    queue.abandon message now =
      (message.withoutToken,
        { queue with
          store := (queue.store.withoutLease lease.token).push
            (lease.message.withoutToken.stamped now)
          counters := queue.counters.countAbandoned.countSent
          arrivals := queue.arrivals + 1 }) := by
  unfold leaseOf? at found
  simp only [abandon, surrender, found, running, Bool.false_eq_true, if_false]
  rfl

end LeaseOperations

theorem take?_eq_some {queue next : Queue} {timeout : Duration} {now : Instant} {message : Message}
    (taken : queue.take? timeout now = some (message, next)) :
    ∃ first rest, queue.store.pending = first :: rest ∧
      message = first.withToken queue.store.nextToken ∧
      next =
        { queue with
          store := queue.store.withGranted (first.withToken queue.store.nextToken) rest timeout now
          counters := queue.counters.countReceived } := by
  obtain ⟨⟨found, store⟩, storeTaken, same⟩ := Option.map_eq_some_iff.mp taken
  obtain ⟨first, rest, head, messageEq, storeEq⟩ := Store.take?_eq_some storeTaken
  simp only [Prod.mk.injEq] at same
  refine ⟨first, rest, head, same.1 ▸ messageEq, ?_⟩
  rw [← same.2, storeEq]

theorem take?_eq_none {queue : Queue} {timeout : Duration} {now : Instant} :
    queue.take? timeout now = none ↔ queue.store.pending = [] := by
  rw [take?, Option.map_eq_none_iff, Store.take?_eq_none]

theorem take?_of_pending {queue : Queue} {first : Message} {rest : List Message}
    (head : queue.store.pending = first :: rest) (timeout : Duration) (now : Instant) :
    queue.take? timeout now =
      some (first.withToken queue.store.nextToken,
        { queue with
          store := queue.store.withGranted (first.withToken queue.store.nextToken) rest timeout now
          counters := queue.counters.countReceived }) := by
  simp only [take?, Store.take?, head, Option.map_some]
  rfl

theorem leaseOf?_taken {queue next : Queue} {timeout : Duration} {now : Instant}
    {message : Message} (taken : queue.take? timeout now = some (message, next)) :
    message.token = some queue.store.nextToken ∧ next.leaseOf? message =
      some ⟨queue.store.nextToken, message, Term.grant timeout now⟩ := by
  obtain ⟨first, rest, _, rfl, rfl⟩ := take?_eq_some taken
  refine ⟨rfl, ?_⟩
  rw [leaseOf?_of_token rfl, Store.lease?_withGranted, if_pos rfl]

end Queue

def Deed.count : Deed → Counters → Counters
  | .sent _ => Counters.countSent
  | .granted _ _ _ => Counters.countReceived
  | .renewed _ _ => id
  | .returned _ _ => fun counters => counters.countAbandoned.countSent
  | .ended _ .completed => Counters.countCompleted
  | .ended _ .deadLettered => Counters.countDeadLettered
  | .ended _ .lapsed => id
  | .cleared _ _ => id

/-- What an operation leaves of a queue, apart from the flags: one deed, counted, or nothing. -/
structure Operation.Effect (queue : Queue) (now : Instant) (deed? : Option Deed) (next : Queue) :
    Prop where
  settings : next.settings = queue.settings
  counters : next.counters = deed?.elim queue.counters (·.count queue.counters)
  store : queue.store.Change queue.settings.renewPolicy now deed? next.store

namespace Operation

variable {queue : Queue} {message : Message} {now : Instant}

theorem take_effect (timeout : Duration) :
    Effect queue now ((take timeout).deed? queue now) ((take timeout).perform queue now) := by
  cases taken : queue.take? timeout now with
  | none =>
      simp only [deed?, perform, taken, Option.map_none, Option.getD_none]
      exact ⟨rfl, rfl, rfl⟩
  | some found =>
      obtain ⟨received, next⟩ := found
      obtain ⟨first, rest, head, rfl, rfl⟩ := Queue.take?_eq_some taken
      simp only [deed?, perform, taken, Option.map_some, Option.getD_some]
      exact ⟨rfl, rfl, Store.Step.granted timeout head⟩

theorem renew_effect (timeout : Duration) :
    Effect queue now ((renew message timeout).deed? queue now)
      ((renew message timeout).perform queue now) := by
  simp only [deed?, perform]
  cases named : message.token with
  | none =>
      rw [Queue.renew_of_none timeout (by simp [Queue.leaseOf?, named])]
      exact ⟨rfl, rfl, rfl⟩
  | some token =>
      have sought : queue.leaseOf? message = queue.store.lease? token :=
        Queue.leaseOf?_of_token named
      cases held : queue.store.lease? token with
      | none =>
          rw [Queue.renew_of_none timeout (sought.trans held)]
          exact ⟨rfl, rfl, Store.Step.missed timeout held⟩
      | some lease =>
          have tokenEq := (Store.lease?_eq_some held).2
          rw [Queue.renew_of_some timeout (sought.trans held)]
          subst tokenEq
          exact ⟨rfl, rfl, Store.Step.renewed timeout held⟩

theorem settle_effect (count : Counters → Counters) {ending : Ending} (settled : ending ≠ .lapsed)
    (counted : ∀ lease, (Deed.ended lease ending).count = count) :
    Effect queue now ((queue.leaseOf? message).map fun lease => .ended lease ending)
      (queue.settle count message).2 := by
  cases found : queue.leaseOf? message with
  | none =>
      rw [Queue.settle_of_none count found]
      exact ⟨rfl, rfl, rfl⟩
  | some lease =>
      rw [Queue.settle_of_some count found]
      have held := (Queue.leaseOf?_eq_some found).2
      refine ⟨rfl, ?_, Store.Step.ended held fun lapsed => absurd lapsed settled⟩
      simp only [Option.map_some, Option.elim_some, counted]

theorem abandon_effect :
    Effect queue now ((abandon message).deed? queue now) ((abandon message).perform queue now) := by
  simp only [deed?, perform]
  cases found : queue.leaseOf? message with
  | none =>
      rw [Queue.abandon_of_none found]
      exact ⟨rfl, rfl, rfl⟩
  | some lease =>
      have held := (Queue.leaseOf?_eq_some found).2
      cases expired : lease.term.isExpired now with
      | true =>
          rw [Queue.abandon_of_lapsed found expired]
          simp only [Option.map_some, expired, if_true]
          exact ⟨rfl, rfl, Store.Step.ended held fun _ => expired⟩
      | false =>
          rw [Queue.abandon_of_running found expired]
          simp only [Option.map_some, expired, Bool.false_eq_true, if_false]
          exact ⟨rfl, rfl, Store.Step.returned held expired⟩

theorem perform_effect (operation : Operation) (queue : Queue) (now : Instant) :
    Effect queue now (operation.deed? queue now) (operation.perform queue now) := by
  cases operation with
  | openUp | close | endListen | resume | peek | peekBatch _ => exact ⟨rfl, rfl, rfl⟩
  | clear => exact ⟨rfl, rfl, Store.Step.cleared queue.store⟩
  | send message => exact ⟨rfl, rfl, Store.Step.sent queue.store message⟩
  | take timeout => exact take_effect timeout
  | renew message timeout => exact renew_effect timeout
  | complete message => exact settle_effect _ (by decide) fun _ => rfl
  | deadLetter message => exact settle_effect _ (by decide) fun _ => rfl
  | abandon message => exact abandon_effect

def asksToStop : Operation → Bool
  | .endListen | .close => true
  | _ => false

def takesBack : Operation → Bool
  | .clear | .resume => true
  | _ => false

end Operation

def Deed.isAppending : Deed → Bool
  | .sent _ | .returned _ _ => true
  | .granted _ _ _ | .renewed _ _ | .ended _ _ | .cleared _ _ => false

structure Operation.Signals (operation : Operation) (queue : Queue) (now : Instant) (next : Queue) :
    Prop where
  cancelled : next.cancelled =
    if operation.asksToStop then true else if operation.takesBack then false else queue.cancelled
  arrivals : next.arrivals =
    if (operation.deed? queue now).any Deed.isAppending then queue.arrivals + 1 else queue.arrivals

namespace Operation

variable {queue next : Queue} {now : Instant}

theorem Signals.of_quiet {operation : Operation} (unasked : operation.asksToStop = false)
    (kept : operation.takesBack = false)
    (appends : (operation.deed? queue now).any Deed.isAppending = false)
    (cancelled : next.cancelled = queue.cancelled) (arrivals : next.arrivals = queue.arrivals) :
    operation.Signals queue now next :=
  ⟨by simp [unasked, kept, cancelled], by simp [appends, arrivals]⟩

theorem settle_signals {operation : Operation} (count : Counters → Counters) (message : Message)
    (unasked : operation.asksToStop = false) (kept : operation.takesBack = false)
    (appends : (operation.deed? queue now).any Deed.isAppending = false) :
    operation.Signals queue now (queue.settle count message).2 := by
  cases found : queue.leaseOf? message with
  | none =>
      rw [Queue.settle_of_none count found]
      exact .of_quiet unasked kept appends rfl rfl
  | some lease =>
      rw [Queue.settle_of_some count found]
      exact .of_quiet unasked kept appends rfl rfl

theorem perform_signals (operation : Operation) (queue : Queue) (now : Instant) :
    operation.Signals queue now (operation.perform queue now) := by
  cases operation with
  | openUp | close | clear | endListen | resume | peek | peekBatch | send => exact ⟨rfl, rfl⟩
  | complete message | deadLetter message =>
      refine settle_signals _ message rfl rfl ?_
      simp only [deed?]
      cases queue.leaseOf? message <;> rfl
  | take timeout =>
      simp only [perform]
      cases taken : queue.take? timeout now with
      | none => exact .of_quiet rfl rfl (by simp [deed?, taken]) rfl rfl
      | some found =>
          obtain ⟨_, _, _, _, same⟩ := Queue.take?_eq_some taken
          rw [Option.map_some, Option.getD_some, same]
          exact .of_quiet rfl rfl (by simp [deed?, taken, Deed.isAppending]) rfl rfl
  | renew message timeout =>
      have appends : ((renew message timeout).deed? queue now).any Deed.isAppending = false := by
        simp only [deed?]
        cases message.token <;> rfl
      simp only [perform]
      cases found : queue.leaseOf? message with
      | none =>
          rw [Queue.renew_of_none timeout found]
          exact .of_quiet rfl rfl appends rfl rfl
      | some lease =>
          rw [Queue.renew_of_some timeout found]
          exact .of_quiet rfl rfl appends rfl rfl
  | abandon message =>
      simp only [perform]
      cases found : queue.leaseOf? message with
      | none =>
          rw [Queue.abandon_of_none found]
          exact .of_quiet rfl rfl (by simp [deed?, found]) rfl rfl
      | some lease =>
          cases expired : lease.term.isExpired now with
          | true =>
              rw [Queue.abandon_of_lapsed found expired]
              exact .of_quiet rfl rfl (by simp [deed?, found, expired, Deed.isAppending]) rfl rfl
          | false =>
              rw [Queue.abandon_of_running found expired]
              exact ⟨rfl, by simp [deed?, found, expired, Deed.isAppending]⟩

end Operation

end LeaseQueue
