import LeaseQueue.Proofs.Rest
import LeaseQueue.Proofs.Wakeup
import Mathlib.Data.List.Nodup

/-!
Calls that wait for the same messages. Which of them runs first when messages come decides who gets a
message, and nothing else: how many are served, with which messages under which tokens, and what the
queue is like afterwards is the same in every order of their turns.
-/

namespace LeaseQueue

def Store.untimed (store : Store) : Store :=
  { store with leases := store.leases.map fun lease => { lease with term := default } }

/-- A queue without the terms of its leases, which depend on the calls that the leases were granted to. -/
def Queue.untimed (queue : Queue) : Queue := { queue with store := queue.store.untimed }

theorem Store.untimed_withGranted (store : Store) (message : Message) (rest : List Message)
    (timeout : Duration) (now : Instant) :
    (store.withGranted message rest timeout now).untimed =
      { pending := rest
        leases := (store.untimed.leases.filter fun lease => lease.token != store.nextToken) ++
          [⟨store.nextToken, message, default⟩]
        nextToken := store.nextToken.next } := by
  simp only [untimed, withGranted, withLease, withoutLease, List.map_append, List.filter_map]
  rfl

theorem Queue.untimed_take {queue : Queue} {first : Message} {rest : List Message}
    (head : queue.store.pending = first :: rest) (timeout : Duration) (now : Instant) :
    ((Operation.take timeout).perform queue now).untimed =
      { queue.untimed with
        counters := queue.counters.countReceived
        store :=
          { pending := rest
            leases :=
              (queue.store.untimed.leases.filter fun lease => lease.token != queue.store.nextToken) ++
                [⟨queue.store.nextToken, first.withToken queue.store.nextToken, default⟩]
            nextToken := queue.store.nextToken.next } } := by
  have granted := queue.store.untimed_withGranted (first.withToken queue.store.nextToken) rest timeout now
  rw [← granted]
  rw [Operation.perform, take?_of_pending head]
  rfl

theorem Queue.untimed_take_congr {queue next : Queue} (same : queue.untimed = next.untimed)
    (first second : Duration) (now : Instant) :
    ((Operation.take first).perform queue now).untimed =
      ((Operation.take second).perform next now).untimed := by
  have samePending : queue.store.pending = next.store.pending :=
    congrArg (fun queue => queue.store.pending) same
  cases head : queue.store.pending with
  | nil =>
      have untouched {queue : Queue} (empty : queue.store.pending = []) (timeout : Duration) :
          (Operation.take timeout).perform queue now = queue := by
        simp [Operation.perform, take?_eq_none.mpr empty]
      rw [untouched head, untouched (samePending ▸ head), same]
  | cons message rest =>
      have sameLeases : queue.store.untimed.leases = next.store.untimed.leases :=
        congrArg (fun queue => queue.store.leases) same
      have sameToken : queue.store.nextToken = next.store.nextToken :=
        congrArg (fun queue => queue.store.nextToken) same
      have sameCounters : queue.counters = next.counters :=
        congrArg (fun queue => queue.counters) same
      rw [untimed_take head, untimed_take (samePending ▸ head), same, sameLeases, sameToken,
        sameCounters]

def Reception.Punctual (call : Reception) : Prop :=
  ∀ arrivals wakeAt, call.stage = .parked arrivals wakeAt → wakeAt ≤ call.deadline

theorem Reception.Punctual.advance {call next : Reception} {queue rest : Queue} {now : Instant}
    (punctual : call.Punctual) (advanced : call.Advance queue now next rest) : next.Punctual := by
  cases advanced with
  | begins | takes | givesUp | registers | wakes => simp [Punctual, start]
  | parks registered empty early =>
      rintro arrivals wakeAt same
      obtain ⟨_, rfl⟩ := Stage.parked.inj same
      simp only [Instant.le_iff, Instant.lt_iff, Instant.add_nanos, Duration.min_nanos,
        Instant.sub_nanos] at early ⊢
      omega
  | idles => exact punctual

theorem Waiter.stage_of_parked {call : Reception} (parked : (calling call).isParked = true) :
    ∃ arrivals wakeAt, call.stage = .parked arrivals wakeAt := by
  cases stage : call.stage with
  | parked arrivals wakeAt => exact ⟨arrivals, wakeAt, rfl⟩
  | _ => simp [isParked, stage] at parked

def System.Punctual (system : System) (index : Nat) : Prop :=
  ∀ task ∈ system.tasks, task.queue = index → ∀ call, task.job = .receive call → call.Punctual

theorem System.Punctual.after {system : System} {index : Nat} (punctual : system.Punctual index)
    (event : Event) : (system.after event).Punctual index := by
  intro task member own call receives
  rcases mem_after member with old | ⟨timeout, made⟩ | ⟨correlationId, plan, made⟩ |
    ⟨before, old, sameQueue, queue, _, turned⟩
  · exact punctual task old own call receives
  · obtain rfl := Job.receive.inj (receives.symm.trans made)
    simp [Reception.Punctual, Reception.later]
  · simp [made] at receives
  · cases job : before.job with
    | listen listener => simp [turned, job, Job.after] at receives
    | receive earlier =>
        rw [turned, job] at receives
        obtain rfl := Job.receive.inj receives
        exact (punctual before old (sameQueue ▸ own) earlier job).advance (earlier.step_advance _ _)

theorem Run.punctual (run : Run) (unclaimed : ∀ task ∈ run.system.tasks, task.queue ≠ run.index) :
    run.final.Punctual run.index := by
  have carried (system : System) (events : List System.Event) (punctual : system.Punctual run.index) :
      (system.run events).Punctual run.index := by
    induction events generalizing system with
    | nil => exact punctual
    | cons event rest ih => exact ih _ (punctual.after event)
  exact carried run.start run.events fun task member own => absurd own (unclaimed task member)

namespace System

theorem run_calls (system : System) (index : Nat) (operations : List Operation) :
    let after := system.run (operations.map fun operation => .call index operation)
    after.tasks = system.tasks ∧ after.clock = system.clock ∧
      after.queue? index =
        (system.queue? index).map fun queue => queue.performAll system.clock operations := by
  induction operations generalizing system with
  | nil => simp [run, Queue.performAll]
  | cons operation rest ih =>
      obtain ⟨tasks, clock, held⟩ := ih (system.after (.call index operation))
      refine ⟨tasks, clock, ?_⟩
      rw [after_queue?, Option.map_map] at held
      rw [List.map_cons]
      refine Eq.trans held ?_
      congr 1
      funext queue
      simp [operations, Queue.performAll, after, modifyQueue, setQueue]

theorem after_turn {system : System} {index id : Nat} {call : Reception} {queue : Queue}
    (held : system.queue? index = some queue)
    (found : system.task? id = some ⟨id, index, .receive call⟩) :
    let after := system.after (.turn id)
    after.clock = system.clock ∧
      after.queue? index = some (call.step queue system.clock).2 ∧
      ∀ other, after.task? other =
        if other = id then some ⟨id, index, .receive (call.step queue system.clock).1⟩
        else system.task? other := by
  intro after
  have turned : after = system.stepTask ⟨id, index, .receive call⟩ := by
    simp [after, System.after, found]
  refine ⟨clock_after (by simp), ?_, ?_⟩
  · have moved := system.after_queue? (.turn id) index
    rw [held] at moved
    rw [moved, call.step_queue]
    simp [operations, found, Job.operations]
  · intro other
    rw [turned, task?_stepTask held]
    by_cases same : other = id
    · subst same
      simp [found, Job.after]
    · simp [same]

def rests (system : System) (id : Nat) : Bool := !(system.task? id).any system.isReady

def returned (system : System) (callers : List Nat) : List Message :=
  callers.filterMap fun id => (system.reception? id).bind Reception.message?

theorem reception?_of_task? {system : System} {id index : Nat} {call : Reception}
    (found : system.task? id = some ⟨id, index, .receive call⟩) : system.reception? id = some call := by
  simp [reception?, found]

theorem reception?_after_turn {system : System} {index id : Nat} {call : Reception} {queue : Queue}
    (held : system.queue? index = some queue)
    (found : system.task? id = some ⟨id, index, .receive call⟩) (other : Nat) :
    (system.after (.turn id)).reception? other =
      if other = id then some (call.step queue system.clock).1 else system.reception? other := by
  obtain ⟨_, _, tasks⟩ := after_turn held found
  rw [reception?, tasks]
  by_cases named : other = id
  · simp [named]
  · rw [if_neg named, if_neg named]
    rfl

section Returned

variable {before after : System} {id : Nat} {callers : List Nat} {call next : Reception}

theorem returned_of_same (known : before.reception? id = some call)
    (changed : ∀ other, after.reception? other =
      if other = id then some next else before.reception? other)
    (same : next.message? = call.message?) :
    after.returned callers = before.returned callers := by
  apply List.filterMap_congr
  intro other _
  rw [changed]
  by_cases named : other = id
  · simp [named, known, same]
  · simp [named]

theorem returned_of_new {message : Message} (distinct : callers.Nodup) (member : id ∈ callers)
    (known : before.reception? id = some call)
    (changed : ∀ other, after.reception? other =
      if other = id then some next else before.reception? other)
    (waiting : call.message? = none) (got : next.message? = some message) :
    (after.returned callers).Perm (before.returned callers ++ [message]) := by
  obtain ⟨front, back, rfl⟩ := List.append_of_mem member
  rw [List.nodup_middle, List.nodup_cons, List.mem_append, not_or] at distinct
  have kept {others : List Nat} (absent : id ∉ others) :
      after.returned others = before.returned others := by
    apply List.filterMap_congr
    intro other listed
    have different : other ≠ id := fun same => absent (same ▸ listed)
    rw [changed, if_neg different]
  have split (system : System) : system.returned (front ++ id :: back) = system.returned front ++
      (((system.reception? id).bind Reception.message?).toList ++ system.returned back) := by
    simp only [returned, List.filterMap_append, List.filterMap_cons]
    cases (system.reception? id).bind Reception.message? <;> rfl
  rw [split, split, kept distinct.1.1, kept distinct.1.2, changed, if_pos rfl, known]
  simp only [Option.bind_some, waiting, got, Option.toList_some, Option.toList_none, List.nil_append,
    List.singleton_append]
  exact List.perm_middle.trans (List.perm_append_singleton _ _).symm

end Returned

end System

theorem Queue.performAll_sends (queue : Queue) (now : Instant) (messages : List Message) :
    (queue.performAll now (messages.map .send)).store =
      { queue.store with
        pending := queue.store.pending ++ messages.map fun message => message.stamped now } := by
  induction messages generalizing queue with
  | nil => simp [performAll]
  | cons message rest ih =>
      have sent : (queue.send message now).store = queue.store.push (message.stamped now) := rfl
      change ((queue.send message now).performAll now (rest.map .send)).store = _
      rw [ih, sent]
      simp [Store.push]

namespace Run

/-- The calls of these tasks have parked for a message of the queue. -/
structure Parks (run : Run) (callers : List Nat) : Prop where
  distinct : callers.Nodup
  parked : ∀ id ∈ callers, ∃ call, run.final.task? id = some ⟨id, run.index, .receive call⟩ ∧
    (Waiter.calling call).isParked = true

def shares (run : Run) (messages : List Message) (count : Nat) : List Message :=
  (messages.take count).mapIdx fun index message =>
    (message.stamped run.now).withToken (Token.nth (run.chronicle.delivered.length + index))

/-- The queue after the messages were sent and some of them taken, by one client alone. -/
def served (run : Run) (messages : List Message) (timeout : Duration) (count : Nat) : Queue :=
  run.queue.performAll run.now
    (messages.map Operation.send ++ List.replicate count (.take timeout))

section Served

variable {run : Run} {messages : List Message} {timeout : Duration} {count : Nat}

theorem served_succ : run.served messages timeout (count + 1) =
    (Operation.take timeout).perform (run.served messages timeout count) run.now := by
  simp only [served, List.replicate_succ', ← List.append_assoc, Queue.performAll_append]
  rfl

theorem served_store (timeout : Duration) (empty : run.queue.store.pending = [])
    (bounded : count ≤ messages.length) :
    (run.served messages timeout count).store.pending =
        (messages.drop count).map (fun message => message.stamped run.now) ∧
      (run.served messages timeout count).store.nextToken =
        Token.nth (run.chronicle.delivered.length + count) := by
  induction count with
  | zero =>
      have sent := run.queue.performAll_sends run.now messages
      rw [empty, List.nil_append] at sent
      simp only [served, List.replicate_zero, List.append_nil, sent]
      exact ⟨rfl, run.recorded.nextToken_eq⟩
  | succ count ih =>
      obtain ⟨pending, token⟩ := ih (by omega)
      rw [List.drop_eq_getElem_cons (by omega), List.map_cons] at pending
      have taken := Queue.untimed_take pending timeout run.now
      rw [← served_succ] at taken
      constructor
      · exact congrArg (fun queue => queue.store.pending) taken
      · refine (congrArg (fun queue => queue.store.nextToken) taken).trans ?_
        simp only [token, Token.nth_next]
        rfl

theorem shares_succ (within : count < messages.length) :
    run.shares messages (count + 1) = run.shares messages count ++
      [(messages[count].stamped run.now).withToken
        (Token.nth (run.chronicle.delivered.length + count))] := by
  rw [shares, List.take_succ_eq_append_getElem within, List.mapIdx_concat, List.length_take,
    Nat.min_eq_left (Nat.le_of_lt within)]
  rfl

section Untimed

variable {queue rest : Queue} (same : queue.untimed = (run.served messages timeout count).untimed)
  (empty : run.queue.store.pending = []) (bounded : count ≤ messages.length)

include same empty bounded

theorem store_of_untimed :
    queue.store.pending = (messages.drop count).map (fun message => message.stamped run.now) ∧
      queue.store.nextToken = Token.nth (run.chronicle.delivered.length + count) := by
  obtain ⟨pending, token⟩ := served_store timeout empty bounded
  exact ⟨(congrArg (fun queue => queue.store.pending) same).trans pending,
    (congrArg (fun queue => queue.store.nextToken) same).trans token⟩

theorem served_take {message : Message} {granted : Duration}
    (taken : queue.take? granted run.now = some (message, rest)) :
    count < messages.length ∧
      rest.untimed = (run.served messages timeout (count + 1)).untimed ∧
      run.shares messages (count + 1) = run.shares messages count ++ [message] := by
  obtain ⟨pending, token⟩ := store_of_untimed same empty bounded
  obtain ⟨head, left, headEq, messageEq, _⟩ := Queue.take?_eq_some taken
  have within : count < messages.length := by
    have lengths := congrArg List.length (pending.symm.trans headEq)
    simp only [List.length_map, List.length_drop, List.length_cons] at lengths
    omega
  refine ⟨within, ?_, ?_⟩
  · have performed : (Operation.take granted).perform queue run.now = rest := by
      simp [Operation.perform, taken]
    rw [served_succ, ← performed]
    exact Queue.untimed_take_congr same _ _ _
  · have first : messages[count].stamped run.now = head := by
      rw [List.drop_eq_getElem_cons within, List.map_cons] at pending
      exact (List.cons.inj (pending.symm.trans headEq)).1
    rw [shares_succ within, first, ← token, ← messageEq]

end Untimed

end Served

end Run

/-- Where a call stands that had parked at first. One that gave up did so at its deadline, after all
messages had been taken. -/
structure Reception.Contends (call first : Reception) (now : Instant) (spent : Prop) : Prop where
  deadline : call.deadline = first.deadline
  started : call.stage ≠ .unstarted
  gaveUp : call.stage = .finished none → call.deadline ≤ now ∧ spent

namespace Reception.Contends

variable {call first next : Reception} {queue rest : Queue} {now : Instant} {spent later : Prop}

theorem mono (contends : call.Contends first now spent) (more : spent → later) :
    call.Contends first now later :=
  ⟨contends.deadline, contends.started, fun gaveUp => (contends.gaveUp gaveUp).imp_right more⟩

theorem advance (contends : call.Contends first now spent)
    (advanced : call.Advance queue now next rest) (emptied : queue.store.pending = [] → spent) :
    next.Contends first now spent ∧
      (rest = queue ∧ next.message? = call.message? ∨
        ∃ message, call.message? = none ∧ next.message? = some message ∧
          queue.take? call.timeout now = some (message, rest)) := by
  have unfinished (stage : Stage) (different : stage ≠ .unstarted) (open' : stage ≠ .finished none) :
      ({ call with stage } : Reception).Contends first now spent :=
    ⟨contends.deadline, different, fun gaveUp => absurd gaveUp open'⟩
  cases advanced with
  | begins fresh => exact absurd fresh contends.started
  | registers looking =>
      exact ⟨unfinished _ (by simp) (by simp), Or.inl ⟨rfl, by simp [message?, looking]⟩⟩
  | @takes arrivals message rest registered taken =>
      refine ⟨unfinished _ (by simp) (by simp), Or.inr ⟨message, ?_, rfl, taken⟩⟩
      simp [message?, registered]
  | givesUp registered empty late =>
      refine ⟨⟨contends.deadline, by simp, fun _ => ⟨late, emptied empty⟩⟩, Or.inl ⟨rfl, ?_⟩⟩
      simp [message?, registered]
  | parks registered =>
      exact ⟨unfinished _ (by simp) (by simp), Or.inl ⟨rfl, by simp [message?, registered]⟩⟩
  | wakes parked =>
      exact ⟨unfinished _ (by simp) (by simp), Or.inl ⟨rfl, by simp [message?, parked]⟩⟩
  | idles => exact ⟨contends, Or.inl ⟨rfl, rfl⟩⟩

end Reception.Contends

/-- What is so while the calls of some tasks take turns in any order: so many messages have been taken,
and just those have been returned. -/
structure Run.Sharing (run : Run) (callers : List Nat) (messages : List Message)
    (timeout : Duration) (system : System) (count : Nat) : Prop where
  clock : system.clock = run.now
  queue : ∃ queue, system.queue? run.index = some queue ∧
    queue.untimed = (run.served messages timeout count).untimed
  bounded : count ≤ messages.length
  calls : ∀ id ∈ callers, ∃ first call, run.final.reception? id = some first ∧
    system.task? id = some ⟨id, run.index, .receive call⟩ ∧
    call.Contends first run.now (messages.length ≤ count)
  returned : (system.returned callers).Perm (run.shares messages count)

namespace Run

variable {run : Run} {callers : List Nat} {messages : List Message} {timeout : Duration}
  {system : System} {count : Nat}

theorem Sharing.turn (sharing : run.Sharing callers messages timeout system count)
    (empty : run.queue.store.pending = []) (distinct : callers.Nodup) {id : Nat}
    (own : id ∈ callers) :
    ∃ next, run.Sharing callers messages timeout (system.after (.turn id)) next := by
  obtain ⟨clock, ⟨queue, held, same⟩, bounded, calls, returned⟩ := sharing
  obtain ⟨first, call, known, found, contends⟩ := calls id own
  obtain ⟨clockAfter, heldAfter, tasks⟩ := System.after_turn held found
  have changed := System.reception?_after_turn held found
  have advanced := call.step_advance queue run.now
  rw [clock] at clockAfter heldAfter tasks changed
  generalize call.step queue run.now = result at heldAfter tasks changed advanced
  obtain ⟨next, rest⟩ := result
  have emptied (none : queue.store.pending = []) : messages.length ≤ count := by
    rw [(store_of_untimed same empty bounded).1] at none
    simpa using none
  obtain ⟨stands, outcome⟩ := contends.advance advanced emptied
  have others {later : Nat} (more : count ≤ later) : ∀ other ∈ callers, ∃ first call,
      run.final.reception? other = some first ∧
      (system.after (.turn id)).task? other = some ⟨other, run.index, .receive call⟩ ∧
      call.Contends first run.now (messages.length ≤ later) := by
    intro other member
    rw [tasks]
    by_cases named : other = id
    · rw [if_pos named, named]
      exact ⟨first, next, known, rfl, stands.mono fun spent => Nat.le_trans spent more⟩
    · rw [if_neg named]
      obtain ⟨first, call, known, found, contends⟩ := calls other member
      exact ⟨first, call, known, found, contends.mono fun spent => Nat.le_trans spent more⟩
  have before := System.reception?_of_task? found
  rcases outcome with ⟨sameQueue, sameMessage⟩ | ⟨message, waiting, got, taken⟩
  · subst sameQueue
    refine ⟨count, clockAfter, ⟨rest, heldAfter, same⟩, bounded, others (Nat.le_refl _), ?_⟩
    rw [System.returned_of_same before changed sameMessage]
    exact returned
  · obtain ⟨within, sameAfter, share⟩ := served_take same empty bounded taken
    refine ⟨count + 1, clockAfter, ⟨rest, heldAfter, sameAfter⟩, within, others (Nat.le_succ _), ?_⟩
    rw [share]
    exact (System.returned_of_new distinct own before changed waiting got).trans
      (returned.append_right _)

theorem Sharing.turns (sharing : run.Sharing callers messages timeout system count)
    (empty : run.queue.store.pending = []) (distinct : callers.Nodup) {order : List Nat}
    (own : ∀ id ∈ order, id ∈ callers) :
    ∃ next, run.Sharing callers messages timeout (system.run (order.map .turn)) next := by
  induction order generalizing system count with
  | nil => exact ⟨count, sharing⟩
  | cons id rest ih =>
      obtain ⟨next, turned⟩ := sharing.turn empty distinct (own id List.mem_cons_self)
      exact ih turned fun other member => own other (List.mem_cons_of_mem _ member)

def contested (run : Run) (messages : List Message) (order : List Nat) : Run :=
  run.further (messages.map (fun message => .call run.index (.send message)) ++ order.map .turn)

theorem Parks.sharing (parks : run.Parks callers) (messages : List Message) (timeout : Duration) :
    run.Sharing callers messages timeout (run.contested messages []).final 0 := by
  obtain ⟨tasks, clock, held⟩ := run.final.run_calls run.index (messages.map .send)
  have final : (run.contested messages []).final =
      run.final.run ((messages.map Operation.send).map fun operation => .call run.index operation) := by
    rw [contested, List.map_nil, List.append_nil, List.map_map]
    exact run.further_final _
  have sameTask (id : Nat) : (run.contested messages []).final.task? id = run.final.task? id := by
    rw [final, System.task?, tasks]
    rfl
  have caller : ∀ id ∈ callers, ∃ call,
      (run.contested messages []).final.task? id = some ⟨id, run.index, .receive call⟩ ∧
      run.final.reception? id = some call ∧ (Waiter.calling call).isParked = true := by
    intro id member
    obtain ⟨call, found, parked⟩ := parks.parked id member
    exact ⟨call, (sameTask id).trans found, System.reception?_of_task? found, parked⟩
  refine ⟨final ▸ clock, ?_, Nat.zero_le _, ?_, ?_⟩
  · refine ⟨run.served messages timeout 0, ?_, rfl⟩
    rw [final, held, final_queue?, Option.map_some, ← queue_eq, served, List.replicate_zero,
      List.append_nil]
    rfl
  · intro id member
    obtain ⟨call, found, known, parked⟩ := caller id member
    obtain ⟨arrivals, wakeAt, stage⟩ := Waiter.stage_of_parked parked
    refine ⟨call, call, known, found, rfl, ?_, ?_⟩
    · rw [stage]
      simp
    · intro gaveUp
      simp [stage] at gaveUp
  · have none : (run.contested messages []).final.returned callers = [] := by
      rw [System.returned, List.filterMap_eq_nil_iff]
      intro id member
      obtain ⟨call, found, _, parked⟩ := caller id member
      rw [System.reception?_of_task? found, Option.bind_some]
      obtain ⟨arrivals, wakeAt, stage⟩ := Waiter.stage_of_parked parked
      simp [Reception.message?, stage]
    rw [none]
    exact List.Perm.refl _

def rests (run : Run) (callers : List Nat) : Bool := callers.all run.final.rests

theorem contested_append (run : Run) (messages : List Message) (order more : List Nat) :
    (run.contested messages (order ++ more)).final =
      (run.contested messages order).final.run (more.map .turn) := by
  rw [contested, contested, List.map_append, ← List.append_assoc, further_final, further_final,
    System.run_append]

theorem Parks.sharing_after (parks : run.Parks callers) (empty : run.queue.store.pending = [])
    (messages : List Message) (timeout : Duration) {order : List Nat}
    (own : ∀ id ∈ order, id ∈ callers) :
    ∃ count, run.Sharing callers messages timeout (run.contested messages order).final count := by
  obtain ⟨count, sharing⟩ := (parks.sharing messages timeout).turns empty parks.distinct own
  rw [← contested_append, List.nil_append] at sharing
  exact ⟨count, sharing⟩

section Rest

variable {after : Run}

theorem Sharing.queue_eq (sharing : run.Sharing callers messages timeout after.final count)
    (sameIndex : after.index = run.index) (empty : run.queue.store.pending = []) :
    after.queue.untimed = (run.served messages timeout count).untimed ∧
      after.queue.store.pending =
        (messages.drop count).map fun message => message.stamped run.now := by
  obtain ⟨queue, held, same⟩ := sharing.queue
  have own := after.final_queue?
  rw [← Run.queue_eq, sameIndex, held] at own
  rw [← Option.some.inj own]
  exact ⟨same, (store_of_untimed same empty sharing.bounded).1⟩

theorem Sharing.caller (sharing : run.Sharing callers messages timeout after.final count)
    (rests : after.rests callers = true) (sameIndex : after.index = run.index) {id : Nat}
    (member : id ∈ callers) :
    ∃ first call, run.final.reception? id = some first ∧
      after.final.task? id = some ⟨id, after.index, .receive call⟩ ∧
      call.deadline = first.deadline ∧ call.isReady after.queue after.now = false ∧
      (call.message?.isSome = true ∨ (Waiter.calling call).isParked = true ∨
        call.stage = .finished none ∧ call.deadline ≤ run.now ∧ messages.length ≤ count) := by
  obtain ⟨first, call, known, found, contends⟩ := sharing.calls id member
  rw [← sameIndex] at found
  have waiting : call.isReady after.queue after.now = false := by
    have still := List.all_eq_true.mp rests id member
    have held := after.final_queue?
    rw [← Run.queue_eq] at held
    simpa [System.rests, found, System.isReady, held, Job.isReady, Run.now] using still
  refine ⟨first, call, known, found, contends.deadline, waiting, ?_⟩
  cases stage : call.stage with
  | unstarted => exact absurd stage contends.started
  | looking | registered => simp [Reception.isReady, stage] at waiting
  | parked => exact Or.inr (Or.inl (by simp [Waiter.isParked, stage]))
  | finished result =>
      cases result with
      | some message => exact Or.inl (by simp [Reception.message?, stage])
      | none => exact Or.inr (Or.inr ⟨rfl, contends.gaveUp stage⟩)

theorem Sharing.count_eq (sharing : run.Sharing callers messages timeout after.final count)
    (rests : after.rests callers = true) (sameIndex : after.index = run.index)
    (unclaimed : ∀ task ∈ after.system.tasks, task.queue ≠ after.index)
    (empty : run.queue.store.pending = []) :
    count = min callers.length messages.length := by
  have bounded := sharing.bounded
  have number := sharing.returned.length_eq
  rw [shares, List.length_mapIdx, List.length_take, Nat.min_eq_left bounded] at number
  have fewer : (after.final.returned callers).length ≤ callers.length := List.length_filterMap_le _ _
  by_cases spent : messages.length ≤ count
  · omega
  · -- Something is pending, so no call waits, and none gave up: each has returned a message.
    have left : after.queue.store.pending ≠ [] := by
      rw [(sharing.queue_eq sameIndex empty).2]
      simpa using spent
    have all : (after.final.returned callers).length = callers.length := by
      rw [System.returned, List.filterMap_length_eq_length]
      intro id member
      obtain ⟨first, call, _, found, _, waiting, outcome⟩ := sharing.caller rests sameIndex member
      rw [System.reception?_of_task? found, Option.bind_some]
      rcases outcome with got | parked | ⟨_, _, all⟩
      · exact got
      · have ready := after.parked_call_is_ready unclaimed _ (List.mem_of_find?_eq_some found) rfl
          call rfl parked left
        simp [ready] at waiting
      · exact absurd all spent
    omega

end Rest

/-- What becomes of calls that had parked and of their queue, in whichever order they take turns. -/
structure Shared (run : Run) (callers : List Nat) (messages : List Message) (after : Run) :
    Prop where
  returned : (after.final.returned callers).Perm
    (run.shares messages (min callers.length messages.length))
  number : (after.final.returned callers).length = min callers.length messages.length
  others : ∀ id ∈ callers, ∃ first call, run.final.reception? id = some first ∧
    after.final.reception? id = some call ∧ call.deadline = first.deadline ∧
    (call.message?.isSome = true ∨
      (Waiter.calling call).isParked = true ∧ run.now < call.deadline ∨
      call.stage = .finished none ∧ call.deadline ≤ run.now)
  pending : after.queue.store.pending = (messages.drop (min callers.length messages.length)).map
    fun message => message.stamped run.now
  queue : ∀ timeout, after.queue.untimed =
    (run.served messages timeout (min callers.length messages.length)).untimed

theorem Parks.shared (parks : run.Parks callers)
    (unclaimed : ∀ task ∈ run.system.tasks, task.queue ≠ run.index)
    (empty : run.queue.store.pending = []) {order : List Nat} (own : ∀ id ∈ order, id ∈ callers)
    (rests : (run.contested messages order).rests callers = true) :
    run.Shared callers messages (run.contested messages order) := by
  have reached (timeout : Duration) :
      run.Sharing callers messages timeout (run.contested messages order).final
        (min callers.length messages.length) := by
    obtain ⟨count, sharing⟩ := parks.sharing_after empty messages timeout own
    rw [← sharing.count_eq rests rfl unclaimed empty]
    exact sharing
  have sharing := reached ⟨0⟩
  refine ⟨sharing.returned, ?_, ?_, (sharing.queue_eq rfl empty).2, ?_⟩
  · rw [sharing.returned.length_eq, Run.shares, List.length_mapIdx, List.length_take]
    omega
  · intro id member
    obtain ⟨first, call, known, found, deadline, waits, outcome⟩ := sharing.caller rests rfl member
    refine ⟨first, call, known, System.reception?_of_task? found, deadline, ?_⟩
    rcases outcome with got | parked | ⟨gaveUp, late, _⟩
    · exact Or.inl got
    · obtain ⟨arrivals, wakeAt, stage⟩ := Waiter.stage_of_parked parked
      have bound := (run.contested messages order).punctual unclaimed _
        (List.mem_of_find?_eq_some found) rfl call rfl arrivals wakeAt stage
      have ahead : ¬ wakeAt ≤ run.now := by
        simp only [Reception.isReady, stage, Bool.or_eq_false_iff, decide_eq_false_iff_not] at waits
        rw [← sharing.clock]
        exact waits.2
      refine Or.inr (Or.inl ⟨parked, ?_⟩)
      simp only [Instant.le_iff, Instant.lt_iff] at bound ahead ⊢
      omega
    · exact Or.inr (Or.inr ⟨gaveUp, late⟩)
  · intro timeout
    exact ((reached timeout).queue_eq rfl empty).1

end Run

namespace System

structure Receives (system : System) (index : Nat) (callers : List Nat) (settings : Settings) :
    Prop where
  queue : ∃ queue, system.queue? index = some queue ∧ queue.settings = settings
  calls : ∀ id ∈ callers, ∃ call, system.task? id = some ⟨id, index, .receive call⟩

namespace Receives

variable {system : System} {index id : Nat} {callers : List Nat} {settings : Settings}

theorem turn (receives : system.Receives index callers settings) (own : id ∈ callers) :
    (system.after (.turn id)).Receives index callers settings := by
  obtain ⟨⟨queue, held, sameSettings⟩, calls⟩ := receives
  obtain ⟨call, found⟩ := calls id own
  obtain ⟨_, heldAfter, tasks⟩ := after_turn held found
  refine ⟨⟨_, heldAfter, ?_⟩, ?_⟩
  · rw [call.step_queue, ← Queue.after_map, Queue.after_settings]
    exact sameSettings
  · intro other member
    rw [tasks]
    by_cases named : other = id
    · rw [if_pos named, named]
      exact ⟨_, rfl⟩
    · rw [if_neg named]
      exact calls other member

theorem rests_turn (receives : system.Receives index callers settings) (own : id ∈ callers)
    {other : Nat} (member : other ∈ callers) (different : other ≠ id)
    (rests : system.rests other = true) : (system.after (.turn id)).rests other = true := by
  obtain ⟨⟨queue, held, _⟩, calls⟩ := receives
  obtain ⟨call, found⟩ := calls id own
  obtain ⟨waiter, waits⟩ := calls other member
  obtain ⟨sameClock, heldAfter, tasks⟩ := after_turn held found
  have known := (tasks other).trans (if_neg different)
  have sameArrivals := (call.step_advance queue system.clock).arrivals_eq
  simp only [System.rests, known, waits, Option.any_some, isReady, heldAfter, Job.isReady, sameClock,
    Reception.isReady_congr sameArrivals]
  simpa only [System.rests, waits, Option.any_some, isReady, held, Job.isReady] using rests

theorem turns_rest {call : Reception} {queue : Queue} {now : Instant}
    (settles : Reception.Settles now call queue) (receives : system.Receives index callers settings)
    (own : id ∈ callers) (clock : system.clock = now) (held : system.queue? index = some queue)
    (found : system.task? id = some ⟨id, index, .receive call⟩) :
    ∃ count, (system.run (List.replicate count (.turn id))).Receives index callers settings ∧
      (system.run (List.replicate count (.turn id))).rests id = true ∧
      ∀ other ∈ callers, other ≠ id → system.rests other = true →
        (system.run (List.replicate count (.turn id))).rests other = true := by
  induction settles generalizing system with
  | rests still =>
      refine ⟨0, receives, ?_, fun _ _ _ rests => rests⟩
      simp [run, System.rests, found, isReady, held, Job.isReady, clock, still]
  | turns settles ih =>
      obtain ⟨sameClock, heldAfter, tasks⟩ := after_turn held found
      rw [clock] at sameClock heldAfter tasks
      obtain ⟨count, later, rests, others⟩ :=
        ih (receives.turn own) sameClock heldAfter ((tasks id).trans (if_pos rfl))
      refine ⟨count + 1, later, rests, ?_⟩
      intro other member different rested
      exact others other member different (receives.rests_turn own member different rested)

theorem exists_rest (receives : system.Receives index callers settings)
    (polls : 0 < settings.pollInterval.nanos) {todo : List Nat} (own : ∀ id ∈ todo, id ∈ callers) :
    ∃ more : List Nat, (∀ id ∈ more, id ∈ callers) ∧
      (system.run (more.map .turn)).Receives index callers settings ∧
      ∀ id ∈ todo, (system.run (more.map .turn)).rests id = true := by
  induction todo with
  | nil => exact ⟨[], by simp, receives, by simp⟩
  | cons id rest ih =>
      obtain ⟨more, among, later, rests⟩ := ih fun other member => own other (List.mem_cons_of_mem _ member)
      have member := own id List.mem_cons_self
      obtain ⟨⟨queue, held, sameSettings⟩, calls⟩ := later
      obtain ⟨call, found⟩ := calls id member
      have settles := Reception.settles (sameSettings ▸ polls) call (system.run (more.map .turn)).clock
      obtain ⟨count, last, rested, others⟩ :=
        turns_rest settles ⟨⟨queue, held, sameSettings⟩, calls⟩ member rfl held found
      have joined : system.run ((more ++ List.replicate count id).map .turn) =
          (system.run (more.map .turn)).run (List.replicate count (.turn id)) := by
        rw [List.map_append, List.map_replicate]
        exact system.run_append _ _
      refine ⟨more ++ List.replicate count id, ?_, joined ▸ last, ?_⟩
      · intro other listed
        rcases List.mem_append.mp listed with old | new
        · exact among other old
        · rw [(List.mem_replicate.mp new).2]
          exact member
      · intro other listed
        rw [joined]
        by_cases same : other = id
        · rw [same]
          exact rested
        · have before := (List.mem_cons.mp listed).resolve_left same
          exact others other (own other listed) same (rests other before)

end Receives

end System

theorem Run.Parks.receives {run : Run} {callers : List Nat} (parks : run.Parks callers)
    (empty : run.queue.store.pending = []) (messages : List Message) {order : List Nat}
    (own : ∀ id ∈ order, id ∈ callers) :
    (run.contested messages order).final.Receives run.index callers run.settings := by
  obtain ⟨count, sharing⟩ := parks.sharing_after empty messages ⟨0⟩ own
  refine ⟨⟨_, (run.contested messages order).final_queue?, ?_⟩, ?_⟩
  · rw [← Run.queue_eq]
    exact (run.contested messages order).queue_settings
  · intro id member
    obtain ⟨_, call, _, found, _⟩ := sharing.calls id member
    exact ⟨call, found⟩

/-- Some calls have parked for a message of a queue with nothing pending. Messages are sent at one
instant, and then the calls take turns in any order until they wait or have returned. As many return as
there are messages, or all of them; they return the first messages under the next tokens, and the others
wait on or give up at their deadline. But for the terms of the leases, the queue is then as if a single
client had taken those messages. -/
theorem order_of_turns_is_immaterial (run : Run)
    (unclaimed : ∀ task ∈ run.system.tasks, task.queue ≠ run.index) {callers : List Nat}
    (parks : run.Parks callers) (empty : run.queue.store.pending = []) (messages : List Message) :
    (∀ order : List Nat, (∀ id ∈ order, id ∈ callers) →
      (run.contested messages order).rests callers = true →
      run.Shared callers messages (run.contested messages order)) ∧
    (.ofMillis 1 ≤ run.settings.pollInterval → ∀ order : List Nat, (∀ id ∈ order, id ∈ callers) →
      ∃ more : List Nat, (∀ id ∈ more, id ∈ callers) ∧
        (run.contested messages (order ++ more)).rests callers = true) := by
  constructor
  · intro order own rests
    exact parks.shared unclaimed empty own rests
  · intro polls order own
    have positive : 0 < run.settings.pollInterval.nanos := Nat.lt_of_lt_of_le (by decide) polls
    obtain ⟨more, among, _, rests⟩ :=
      (parks.receives empty messages own).exists_rest positive fun id member => member
    refine ⟨more, among, ?_⟩
    rw [Run.rests, List.all_eq_true, Run.contested_append]
    exact rests

def Run.waiting : Run where
  system := {}
  name := "orders"
  settings := {}
  events := [.receive 0 (.ofMillis 500), .receive 0 (.ofMillis 50), .receive 0 (.ofMillis 500)] ++
    [0, 1, 2, 0, 1, 2, 0, 1, 2].map System.Event.turn ++ [.pass (.ofMillis 50)]

theorem order_of_turns_is_immaterial_waiting :
    let message : Message := { id := ⟨1⟩, correlationId := "c", kind := "job", payload := [1] }
    let messages := [message, { message with id := ⟨2⟩ }]
    let order := [2, 2, 1, 0, 0, 2, 0, 1, 1]
    Run.waiting.Parks [0, 1, 2] ∧ (Run.waiting.contested messages order).rests [0, 1, 2] = true ∧
      Run.waiting.Shared [0, 1, 2] messages (Run.waiting.contested messages order) := by
  intro message messages order
  have parks : Run.waiting.Parks [0, 1, 2] := by
    refine ⟨by decide, ?_⟩
    intro id member
    simp only [List.mem_cons, List.not_mem_nil, or_false] at member
    rcases member with rfl | rfl | rfl <;> exact ⟨_, rfl, rfl⟩
  have rests : (Run.waiting.contested messages order).rests [0, 1, 2] = true := by decide
  obtain ⟨shared, _⟩ :=
    order_of_turns_is_immaterial Run.waiting (by simp [Run.waiting]) parks (by decide) messages
  exact ⟨parks, rests, shared order (by decide) rests⟩

end LeaseQueue
