import LeaseQueue.Proofs.Mirror
import LeaseQueue.Proofs.Rounds
import LeaseQueue.Proofs.Settlement
import Mathlib.Data.List.Induction

/-!
A queue that was cleared is as good as new. What happens on it from then on is what would happen on a
queue just made, under tokens and counters that are ahead; and what clients still hold from before has
no effect, until the tokens start again.
-/

namespace LeaseQueue

theorem Operation.perform_descriptor (operation : Operation) (queue : Queue) (now : Instant) :
    (operation.perform queue now).descriptor =
      queue.descriptor.setOpen (operation.perform queue now).isOpen := by
  have settled (count : Counters → Counters) (message : Message) :
      (queue.settle count message).2.descriptor = queue.descriptor := by
    cases found : queue.leaseOf? message with
    | none => rw [Queue.settle_of_none count found]
    | some lease => rw [Queue.settle_of_some count found]
  have kept {next : Queue} (same : next.descriptor = queue.descriptor) :
      next.descriptor = queue.descriptor.setOpen next.isOpen := by
    rw [Queue.isOpen, same]
    rfl
  cases operation with
  | openUp | close => rfl
  | clear | endListen | resume | peek | peekBatch | send => exact kept rfl
  | complete message | deadLetter message => exact kept (settled _ message)
  | take timeout =>
      refine kept ?_
      simp only [perform]
      cases taken : queue.take? timeout now with
      | none => rfl
      | some found =>
          obtain ⟨_, _, _, _, same⟩ := Queue.take?_eq_some taken
          rw [Option.map_some, Option.getD_some, same]
  | renew message timeout =>
      refine kept ?_
      simp only [perform]
      cases found : queue.leaseOf? message with
      | none => rw [Queue.renew_of_none timeout found]
      | some lease => rw [Queue.renew_of_some timeout found]
  | abandon message =>
      refine kept ?_
      simp only [perform]
      cases found : queue.leaseOf? message with
      | none => rw [Queue.abandon_of_none found]
      | some lease =>
          cases expired : lease.term.isExpired now with
          | true => rw [Queue.abandon_of_lapsed found expired]
          | false => rw [Queue.abandon_of_running found expired]

theorem Queue.after_descriptor (queue : Queue) (history : List (Instant × Operation)) :
    (queue.after history).descriptor = queue.descriptor.setOpen (queue.after history).isOpen := by
  induction history generalizing queue with
  | nil => rfl
  | cons moment rest ih =>
      obtain ⟨now, operation⟩ := moment
      have changed := ih (operation.perform queue now)
      rw [operation.perform_descriptor] at changed
      exact changed

theorem Queue.clear_eq_shifted (queue : Queue) :
    queue.clear = Queue.shifted { descriptor := queue.descriptor, settings := queue.settings }
      ⟨queue.store.nextToken.number, queue.counters, queue.arrivals⟩ := by
  simp [clear, Store.clear, shifted, Store.shifted, Token.shifted, Counters.shifted]

namespace Run

variable (run : Run)

def cleared : Run := run.further [.call run.index .clear]

def lead : Shift := ⟨run.queue.store.nextToken.number, run.queue.counters, run.queue.arrivals⟩

/-- A queue just made, of the same name and settings, and open when the queue is. -/
def anew : Queue := if run.queue.isOpen then run.fresh.openUp else run.fresh

theorem cleared_queue : run.cleared.queue = run.queue.clear := by
  rw [cleared, further_queue]
  simp [System.history, System.operations, Queue.after, Operation.perform]

theorem cleared_tasks : run.cleared.final.tasks = run.final.tasks := by
  rw [cleared, further_final]
  rfl

theorem anew_eq :
    run.anew = { descriptor := run.queue.descriptor, settings := run.queue.settings } := by
  have descriptor := run.fresh.after_descriptor run.history
  rw [← queue_eq] at descriptor
  rw [anew, run.queue_settings, descriptor]
  cases run.queue.isOpen <;> rfl

theorem cleared_ahead : run.cleared.queue = run.cleared.anew.shifted run.cleared.lead := by
  have twice : run.cleared.queue = run.cleared.queue.clear := by
    rw [cleared_queue]
    rfl
  rw [anew_eq, lead, ← Queue.clear_eq_shifted]
  exact twice

theorem cleared_mirrors :
    System.Mirrors run.cleared.lead run.index run.cleared.final.tasks
      (run.cleared.final.setQueue run.index run.cleared.anew) run.cleared.final := by
  have held := run.cleared.final_queue?
  rw [← queue_eq] at held
  refine ⟨rfl, rfl, rfl, rfl, ?_, ?_, List.forall₂_same.mpr ?_⟩
  · rw [System.setQueue_queue?, if_pos rfl]
    rw [show run.index = run.cleared.index from rfl, held]
    simp [← cleared_ahead]
  · intro other different
    rw [System.setQueue_queue?, if_neg (Ne.symm different)]
  · intro task member
    exact .same (Or.inr member)

end Run

/-- Whether a call names a lease by one of these tokens, or holds a copy that names none any more. -/
def Operation.IsStale (operation : Operation) (tokens : List Token) : Prop :=
  match operation with
  | .renew message _ | .complete message | .deadLetter message | .abandon message =>
    ∀ token, message.token = some token → token ∈ tokens
  | _ => False

namespace Queue

variable {queue : Queue} {tokens : List Token}

theorem idle_calls (gone : ∀ token ∈ tokens, token ∉ queue.store.tokens) {message : Message}
    (stale : ∀ token, message.token = some token → token ∈ tokens) (timeout : Duration)
    (now : Instant) :
    queue.complete message = (message.withoutToken, queue) ∧
      queue.deadLetter message = (message.withoutToken, queue) ∧
      queue.abandon message now = (message, queue) ∧
      queue.renew message timeout now = queue := by
  have missing : queue.leaseOf? message = none := by
    cases named : message.token with
    | none => simp [leaseOf?, named]
    | some token => exact leaseOf?_stale named (gone token (stale token named))
  exact calls_of_none missing timeout now

theorem perform_of_stale (gone : ∀ token ∈ tokens, token ∉ queue.store.tokens)
    {operation : Operation} (stale : operation.IsStale tokens) (now : Instant) :
    operation.perform queue now = queue := by
  cases operation with
  | renew message timeout => exact (idle_calls gone stale timeout now).2.2.2
  | complete message => exact congrArg Prod.snd (idle_calls gone stale ⟨0⟩ now).1
  | deadLetter message => exact congrArg Prod.snd (idle_calls gone stale ⟨0⟩ now).2.1
  | abandon message => exact congrArg Prod.snd (idle_calls gone stale ⟨0⟩ now).2.2.1
  | _ => exact stale.elim

end Queue

theorem System.after_call_of_idle {system : System} {index : Nat} {queue : Queue}
    {operation : Operation} (held : system.queue? index = some queue)
    (idle : operation.perform queue system.clock = queue) :
    system.after (.call index operation) = system := by
  have same : system.queues.set index queue = system.queues := by
    obtain ⟨bound, at'⟩ := List.getElem?_eq_some_iff.mp held
    rw [← at', List.set_getElem_self]
  simp only [System.after, modifyQueue, System.queue, held, Option.getD_some, idle, setQueue, same]

namespace Run

variable {run : Run}

theorem cleared_forgets {more : List System.Event}
    (short : (run.cleared.further more).chronicle.delivered.length ≤ UInt64.size) :
    ∀ token ∈ run.chronicle.issued, token ∉ (run.cleared.further more).queue.store.tokens := by
  have split := run.cleared.further_chronicle more
  have emptied : run.cleared.queue.store.tokens = [] := by
    rw [cleared_queue]
    rfl
  have sameIssued : run.cleared.chronicle.issued = run.chronicle.issued := by
    have chronicle := run.further_chronicle [.call run.index .clear]
    have delivered : run.cleared.chronicle.delivered = run.chronicle.delivered := by
      rw [cleared, chronicle, Chronicle.delivered_append]
      simp [System.history, System.operations, Queue.chronicle, Operation.deed?, Chronicle.delivered]
    rw [Chronicle.issued, Chronicle.issued, delivered]
  have shortBefore : run.cleared.chronicle.delivered.length ≤ UInt64.size := by
    rw [split, Chronicle.delivered_append, List.length_append] at short
    omega
  have before := run.cleared.recorded.removed_append_tokens_perm shortBefore
  rw [emptied, List.append_nil, sameIssued] at before
  have account := (run.cleared.further more).recorded.removed_append_tokens_perm short
  have distinct := account.nodup_iff.mpr (Chronicle.issued_nodup short)
  intro token issued held
  refine (List.nodup_append.mp distinct).2.2 token ?_ token held rfl
  rw [split, Chronicle.removed, List.flatMap_append, List.mem_append]
  exact Or.inl (before.mem_iff.mpr issued)

end Run

def Message.bare (message : Message) : Message := { message with sentAt := none, token := none }

def Store.Holds (store : Store) (known : Message → Prop) : Prop :=
  ∀ message ∈ store.pending ++ store.leases.map Lease.message, known message.bare

namespace Store

variable {policy : RenewPolicy} {now : Instant} {store next : Store} {deed : Deed}
  {known : Message → Prop}

namespace Holds

variable (holds : store.Holds known)

include holds

theorem leased {token : Token} {lease : Lease} (found : store.lease? token = some lease) :
    known lease.message.bare :=
  holds _ (List.mem_append_right _ (List.mem_map_of_mem (lease?_eq_some found).1))

theorem push {message : Message} (own : known message.bare) : (store.push message).Holds known := by
  intro other member
  simp only [push_pending, push_leases, List.mem_append, List.mem_singleton] at member
  rcases member with (old | rfl) | old
  · exact holds other (List.mem_append_left _ old)
  · exact own
  · exact holds other (List.mem_append_right _ old)

theorem withoutLease (token : Token) : (store.withoutLease token).Holds known := by
  intro other member
  rcases List.mem_append.mp member with old | old
  · exact holds other (List.mem_append_left _ old)
  · exact holds other (List.mem_append_right _ ((List.filter_sublist.map Lease.message).subset old))

theorem withRenewed (lease : Lease) (span : Duration) (now : Instant) :
    (store.withRenewed lease span now).Holds known := by
  intro other member
  rw [withRenewed_pending, withRenewed_map _ _ _ _ fun _ _ => rfl] at member
  exact holds other member

theorem withGranted {first : Message} {rest : List Message} (head : store.pending = first :: rest)
    (token : Token) (timeout : Duration) (now : Instant) :
    (store.withGranted (first.withToken token) rest timeout now).Holds known := by
  intro other member
  rw [withGranted_pending, withGranted_leases, List.map_append, List.mem_append,
    List.mem_append] at member
  rcases member with old | old | new
  · exact holds other (List.mem_append_left _ (by simp [head, old]))
  · exact holds.withoutLease store.nextToken other (List.mem_append_right _ old)
  · rw [List.mem_singleton.mp new]
    exact holds first (List.mem_append_left _ (by simp [head]))

end Holds

theorem Step.holds (step : Step policy now store deed next) (holds : store.Holds known)
    (sent : ∀ message, deed = .sent message → known message.bare) :
    next.Holds known ∧ ∀ message ∈ Chronicle.delivered [(now, deed)], known message.bare := by
  cases step with
  | sent message => exact ⟨holds.push (sent _ rfl), by simp [Chronicle.delivered]⟩
  | @granted first rest timeout head =>
      refine ⟨holds.withGranted head _ timeout now, ?_⟩
      intro other member
      rw [List.mem_singleton.mp member]
      exact holds first (List.mem_append_left _ (by simp [head]))
  | renewed timeout held => exact ⟨holds.withRenewed _ _ now, by simp [Chronicle.delivered]⟩
  | missed => exact ⟨holds, by simp [Chronicle.delivered]⟩
  | returned held =>
      exact ⟨(holds.withoutLease _).push (holds.leased held), by simp [Chronicle.delivered]⟩
  | ended => exact ⟨holds.withoutLease _, by simp [Chronicle.delivered]⟩
  | cleared => exact ⟨by simp [Holds], by simp [Chronicle.delivered]⟩

end Store

theorem Queue.after_holds {queue : Queue} {known : Message → Prop}
    (holds : queue.store.Holds known) (history : List (Instant × Operation))
    (sent : ∀ time message, (time, Deed.sent message) ∈ queue.chronicle history →
      known message.bare) :
    (queue.after history).store.Holds known ∧
      ∀ message ∈ Chronicle.delivered (queue.chronicle history), known message.bare := by
  induction history generalizing queue with
  | nil => exact ⟨holds, by simp [Queue.chronicle, Chronicle.delivered]⟩
  | cons moment rest ih =>
      obtain ⟨now, operation⟩ := moment
      have stored := (operation.perform_effect queue now).store
      rw [Queue.chronicle, Chronicle.delivered_append]
      have later (held : (operation.perform queue now).store.Holds known) :=
        ih held fun time message member => sent time message (List.mem_append_right _ member)
      cases deedEq : operation.deed? queue now with
      | none =>
          rw [deedEq] at stored
          have unchanged : (operation.perform queue now).store = queue.store := stored
          exact later (unchanged ▸ holds)
      | some deed =>
          rw [deedEq] at stored
          have own (message : Message) (same : deed = .sent message) : known message.bare :=
            sent now message (by simp [Queue.chronicle, deedEq, same])
          obtain ⟨held, granted⟩ := Store.Step.holds stored holds own
          obtain ⟨after, others⟩ := later held
          refine ⟨after, fun message member => ?_⟩
          rcases List.mem_append.mp member with first | second
          · exact granted message first
          · exact others message second

/-- What happens after a clear: something that might as well happen on a queue just made, or a call with
what a client holds from before. -/
inductive Encore where
  | own (event : System.Event)
  | stale (operation : Operation)
deriving DecidableEq

namespace Encore

def onFresh : Encore → Option System.Event
  | .own event => some event
  | .stale _ => none

def onCleared (shift : Shift) (index : Nat) : Encore → System.Event
  | .own event => event.shifted shift index
  | .stale operation => .call index operation

end Encore

namespace Run

/-- The same things on a queue that was just made in place of the one that was cleared. -/
def encoreFresh (run : Run) (steps : List Encore) : System :=
  (run.cleared.final.setQueue run.index run.cleared.anew).run (steps.filterMap Encore.onFresh)

def encore (run : Run) (steps : List Encore) : Run :=
  run.cleared.further (steps.map (Encore.onCleared run.cleared.lead run.index))

theorem encore_queue? (run : Run) (steps : List Encore) :
    (run.encore steps).final.queue? run.index = some (run.encore steps).queue := by
  rw [queue_eq]
  exact (run.encore steps).final_queue?

variable {run : Run}

theorem encore_concat (steps : List Encore) (step : Encore) :
    (run.encore (steps ++ [step])).final =
      (run.encore steps).final.after (step.onCleared run.cleared.lead run.index) := by
  rw [encore, List.map_append, further_final, System.run_append, ← further_final]
  rfl

theorem delivered_le_concat (steps : List Encore) (step : Encore) :
    (run.encore steps).chronicle.delivered.length ≤
      (run.encore (steps ++ [step])).chronicle.delivered.length := by
  have further : run.encore (steps ++ [step]) =
      (run.encore steps).further [step.onCleared run.cleared.lead run.index] := by
    simp [encore, Run.further]
  rw [further, further_chronicle, Chronicle.delivered_append, List.length_append]
  omega

theorem encore_mirrors
    (idle : ∀ task ∈ run.cleared.final.tasks, task.queue = run.index → task.job.isFinished = true)
    {steps : List Encore}
    (stale : ∀ operation, Encore.stale operation ∈ steps → operation.IsStale run.chronicle.issued)
    (short : (∃ operation, Encore.stale operation ∈ steps) →
      (run.encore steps).chronicle.delivered.length ≤ UInt64.size) :
    System.Mirrors run.cleared.lead run.index run.cleared.final.tasks (run.encoreFresh steps)
      (run.encore steps).final := by
  induction steps using List.reverseRecOn with
  | nil =>
      have same : (run.encore []).final = run.cleared.final := by
        simp [encore, final, further]
      rw [same]
      exact run.cleared_mirrors
  | append_singleton steps step ih =>
      have mirrors := ih (fun operation member => stale operation (List.mem_append_left _ member))
        (by
          rintro ⟨operation, member⟩
          exact Nat.le_trans (delivered_le_concat steps step)
            (short ⟨operation, List.mem_append_left _ member⟩))
      rw [encore_concat]
      cases step with
      | own event =>
          have extended : run.encoreFresh (steps ++ [.own event]) =
              (run.encoreFresh steps).after event := by
            rw [encoreFresh, List.filterMap_append, System.run_append]
            rfl
          rw [extended]
          exact mirrors.after idle event
      | stale operation =>
          have unmoved : run.encoreFresh (steps ++ [.stale operation]) = run.encoreFresh steps := by
            rw [encoreFresh, List.filterMap_append, List.filterMap_cons_none rfl, List.filterMap_nil,
              List.append_nil, encoreFresh]
          have last : Encore.stale operation ∈ steps ++ [.stale operation] := by simp
          have bounded := Nat.le_trans (delivered_le_concat steps _) (short ⟨operation, last⟩)
          have idles := Queue.perform_of_stale (cleared_forgets bounded) (stale operation last)
            (run.encore steps).final.clock
          have unchanged : (run.encore steps).final.after (.call run.index operation) =
              (run.encore steps).final := System.after_call_of_idle (run.encore_queue? steps) idles
          rw [unmoved, Encore.onCleared, unchanged]
          exact mirrors

theorem cleared_holds {more : List System.Event} {since : Chronicle}
    (split : (run.cleared.further more).chronicle = run.cleared.chronicle ++ since) :
    let known := fun bare : Message => ∃ time sent, (time, Deed.sent sent) ∈ since ∧ bare = sent.bare
    (run.cleared.further more).queue.store.Holds known ∧
      ∀ message ∈ Chronicle.delivered since, known message.bare := by
  intro known
  rw [further_chronicle] at split
  obtain rfl := List.append_cancel_left split
  have empty : run.cleared.queue.store.Holds known := by
    rw [cleared_queue]
    simp [Store.Holds, Queue.clear]
  rw [further_queue]
  exact Queue.after_holds empty _ fun time message listed => ⟨time, message, listed, rfl⟩

end Run

/-- A clear forgets the past. After any run that leaves no task waiting on the queue, whatever happens
next does the same to the cleared queue and its tasks as to a queue just made in its place, under tokens
and counters that are ahead by those of the run: calls give the same answers, listeners show the same,
and all is in the same state. Calls on messages received before the clear may come in between; they
return and leave the queue as it is, up to `2 ^ 64` receives. What is pending or was received since the
clear was sent since the clear. -/
theorem clear_forgets_the_past (run : Run)
    (idle : ∀ task ∈ run.final.tasks, task.queue = run.index → task.job.isFinished = true)
    (steps : List Encore)
    (stale : ∀ operation, Encore.stale operation ∈ steps → operation.IsStale run.chronicle.issued)
    (short : (∃ operation, Encore.stale operation ∈ steps) →
      (run.encore steps).chronicle.delivered.length ≤ UInt64.size) :
    let shift := run.cleared.lead
    let fresh := run.encoreFresh steps
    let later := run.encore steps
    fresh.Mirrors shift run.index run.cleared.final.tasks later.final ∧
    (∀ operation : Operation, (operation.shifted shift).answer later.queue later.now =
      (operation.answer (fresh.queue run.index) fresh.clock).shifted shift) ∧
    (∀ id, later.final.notices run.index id =
      (fresh.notices run.index id).map fun notice => notice.shifted shift) ∧
    (later.chronicle.delivered.length ≤ UInt64.size → ∀ message : Message,
      (∀ token, message.token = some token → token ∈ run.chronicle.issued) → ∀ timeout now,
        later.queue.complete message = (message.withoutToken, later.queue) ∧
        later.queue.deadLetter message = (message.withoutToken, later.queue) ∧
        later.queue.abandon message now = (message, later.queue) ∧
        later.queue.renew message timeout now = later.queue) ∧
    ∀ since, later.chronicle = run.cleared.chronicle ++ since → ∀ message : Message,
      message ∈ later.queue.store.pending ∨ message ∈ Chronicle.delivered since →
        ∃ time sent, (time, Deed.sent sent) ∈ since ∧ message.bare = sent.bare := by
  intro shift fresh later
  rw [← run.cleared_tasks] at idle
  have mirrors : fresh.Mirrors shift run.index run.cleared.final.tasks later.final :=
    Run.encore_mirrors idle stale short
  have ahead := mirrors.queue
  rw [run.encore_queue? steps] at ahead
  obtain ⟨queue, found, same⟩ := Option.map_eq_some_iff.mp ahead.symm
  refine ⟨mirrors, ?_, ?_, ?_, ?_⟩
  · intro operation
    have own : fresh.queue run.index = queue := by
      rw [System.queue, found, Option.getD_some]
    rw [own, ← same, Run.now, mirrors.clock]
    exact operation.answer_shifted shift queue fresh.clock
  · intro id
    exact mirrors.notices idle id found
  · intro bounded message old timeout now
    exact Queue.idle_calls (Run.cleared_forgets bounded) old timeout now
  · intro since split message member
    obtain ⟨holds, delivered⟩ := Run.cleared_holds split
    rcases member with pending | received
    · exact holds message (List.mem_append_left _ pending)
    · exact delivered message received

def Run.exchanging : Run where
  system := {}
  name := "orders"
  settings := {}
  events :=
    let message : Message := { id := ⟨1⟩, correlationId := "c", kind := "job", payload := [1] }
    [.call 0 .openUp, .call 0 (.send message), .call 0 (.send { message with id := ⟨2⟩ }),
      .call 0 (.take (.ofMillis 50)), .receive 0 (.ofMillis 50), .turn 0, .turn 0, .turn 0,
      .pass (.ofMillis 10)]

theorem clear_forgets_the_past_exchanging :
    let old : Message := { id := ⟨1⟩, correlationId := "c", kind := "job", payload := [1] }
    let message : Message := { id := ⟨3⟩, correlationId := "c", kind := "job", payload := [3] }
    let steps := [Encore.own (.call 0 (.send message)), .stale (.abandon (old.withToken ⟨0⟩)),
      .own (.call 0 (.take (.ofMillis 50))), .stale (.complete (old.withToken ⟨1⟩)),
      .own (.call 0 (.complete (message.withToken ⟨0⟩)))]
    Run.exchanging.cleared.lead.tokens = 2 ∧
    (Run.exchanging.encore steps).queue.store.pending = [] ∧
    (Run.exchanging.encoreFresh steps).Mirrors Run.exchanging.cleared.lead 0
      Run.exchanging.cleared.final.tasks (Run.exchanging.encore steps).final ∧
    (∀ operation : Operation,
      (operation.shifted Run.exchanging.cleared.lead).answer (Run.exchanging.encore steps).queue
          (Run.exchanging.encore steps).now =
        (operation.answer ((Run.exchanging.encoreFresh steps).queue 0)
          (Run.exchanging.encoreFresh steps).clock).shifted Run.exchanging.cleared.lead) := by
  intro old message steps
  have issued : Run.exchanging.chronicle.issued = [⟨0⟩, ⟨1⟩] := by decide
  have stale (operation : Operation) (member : Encore.stale operation ∈ steps) :
      operation.IsStale Run.exchanging.chronicle.issued := by
    simp only [steps, List.mem_cons, Encore.stale.injEq, reduceCtorEq, false_or, or_false,
      List.not_mem_nil] at member
    rw [issued]
    rcases member with rfl | rfl <;> simp [Operation.IsStale, Message.withToken]
  obtain ⟨mirrors, answers, _⟩ := clear_forgets_the_past Run.exchanging (by decide) steps stale
    fun _ => by decide
  exact ⟨by decide, by decide, mirrors, answers⟩

def Encore.ofCalls (index : Nat) (calls : List Operation) : List Encore :=
  calls.map fun operation => .own (.call index operation)

theorem Encore.onFresh_ofCalls (index : Nat) (calls : List Operation) :
    (ofCalls index calls).filterMap onFresh = calls.map (System.Event.call index) := by
  rw [ofCalls, List.filterMap_map]
  exact congrFun List.filterMap_eq_map calls

theorem Encore.stale_not_mem_ofCalls (index : Nat) (calls : List Operation) (operation : Operation) :
    .stale operation ∉ ofCalls index calls := by
  simp [ofCalls]

namespace Run

theorem encore_calls {run : Run}
    (idle : ∀ task ∈ run.cleared.final.tasks, task.queue = run.index → task.job.isFinished = true)
    (calls : List Operation) :
    (run.encore (Encore.ofCalls run.index calls)).queue =
      (run.cleared.anew.performAll run.cleared.now calls).shifted run.cleared.lead := by
  have own := Encore.stale_not_mem_ofCalls run.index calls
  have mirrors := encore_mirrors idle (fun operation listed => absurd listed (own operation))
    (fun ⟨operation, listed⟩ => absurd listed (own operation))
  have made : (run.cleared.final.setQueue run.index run.cleared.anew).queue? run.index =
      some run.cleared.anew := by
    have held := run.cleared.final_queue?
    rw [show run.cleared.index = run.index from rfl] at held
    rw [System.setQueue_queue?, if_pos rfl, held, Option.map_some]
  have fresh : (run.encoreFresh (Encore.ofCalls run.index calls)).queue? run.index =
      some (run.cleared.anew.performAll run.cleared.now calls) := by
    rw [encoreFresh, Encore.onFresh_ofCalls, System.run_queue?, System.history_calls, made,
      Option.map_some, Queue.after_map]
    rfl
  have ahead := mirrors.queue
  rw [fresh, encore_queue?] at ahead
  exact Option.some.inj ahead

def keeping : Run := ofCalls [.send keptMessage, .take (.ofMillis 50)]

def turnedFresh : Queue := (Queue.ofSettings "orders" {}).send turnedMessage .origin

def keepingLapped (rounds : Nat) : Run :=
  keeping.encore (Encore.ofCalls 0 (.send turnedMessage ::
    (Operation.rounds turnedMessage (.ofMillis 50) 0 rounds ++ [.take (.ofMillis 50)])))

theorem turnedFresh_revolves (rounds : Nat) :
    turnedFresh.Revolves turnedMessage (.ofMillis 50) .origin 0 rounds where
  alone := by decide
  unlocked := rfl
  running := by decide
  numbered := rfl
  fresh number _ _ held := by
    rw [show turnedFresh.store.tokens = [] from rfl] at held
    simp at held

theorem keepingLapped_leases {rounds : Nat} (full : rounds + 1 = UInt64.size) :
    (keepingLapped rounds).queue.store.leases.map (fun lease => (lease.token, lease.message.id)) =
      [(⟨0⟩, turnedMessage.id)] := by
  have head : (turnedFresh.rounded rounds).store.pending = [turnedMessage.stamped .origin] :=
    (turnedFresh_revolves rounds).alone
  have last : (keepingLapped rounds).queue =
      ((Operation.take (.ofMillis 50)).perform (turnedFresh.rounded rounds) .origin).shifted
        keeping.cleared.lead := by
    rw [← (turnedFresh_revolves rounds).performAll_rounds]
    have idle : ∀ task ∈ keeping.cleared.final.tasks, task.queue = keeping.index →
        task.job.isFinished = true := by decide
    exact (encore_calls idle _).trans
      (congrArg (·.shifted keeping.cleared.lead) (turnedFresh.performAll_append .origin _ _))
  have lead : keeping.cleared.lead.tokens = 1 := by decide
  rw [last, Queue.take_of_pending head]
  change [((⟨0 + .ofNat rounds⟩ : Token).shifted keeping.cleared.lead, turnedMessage.id)] = _
  rw [ofNat_of_full full, Token.shifted, lead]
  decide

/-- A message is received from another queue and sent on with the token it has there. -/
def forwarding : Run where
  system := { queues := [Queue.ofSettings "inbox" {}] }
  name := "orders"
  settings := {}
  events := [.call 0 (.send keptMessage), .call 0 (.take (.ofMillis 50)),
    .call 1 (.send (keptMessage.withToken ⟨0⟩))]

def forwarded : Run :=
  forwarding.encore (Encore.ofCalls 1 [.send turnedMessage, .take (.ofMillis 50)])

end Run

theorem Queue.complete_sole {queue : Queue} {message : Message} {lease : Lease}
    (sole : queue.store.leases = [lease]) (named : message.token = some lease.token) :
    (queue.complete message).2.store.leases = [] := by
  have found : queue.leaseOf? message = some lease := by
    simp [leaseOf?, named, Store.lease?, sole]
  rw [complete, settle_of_some _ found]
  simp [Store.withoutLease, sole]

/-- Two handles from before a clear that end a lease granted after it: one that was received, once the
tokens have started again; and one that a peek showed, of a message sent with a token of another queue. -/
theorem old_handles_end_new_leases :
    (let old := (Run.keptMessage.stamped .origin).withToken ⟨0⟩
      let later := Run.keepingLapped (UInt64.size - 1)
      Run.keeping.chronicle.delivered = [old] ∧
        later.queue.store.leases.map (fun lease => (lease.token, lease.message.id)) =
          [(⟨0⟩, Run.turnedMessage.id)] ∧
        (later.queue.complete old).2.store.leases = []) ∧
    ∃ old, Run.forwarding.queue.peek = some old ∧
      Run.forwarded.queue.store.leases.map (fun lease => (lease.token, lease.message.id)) =
        [(⟨0⟩, Run.turnedMessage.id)] ∧
      (Run.forwarded.queue.complete old).2.store.leases = [] := by
  have full : UInt64.size - 1 + 1 = UInt64.size := rfl
  have granted := Run.keepingLapped_leases full
  generalize Run.keepingLapped (UInt64.size - 1) = later at granted
  refine ⟨⟨by decide, granted, ?_⟩, _, rfl, by decide, by decide⟩
  obtain ⟨lease, sole, same⟩ := List.map_eq_singleton_iff.mp granted
  exact Queue.complete_sole sole (congrArg some (Prod.mk.inj same).1.symm)

end LeaseQueue
