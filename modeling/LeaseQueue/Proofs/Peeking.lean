import LeaseQueue.Proofs.Return

/-!
Looking at a queue without taking anything. What a peek shows is what the receives that follow it return,
and nothing else in a run depends on how often somebody looks.
-/

namespace LeaseQueue

theorem Queue.peekBatch_length (queue : Queue) (count : Nat) :
    (queue.peekBatch count).length =
      if count ≤ queue.store.pending.length then count
      else
        match queue.settings.peekPolicy with
        | .clamp => queue.store.pending.length
        | .strict => 0 := by
  rw [peekBatch, List.length_take, batchSize, pendingCount]
  split
  · rename_i within
    exact Nat.min_eq_left within
  · cases queue.settings.peekPolicy with
    | clamp => exact Nat.min_self _
    | strict => exact Nat.zero_min _

namespace Receiving

def prompt (run : Run) (numbered : run.system.Numbered) : Receiving where
  run
  numbered
  timeout := ⟨0⟩
  events := List.replicate 3 (.turn run.final.spawned)

theorem prompt_scene (run : Run) (numbered : run.system.Numbered) :
    (prompt run numbered).scene? = some (Reception.Scene.mk (.later ⟨0⟩) run.queue run.now).next.next.next := by
  have turns := scene_turn (scene_turn (scene_turn (prompt run numbered).begun_scene))
  rw [further_further, further_further] at turns
  exact turns

end Receiving

namespace Run

def withReceipt (run : Run) (span : Duration) : Run :=
  (run.further [.pass span]).further
    (.receive run.index ⟨0⟩ :: List.replicate 3 (.turn run.final.spawned))

/-- What receives return that come one after the other, each some time after the one before. -/
def receipts : Run → List Duration → List (Option Message)
  | _, [] => []
  | run, span :: rest =>
    let next := run.withReceipt span
    (next.final.reception? run.final.spawned).bind Reception.message? :: next.receipts rest

variable {run : Run} {first : Message} {rest : List Message}

theorem receipt_of_pending (numbered : run.system.Numbered) (pending : run.queue.store.pending = first :: rest)
    (span : Duration) :
    ((run.withReceipt span).final.reception? run.final.spawned).bind Reception.message? =
        some (first.withToken run.queue.store.nextToken) ∧
      (run.withReceipt span).queue.store.pending = rest := by
  let waited := run.further [.pass span]
  have waitedQueue : waited.queue = run.queue := run.further_queue [.pass span]
  have waitedFinal : waited.final = run.final.after (.pass span) := run.further_final [.pass span]
  have spawned : waited.final.spawned = run.final.spawned := by
    rw [waitedFinal]
    rfl
  have present := Receiving.prompt_scene waited numbered
  obtain ⟨task, queue, -⟩ := Receiving.scene?_eq_some.mp present
  have whole : (Receiving.prompt waited numbered).whole = run.withReceipt span := by
    have all : (Receiving.prompt waited numbered).whole =
        waited.further (.receive waited.index ⟨0⟩ :: List.replicate 3 (.turn waited.final.spawned)) := rfl
    rw [all, spawned]
    rfl
  have id : (Receiving.prompt waited numbered).id = run.final.spawned := spawned
  have final : (Receiving.prompt waited numbered).final = (run.withReceipt span).final :=
    congrArg Run.final whole
  rw [whole] at queue
  rw [final, id] at task
  rw [System.reception?, task, queue]
  simp [Reception.Scene.next, Reception.step, Reception.later, Reception.start, Reception.look,
    Queue.take?_of_pending pending, Reception.message?, waitedQueue]

theorem receipts_of_pending (numbered : run.system.Numbered) {front : List Message}
    (pending : run.queue.store.pending = front ++ rest) (spans : List Duration)
    (times : spans.length = front.length) :
    (run.receipts spans).map (Option.map Message.withoutToken) =
      front.map fun message => some message.withoutToken := by
  induction spans generalizing run front with
  | nil =>
      obtain rfl := List.length_eq_zero_iff.mp times.symm
      rfl
  | cons span spans ih =>
      obtain ⟨first, others, rfl⟩ := List.exists_cons_of_length_eq_add_one times.symm
      obtain ⟨returned, left⟩ := receipt_of_pending numbered pending span
      have still : (run.withReceipt span).system.Numbered := numbered
      have following := ih still left (Nat.succ.inj times)
      simp only [receipts, List.map_cons, returned, following]
      rfl

end Run

/-- A list with further items put in somewhere. -/
inductive Interspersed {α : Type} (extra : α → Prop) : (plain mixed : List α) → Prop
  | nil : Interspersed extra [] []
  | kept {plain mixed : List α} (item : α) :
      Interspersed extra plain mixed → Interspersed extra (item :: plain) (item :: mixed)
  | added {plain mixed : List α} {item : α} (isExtra : extra item) :
      Interspersed extra plain mixed → Interspersed extra plain (item :: mixed)

namespace System

def Event.isPeek : Event → Bool
  | .call _ .peek | .call _ (.peekBatch _) => true
  | _ => false

def answer? (system : System) (event : Event) : Option Operation.Answer :=
  match event with
  | .call index operation => some (operation.answer (system.queue index) system.clock)
  | _ => none

/-- The events of a run, each with what its client gets back and with all that there is after it. -/
def trace : System → List Event → List (Event × Option Operation.Answer × System)
  | _, [] => []
  | system, event :: rest =>
    (event, system.answer? event, system.after event) :: trace (system.after event) rest

theorem setQueue_queue (system : System) (index : Nat) :
    system.setQueue index (system.queue index) = system := by
  cases held : system.queue? index with
  | some found =>
      have same : system.queue index = found := by rw [queue, held, Option.getD_some]
      rw [same, setQueue_self system held]
  | none =>
      have beyond : system.queues.length ≤ index := List.getElem?_eq_none_iff.mp held
      rw [setQueue, List.set_eq_of_length_le beyond]

theorem after_of_isPeek (system : System) {event : Event} (peeks : event.isPeek = true) :
    system.after event = system := by
  cases event with
  | call index operation =>
      cases operation with
      | peek | peekBatch => exact system.setQueue_queue index
      | _ => simp [Event.isPeek] at peeks
  | _ => simp [Event.isPeek] at peeks

theorem trace_interspersed (system : System) {plain mixed : List Event}
    (looked : Interspersed (fun event => event.isPeek = true) plain mixed) :
    Interspersed (fun entry => entry.1.isPeek = true) (system.trace plain) (system.trace mixed) := by
  induction looked generalizing system with
  | nil => exact .nil
  | kept event _ ih => exact .kept _ (ih (system.after event))
  | added peeks _ ih =>
      refine .added peeks ?_
      rw [system.after_of_isPeek peeks]
      exact ih system

end System

/-- A batch peek shows the front of what is pending, as much as its policy allows, and a peek the first of
it. The receives that follow return just these messages in this order, each with a token of its own. Peeks
that are put into a run, wherever and however many, change nothing else in it: every other event of the run
has the answer it had and leaves the whole system as it did. -/
theorem peeking_foretells_receiving (run : Run) (numbered : run.system.Numbered) (count : Nat) :
    (run.queue.peekBatch count <+: run.queue.store.pending ∧
      (run.queue.peekBatch count).length =
        if count ≤ run.queue.store.pending.length then count
        else
          match run.settings.peekPolicy with
          | .clamp => run.queue.store.pending.length
          | .strict => 0) ∧
    run.queue.peek = run.queue.store.pending.head? ∧
    (∀ spans : List Duration, spans.length = (run.queue.peekBatch count).length →
      (run.receipts spans).map (Option.map Message.withoutToken) =
        (run.queue.peekBatch count).map fun message => some message.withoutToken) ∧
    ∀ mixed, Interspersed (fun event => System.Event.isPeek event = true) run.events mixed →
      Interspersed (fun entry => System.Event.isPeek entry.1 = true)
        (run.start.trace run.events) (run.start.trace mixed) := by
  refine ⟨⟨List.take_prefix _ _, ?_⟩, rfl, ?_, ?_⟩
  · rw [Queue.peekBatch_length, run.queue_settings]
  · intro spans times
    have split := (List.take_append_drop (run.queue.batchSize count) run.queue.store.pending).symm
    exact Run.receipts_of_pending numbered split spans times
  · intro mixed looked
    exact run.start.trace_interspersed looked

def Run.turning : Run where
  system := {}
  name := "orders"
  settings := { peekPolicy := .strict }
  events :=
    let message (number : Nat) : Message :=
      { id := ⟨number⟩, correlationId := "c", kind := "job", payload := [] }
    [.call 0 (.send (message 0)), .call 0 (.send (message 1)), .call 0 (.take (.ofMillis 50)),
      .call 0 (.abandon ((message 0).withToken ⟨0⟩)), .call 0 (.send (message 2))]

theorem peeking_foretells_receiving_turning :
    (Run.turning.queue.peekBatch 2).map Message.id = [⟨1⟩, ⟨0⟩] ∧
    (Run.turning.receipts [⟨0⟩, .ofMillis 70]).map (Option.map Message.withoutToken) =
      (Run.turning.queue.peekBatch 2).map (fun message => some message.withoutToken) ∧
    (Run.turning.queue.peekBatch 4).length = 0 ∧
    Interspersed (fun entry => System.Event.isPeek entry.1 = true)
      (Run.turning.start.trace Run.turning.events)
      (Run.turning.start.trace (.call 0 .peek :: .call 0 (.peekBatch 9) :: Run.turning.events)) := by
  have numbered : Run.turning.system.Numbered := .empty
  obtain ⟨-, -, receipts, inserted⟩ := peeking_foretells_receiving Run.turning numbered 2
  obtain ⟨⟨-, none⟩, -⟩ := peeking_foretells_receiving Run.turning numbered 4
  refine ⟨by decide, receipts _ (by decide), none.trans (by decide), inserted _ ?_⟩
  have same (events : List System.Event) :
      Interspersed (fun event => System.Event.isPeek event = true) events events := by
    induction events with
    | nil => exact .nil
    | cons event rest ih => exact .kept event ih
  exact .added rfl (.added rfl (same _))

end LeaseQueue
