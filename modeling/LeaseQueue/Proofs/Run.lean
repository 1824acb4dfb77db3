import LeaseQueue.Proofs.Turn

/-!
Runs of a queue. The queue is made in a system, whatever the system holds already, and then anything
happens in any order: operations of clients on any queue, receiving calls and listeners that begin,
take a turn or are dropped, and time that passes. The chronicle of a run lists the deeds of its queue.
-/

namespace LeaseQueue

/-- Deeds in order, each with the time at which it was done. -/
abbrev Chronicle := List (Instant × Deed)

def Chronicle.tally (chronicle : Chronicle) (counters : Counters) : Counters :=
  chronicle.foldl (fun counters entry => entry.2.count counters) counters

namespace Queue

def after (queue : Queue) (history : List (Instant × Operation)) : Queue :=
  history.foldl (fun queue moment => moment.2.perform queue moment.1) queue

def chronicle (queue : Queue) : List (Instant × Operation) → Chronicle
  | [] => []
  | (now, operation) :: rest =>
    ((operation.deed? queue now).map fun deed => (now, deed)).toList ++
      (operation.perform queue now).chronicle rest

theorem after_append (queue : Queue) (first second : List (Instant × Operation)) :
    queue.after (first ++ second) = (queue.after first).after second :=
  List.foldl_append

theorem after_map (queue : Queue) (now : Instant) (operations : List Operation) :
    queue.after (operations.map fun operation => (now, operation)) =
      queue.performAll now operations := by
  rw [after, List.foldl_map]
  rfl

theorem chronicle_append (queue : Queue) (first second : List (Instant × Operation)) :
    queue.chronicle (first ++ second) =
      queue.chronicle first ++ (queue.after first).chronicle second := by
  induction first generalizing queue with
  | nil => rfl
  | cons moment rest ih =>
      obtain ⟨now, operation⟩ := moment
      rw [List.cons_append, chronicle, chronicle, ih, List.append_assoc]
      rfl

theorem time_of_mem_chronicle {queue : Queue} {history : List (Instant × Operation)}
    {entry : Instant × Deed} (member : entry ∈ queue.chronicle history) :
    ∃ moment ∈ history, moment.1 = entry.1 := by
  induction history generalizing queue with
  | nil => simp [chronicle] at member
  | cons moment rest ih =>
      obtain ⟨now, operation⟩ := moment
      rcases List.mem_append.mp member with first | others
      · obtain ⟨deed, _, rfl⟩ := Option.map_eq_some_iff.mp (Option.mem_toList.mp first)
        exact ⟨(now, operation), List.mem_cons_self, rfl⟩
      · obtain ⟨later, listed, sameTime⟩ := ih others
        exact ⟨later, List.mem_cons_of_mem _ listed, sameTime⟩

theorem after_settings (queue : Queue) (history : List (Instant × Operation)) :
    (queue.after history).settings = queue.settings := by
  induction history generalizing queue with
  | nil => rfl
  | cons moment rest ih =>
      exact (ih _).trans (moment.2.perform_effect queue moment.1).settings

theorem after_counters (queue : Queue) (history : List (Instant × Operation)) :
    (queue.after history).counters = (queue.chronicle history).tally queue.counters := by
  induction history generalizing queue with
  | nil => rfl
  | cons moment rest ih =>
      obtain ⟨now, operation⟩ := moment
      have counted := (operation.perform_effect queue now).counters
      change ((operation.perform queue now).after rest).counters = _
      rw [ih, counted, chronicle, Chronicle.tally, Chronicle.tally, List.foldl_append]
      cases operation.deed? queue now <;> rfl

end Queue

/-- A store that came about from an empty one by the deeds of a chronicle. -/
inductive Recorded (policy : RenewPolicy) : Chronicle → Store → Prop
  | empty : Recorded policy [] {}
  | next {past : Chronicle} {store next : Store} {now : Instant} {deed : Deed} :
      Recorded policy past store → Store.Step policy now store deed next →
      Recorded policy (past ++ [(now, deed)]) next

theorem Recorded.after {queue : Queue} {past : Chronicle}
    (recorded : Recorded queue.settings.renewPolicy past queue.store)
    (history : List (Instant × Operation)) :
    Recorded queue.settings.renewPolicy (past ++ queue.chronicle history)
      (queue.after history).store := by
  induction history generalizing queue past with
  | nil => simpa [Queue.chronicle, Queue.after] using recorded
  | cons moment rest ih =>
      obtain ⟨now, operation⟩ := moment
      obtain ⟨sameSettings, _, stored⟩ := operation.perform_effect queue now
      have continued (records : Recorded queue.settings.renewPolicy
          (past ++ ((operation.deed? queue now).map fun deed => (now, deed)).toList)
          (operation.perform queue now).store) := ih (sameSettings ▸ records)
      rw [sameSettings, List.append_assoc] at continued
      apply continued
      cases deedEq : operation.deed? queue now with
      | none =>
          rw [deedEq] at stored
          have unchanged : (operation.perform queue now).store = queue.store := stored
          simpa [unchanged] using recorded
      | some deed =>
          rw [deedEq] at stored
          exact recorded.next stored

theorem Recorded.split {policy : RenewPolicy} {earlier later : Chronicle} {now : Instant}
    {deed : Deed} {store : Store}
    (recorded : Recorded policy (earlier ++ (now, deed) :: later) store) :
    ∃ before after, Recorded policy earlier before ∧ Store.Step policy now before deed after ∧
      Recorded policy (earlier ++ [(now, deed)]) after := by
  generalize whole : earlier ++ (now, deed) :: later = chronicle at recorded
  induction recorded generalizing later with
  | empty => simp at whole
  | @next past before after time last recorded step ih =>
      rcases List.eq_nil_or_concat later with rfl | ⟨others, final, rfl⟩
      · obtain ⟨rfl, same⟩ := List.append_inj' whole rfl
        simp only [List.cons.injEq, Prod.mk.injEq, and_true] at same
        obtain ⟨rfl, rfl⟩ := same
        exact ⟨before, after, recorded, step, recorded.next step⟩
      · have same : (earlier ++ (now, deed) :: others) ++ [final] = past ++ [(time, last)] := by
          simpa using whole
        exact ih (List.append_inj' same rfl).1

theorem Recorded.step_of_mem {policy : RenewPolicy} {chronicle : Chronicle} {now : Instant}
    {deed : Deed} {store : Store} (recorded : Recorded policy chronicle store)
    (member : (now, deed) ∈ chronicle) :
    ∃ before after, Store.Step policy now before deed after := by
  obtain ⟨earlier, later, rfl⟩ := List.append_of_mem member
  obtain ⟨before, after, _, step, _⟩ := recorded.split
  exact ⟨before, after, step⟩

namespace System

inductive Event where
  | call (queue : Nat) (operation : Operation)
  | receive (queue : Nat) (timeout : Duration)
  | listen (queue : Nat) (correlationId : String) (plan : Plan)
  | turn (task : Nat)
  | drop (task : Nat)
  | pass (span : Duration)
deriving DecidableEq

def after (system : System) (event : Event) : System :=
  match event with
  | .call queue operation =>
    system.modifyQueue queue fun queue => operation.perform queue system.clock
  | .receive queue timeout => (system.spawn queue (.receive (Reception.later timeout))).2
  | .listen queue correlationId plan => (system.beginListen queue correlationId plan).2
  | .turn id =>
    match system.task? id with
    | some task => system.stepTask task
    | none => system
  | .drop id => system.drop id
  | .pass span => { system with clock := system.clock + span }

def run (system : System) (events : List Event) : System := events.foldl after system

theorem run_append (system : System) (first second : List Event) :
    system.run (first ++ second) = (system.run first).run second :=
  List.foldl_append

/-- The operations that an event amounts to on the queue of a number. -/
def operations (system : System) (event : Event) (index : Nat) : List Operation :=
  match event with
  | .call queue operation => if queue = index then [operation] else []
  | .listen queue _ _ => if queue = index then [.resume] else []
  | .turn id =>
    match system.task? id with
    | some task =>
      if task.queue = index then
        task.job.operations (system.queue index) system.clock system.freshId
      else []
    | none => []
  | .receive _ _ | .drop _ | .pass _ => []

def history (index : Nat) : System → List Event → List (Instant × Operation)
  | _, [] => []
  | system, event :: rest =>
    (system.operations event index).map (fun operation => (system.clock, operation)) ++
      history index (system.after event) rest

theorem setQueue_queue? (system : System) (target index : Nat) (queue : Queue) :
    (system.setQueue target queue).queue? index =
      if target = index then (system.queue? index).map fun _ => queue else system.queue? index := by
  simp only [queue?, setQueue, List.getElem?_set]
  split
  · rename_i same
    subst same
    split <;> simp_all
  · rfl

theorem modifyQueue_queue? (system : System) (target index : Nat) (change : Queue → Queue) :
    (system.modifyQueue target change).queue? index =
      if target = index then (system.queue? index).map change else system.queue? index := by
  rw [modifyQueue, setQueue_queue?]
  split
  · rename_i same
    subst same
    cases held : system.queue? target <;> simp [queue, held]
  · rfl

theorem stepTask_queues {system : System} {task : Task} {queue : Queue}
    (held : system.queue? task.queue = some queue) :
    (system.stepTask task).queues =
      system.queues.set task.queue
        (queue.performAll system.clock
          (task.job.operations queue system.clock system.freshId)) := by
  unfold stepTask
  cases job : task.job with
  | receive call =>
      simp only [held, Job.operations, ← call.step_queue]
      rfl
  | listen listener =>
      simp only [held, Job.operations, ← listener.step_queue]
      rfl

theorem stepTask_queue? (system : System) (task : Task) (index : Nat) :
    (system.stepTask task).queue? index =
      (system.queue? index).map fun queue =>
        queue.performAll system.clock
          (if task.queue = index then
            task.job.operations (system.queue index) system.clock system.freshId
          else []) := by
  cases held : system.queue? task.queue with
  | none =>
      have idle : system.stepTask task = system := by simp [stepTask, held]
      by_cases same : task.queue = index
      · subst same
        simp [idle, held]
      · simp [idle, same, Queue.performAll]
  | some queue =>
      have bound : task.queue < system.queues.length := (List.getElem?_eq_some_iff.mp held).1
      rw [queue?, stepTask_queues held, List.getElem?_set]
      by_cases same : task.queue = index
      · subst same
        simp [System.queue, held, bound]
      · simp [same, Queue.performAll, queue?]

theorem after_queue? (system : System) (event : Event) (index : Nat) :
    (system.after event).queue? index =
      (system.queue? index).map fun queue =>
        queue.performAll system.clock (system.operations event index) := by
  cases event with
  | call queue operation =>
      simp only [after, operations, modifyQueue_queue?]
      split <;> simp [Queue.performAll]
  | listen queue correlationId plan =>
      change (system.modifyQueue queue Queue.resume).queue? index = _
      simp only [operations, modifyQueue_queue?]
      split <;> simp [Queue.performAll, Operation.perform]
  | turn id =>
      simp only [after, operations]
      cases system.task? id with
      | none => simp [Queue.performAll]
      | some task => exact stepTask_queue? system task index
  | receive queue timeout => simp [after, operations, spawn, queue?, Queue.performAll]
  | drop id => simp [after, operations, drop, queue?, Queue.performAll]
  | pass span => simp [after, operations, queue?, Queue.performAll]

theorem run_queue? (system : System) (events : List Event) (index : Nat) :
    (system.run events).queue? index =
      (system.queue? index).map fun queue => queue.after (system.history index events) := by
  induction events generalizing system with
  | nil => simp [run, history, Queue.after]
  | cons event rest ih =>
      change ((system.after event).run rest).queue? index = _
      rw [ih, after_queue?, Option.map_map]
      congr 1
      funext queue
      rw [history, Queue.after_append, Queue.after_map]
      rfl

theorem history_append (system : System) (index : Nat) (first second : List Event) :
    system.history index (first ++ second) =
      system.history index first ++ (system.run first).history index second := by
  induction first generalizing system with
  | nil => rfl
  | cons event rest ih =>
      rw [List.cons_append, history, history, ih, List.append_assoc]
      rfl

theorem after_clock (system : System) (event : Event) :
    system.clock ≤ (system.after event).clock := by
  cases event with
  | pass span => exact Nat.le_add_right _ _
  | turn id =>
      simp only [after]
      cases system.task? id with
      | none => exact Nat.le_refl _
      | some task =>
          simp only [stepTask]
          cases system.queue? task.queue with
          | none => exact Nat.le_refl _
          | some queue => cases task.job <;> exact Nat.le_refl _
  | call | receive | listen | drop => exact Nat.le_refl _

theorem clock_le_of_mem_history {system : System} {index : Nat} {events : List Event}
    {moment : Instant × Operation} (member : moment ∈ system.history index events) :
    system.clock ≤ moment.1 := by
  induction events generalizing system with
  | nil => simp [history] at member
  | cons event rest ih =>
      simp only [history, List.mem_append, List.mem_map] at member
      rcases member with ⟨operation, _, rfl⟩ | later
      · exact Nat.le_refl _
      · exact Nat.le_trans (after_clock system event) (ih later)

end System

/-- A queue that is made in a system, and all that happens from then on. -/
structure Run where
  system : System
  name : String
  settings : Settings
  events : List System.Event

namespace Run

def fresh (run : Run) : Queue := Queue.ofSettings run.name run.settings

def index (run : Run) : Nat := (run.system.addQueue run.fresh).1

def start (run : Run) : System := (run.system.addQueue run.fresh).2

def final (run : Run) : System := run.start.run run.events

def queue (run : Run) : Queue := run.final.queue run.index

def now (run : Run) : Instant := run.final.clock

def history (run : Run) : List (Instant × Operation) := run.start.history run.index run.events

def chronicle (run : Run) : Chronicle := run.fresh.chronicle run.history

def further (run : Run) (more : List System.Event) : Run :=
  { run with events := run.events ++ more }

theorem further_final (run : Run) (more : List System.Event) :
    (run.further more).final = run.final.run more :=
  System.run_append run.start run.events more

theorem final_queue? (run : Run) :
    run.final.queue? run.index = some (run.fresh.after run.history) := by
  have made : run.start.queue? run.index = some run.fresh := by
    simp [start, index, System.addQueue, System.queue?]
  rw [final, System.run_queue?, made]
  rfl

theorem queue_eq (run : Run) : run.queue = run.fresh.after run.history := by
  rw [queue, System.queue, final_queue?]
  rfl

theorem further_history (run : Run) (more : List System.Event) :
    (run.further more).history = run.history ++ run.final.history run.index more :=
  System.history_append run.start run.index run.events more

theorem further_queue (run : Run) (more : List System.Event) :
    (run.further more).queue = run.queue.after (run.final.history run.index more) := by
  rw [queue_eq, queue_eq, further_history, Queue.after_append]
  rfl

theorem further_chronicle (run : Run) (more : List System.Event) :
    (run.further more).chronicle =
      run.chronicle ++ run.queue.chronicle (run.final.history run.index more) := by
  rw [chronicle, further_history, Queue.chronicle_append, queue_eq]
  rfl

theorem now_le_of_mem_later {run : Run} {more : List System.Event} {later : Chronicle}
    (split : (run.further more).chronicle = run.chronicle ++ later) {entry : Instant × Deed}
    (member : entry ∈ later) : run.now ≤ entry.1 := by
  rw [further_chronicle] at split
  rw [← List.append_cancel_left split] at member
  obtain ⟨moment, listed, sameTime⟩ := Queue.time_of_mem_chronicle member
  rw [← sameTime]
  exact System.clock_le_of_mem_history listed

theorem queue_settings (run : Run) : run.queue.settings = run.settings := by
  rw [queue_eq, Queue.after_settings]
  rfl

theorem recorded (run : Run) :
    Recorded run.settings.renewPolicy run.chronicle run.queue.store := by
  have unused : Recorded run.fresh.settings.renewPolicy [] run.fresh.store := .empty
  rw [queue_eq]
  exact unused.after run.history

theorem counters_eq (run : Run) : run.queue.counters = run.chronicle.tally {} := by
  rw [queue_eq, Queue.after_counters]
  rfl

end Run

end LeaseQueue
