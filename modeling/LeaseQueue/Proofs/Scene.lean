import LeaseQueue.Proofs.Move
import LeaseQueue.Proofs.Tokens

/-!
What happens to one listener in a system. What it does itself are its turns; in between other tasks and
clients act on its queue, and time passes. Nothing but its own turns changes it, until it is dropped.
-/

namespace LeaseQueue

namespace Listener

def Notice.message? : Notice → Option Message
  | .given message => some message
  | .ended _ _ => none

/-- A listener with all that it can see: its queue and the time. -/
structure Scene where
  listener : Listener
  queue : Queue
  now : Instant

structure Turn extends Scene where
  freshId : MessageId

namespace Turn

def outcome (turn : Turn) : Outcome := turn.listener.step turn.queue turn.now turn.freshId

def next (turn : Turn) : Scene := ⟨turn.outcome.listener, turn.outcome.queue, turn.now⟩

theorem move (turn : Turn) :
    Move turn.listener turn.queue turn.now turn.freshId turn.outcome.listener turn.outcome.queue
      turn.outcome.notices :=
  turn.listener.step_move turn.queue turn.now turn.freshId

def chronicle (turn : Turn) : Chronicle :=
  turn.queue.chronicle
    ((turn.listener.operations turn.queue turn.now turn.freshId).map
      fun operation => (turn.now, operation))

def received (turn : Turn) : List Message := Chronicle.delivered turn.chronicle

def given (turn : Turn) : List Message := turn.outcome.notices.filterMap Notice.message?

end Turn

inductive Passage : Scene → System.Event → List Turn → Scene → Prop
  | turn (turn : Turn) (event : System.Event) : Passage turn.toScene event [turn] turn.next
  | others (scene : Scene) (event : System.Event) (queue : Queue) :
      Passage scene event [] { scene with queue }
  | time (scene : Scene) (span : Duration) :
      Passage scene (.pass span) [] { scene with now := scene.now + span }

def Scene.waits (scene : Scene) (span : Duration) : Bool :=
  !scene.listener.isReady scene.queue scene.now &&
    scene.listener.wakeAt?.all fun wakeAt => scene.now + span ≤ wakeAt

end Listener

def Job.after (job : Job) (queue : Queue) (now : Instant) (freshId : MessageId) : Job :=
  match job with
  | .receive call => .receive (call.step queue now).1
  | .listen listener => .listen (listener.step queue now freshId).listener

namespace System

def Numbered (system : System) : Prop := ∀ task ∈ system.tasks, task.id < system.spawned

def listenerOn? (system : System) (index id : Nat) : Option Listener :=
  match system.task? id with
  | some ⟨_, queue, .listen listener⟩ => if queue = index then some listener else none
  | _ => none

def scene? (system : System) (index id : Nat) : Option Listener.Scene :=
  (system.listenerOn? index id).map fun listener => ⟨listener, system.queue index, system.clock⟩

def turn? (system : System) (index id : Nat) (event : Event) : Option Listener.Turn :=
  if event = .turn id then (system.scene? index id).map fun scene => ⟨scene, system.freshId⟩
  else none

def turns (index id : Nat) : System → List Event → List Listener.Turn
  | _, [] => []
  | system, event :: rest =>
    (system.turn? index id event).toList ++ turns index id (system.after event) rest

def spares (system : System) (index id : Nat) (event : Event) : Bool :=
  match event with
  | .pass span => (system.scene? index id).all fun scene => scene.waits span
  | _ => true

/-- Whether a listener gets its turns in time: none passes while it can go on, and none passes beyond
the point at which it wakes. -/
def attends (index id : Nat) : System → List Event → Bool
  | _, [] => true
  | system, event :: rest => system.spares index id event && attends index id (system.after event) rest

theorem turns_append (system : System) (index id : Nat) (first second : List Event) :
    system.turns index id (first ++ second) =
      system.turns index id first ++ (system.run first).turns index id second := by
  induction first generalizing system with
  | nil => rfl
  | cons event rest ih =>
      rw [List.cons_append, turns, turns, ih, List.append_assoc]
      rfl

theorem attends_append (system : System) (index id : Nat) (first second : List Event) :
    system.attends index id (first ++ second) =
      (system.attends index id first && (system.run first).attends index id second) := by
  induction first generalizing system with
  | nil => simp [attends, run]
  | cons event rest ih =>
      rw [List.cons_append, attends, attends, ih, Bool.and_assoc]
      rfl

theorem task?_setTask (system : System) (task : Task) (id : Nat) :
    (system.setTask task).task? id =
      if id = task.id then (system.task? id).map fun _ => task else system.task? id := by
  have sameIds : ((fun other : Task => other.id == id) ∘
      fun other => if other.id = task.id then task else other) = fun other => other.id == id := by
    funext other
    simp only [Function.comp_apply]
    split
    · rename_i same
      rw [same]
    · rfl
  simp only [task?, setTask, List.find?_map, sameIds]
  cases found : system.tasks.find? fun other => other.id == id with
  | none => simp
  | some other =>
      have named : other.id = id := by simpa using List.find?_some found
      simp only [Option.map_some, named]
      split <;> rfl

theorem tasks_stepTask {system : System} {task : Task} {queue : Queue}
    (held : system.queue? task.queue = some queue) :
    (system.stepTask task).tasks = (system.setTask
      { task with job := task.job.after queue system.clock system.freshId }).tasks := by
  cases job : task.job <;> simp only [stepTask, held, job] <;> rfl

theorem mem_stepTask {system : System} {stepped task : Task}
    (member : task ∈ (system.stepTask stepped).tasks) :
    task ∈ system.tasks ∨ ∃ queue, system.queue? stepped.queue = some queue ∧
      task = { stepped with job := stepped.job.after queue system.clock system.freshId } := by
  cases held : system.queue? stepped.queue with
  | none =>
      have idle : system.stepTask stepped = system := by simp [stepTask, held]
      exact Or.inl (idle ▸ member)
  | some queue =>
      rw [tasks_stepTask held] at member
      obtain ⟨before, listed, rfl⟩ := List.mem_map.mp member
      by_cases same : before.id = stepped.id
      · exact Or.inr ⟨queue, rfl, by rw [if_pos same]⟩
      · rw [if_neg same]
        exact Or.inl listed

theorem mem_after {system : System} {event : Event} {task : Task}
    (member : task ∈ (system.after event).tasks) :
    task ∈ system.tasks ∨ (∃ timeout, task.job = .receive (.later timeout)) ∨
      (∃ correlationId plan, task.job = .listen { correlationId, plan }) ∨
      ∃ before ∈ system.tasks, task.queue = before.queue ∧ ∃ queue,
        system.queue? before.queue = some queue ∧
        task.job = before.job.after queue system.clock system.freshId := by
  cases event with
  | call | pass => exact Or.inl member
  | drop id => exact Or.inl (List.mem_filter.mp member).1
  | receive target timeout =>
      rcases List.mem_append.mp member with old | new
      · exact Or.inl old
      · exact Or.inr (Or.inl ⟨timeout, by rw [List.mem_singleton.mp new]⟩)
  | listen target correlationId plan =>
      rcases List.mem_append.mp member with old | new
      · exact Or.inl old
      · exact Or.inr (Or.inr (Or.inl ⟨correlationId, plan, by rw [List.mem_singleton.mp new]⟩))
  | turn id =>
      simp only [after] at member
      split at member
      · rename_i stepped found
        rcases mem_stepTask member with old | ⟨queue, held, rfl⟩
        · exact Or.inl old
        · exact Or.inr (Or.inr (Or.inr
            ⟨stepped, List.mem_of_find?_eq_some found, rfl, queue, held, rfl⟩))
      · exact Or.inl member

theorem task?_stepTask {system : System} {task : Task} {queue : Queue}
    (held : system.queue? task.queue = some queue) (id : Nat) :
    (system.stepTask task).task? id =
      if id = task.id then
        (system.task? id).map fun _ =>
          { task with job := task.job.after queue system.clock system.freshId }
      else system.task? id := by
  rw [task?, tasks_stepTask held]
  exact task?_setTask system _ id

theorem task?_spawn (system : System) (queue : Nat) (job : Job) {id : Nat}
    (made : id < system.spawned) : (system.spawn queue job).2.task? id = system.task? id := by
  have other : ¬ system.spawned = id := by omega
  simp [spawn, task?, List.find?_append, other]

theorem task?_drop (system : System) (other id : Nat) :
    (system.drop other).task? id = if id = other then none else system.task? id := by
  simp only [drop, task?, List.find?_filter]
  by_cases same : id = other
  · rw [if_pos same, List.find?_eq_none]
    intro task _
    simp [same]
  · rw [if_neg same]
    congr 1
    funext task
    by_cases named : task.id = id <;> simp [named, same]

def stepped (system : System) (task : Task) : Task :=
  match system.queue? task.queue with
  | some queue => { task with job := task.job.after queue system.clock system.freshId }
  | none => task

theorem task?_turn (system : System) (other id : Nat) :
    (system.after (.turn other)).task? id =
      if other = id then (system.task? id).map system.stepped else system.task? id := by
  cases known : system.task? other with
  | none =>
      have idle : system.after (.turn other) = system := by simp [after, known]
      rw [idle]
      split
      · rename_i same
        subst same
        simp [known]
      · rfl
  | some task =>
      have named : task.id = other := by simpa using List.find?_some known
      have turned : system.after (.turn other) = system.stepTask task := by simp [after, known]
      rw [turned]
      cases owner : system.queue? task.queue with
      | none =>
          -- The task is on a queue that does not exist, and its turn does nothing.
          have idle : system.stepTask task = system := by simp [stepTask, owner]
          rw [idle]
          split
          · rename_i same
            subst same
            simp [known, stepped, owner]
          · rfl
      | some queue =>
          have next : (system.stepTask task).task? id = _ := task?_stepTask owner id
          by_cases same : other = id
          · subst same
            simpa [named, known, stepped, owner] using next
          · simpa [named, same, Ne.symm same] using next

theorem task?_after (system : System) (event : Event) {id : Nat} (made : id < system.spawned) :
    (system.after event).task? id =
      if event = .drop id then none
      else if event = .turn id then (system.task? id).map system.stepped
      else system.task? id := by
  cases event with
  | turn other =>
      rw [task?_turn]
      simp
  | drop other =>
      have left : (system.after (.drop other)).task? id = _ := task?_drop system other id
      rw [left]
      simp [eq_comm]
  | receive target timeout =>
      simp only [reduceCtorEq, if_false]
      exact task?_spawn system target _ made
  | listen target correlationId plan =>
      simp only [reduceCtorEq, if_false]
      exact task?_spawn (system.modifyQueue target Queue.resume) target _ made
  | call | pass =>
      simp only [reduceCtorEq, if_false]
      rfl

theorem listenerOn?_of_task? {system next : System} {index id : Nat}
    (same : next.task? id = system.task? id) :
    next.listenerOn? index id = system.listenerOn? index id := by
  rw [listenerOn?, listenerOn?, same]

theorem listenerOn?_of_stepped {system next : System} {index id : Nat} {queue : Queue}
    (held : system.queue? index = some queue)
    (stepped : next.task? id = (system.task? id).map system.stepped) :
    next.listenerOn? index id = (system.listenerOn? index id).map fun listener =>
      (listener.step queue system.clock system.freshId).listener := by
  rw [listenerOn?, listenerOn?, stepped]
  cases system.task? id with
  | none => rfl
  | some task =>
      obtain ⟨number, home, job⟩ := task
      simp only [Option.map_some, System.stepped]
      cases job with
      | receive call => cases system.queue? home <;> rfl
      | listen listener =>
          by_cases here : home = index
          · subst here
            simp [held, Job.after]
          · cases system.queue? home <;> simp [here, Job.after]

theorem listenerOn?_eq_some {system : System} {index id : Nat} {listener : Listener}
    (found : system.listenerOn? index id = some listener) :
    system.task? id = some ⟨id, index, .listen listener⟩ := by
  unfold listenerOn? at found
  split at found
  · rename_i named queue other held
    have sameId : named = id := by simpa using List.find?_some held
    split at found
    · rename_i sameQueue
      rw [held, sameId, sameQueue, Option.some.inj found]
    · simp at found
  · simp at found

theorem listenerOn?_after (system : System) (event : Event) {index id : Nat} {queue : Queue}
    (held : system.queue? index = some queue) (made : id < system.spawned) :
    (system.after event).listenerOn? index id =
      if event = .drop id then none
      else if event = .turn id then
        (system.listenerOn? index id).map fun listener =>
          (listener.step queue system.clock system.freshId).listener
      else system.listenerOn? index id := by
  have kept := system.task?_after event made
  by_cases dropped : event = .drop id
  · rw [if_pos dropped] at kept ⊢
    rw [listenerOn?, kept]
  · rw [if_neg dropped] at kept ⊢
    by_cases own : event = .turn id
    · rw [if_pos own] at kept ⊢
      exact listenerOn?_of_stepped held kept
    · rw [if_neg own] at kept ⊢
      exact listenerOn?_of_task? kept

theorem stepTask_clock (system : System) (task : Task) :
    (system.stepTask task).clock = system.clock := by
  unfold stepTask
  split
  · rfl
  · cases task.job <;> rfl

theorem stepTask_spawned (system : System) (task : Task) :
    (system.stepTask task).spawned = system.spawned := by
  unfold stepTask
  split
  · rfl
  · cases task.job <;> rfl

theorem clock_after {system : System} {event : Event} (timeless : ∀ span, event ≠ .pass span) :
    (system.after event).clock = system.clock := by
  cases event with
  | pass span => exact absurd rfl (timeless span)
  | turn id =>
      simp only [after]
      split
      · exact stepTask_clock system _
      · rfl
  | call | receive | listen | drop => rfl

theorem spawned_after (system : System) (event : Event) :
    system.spawned ≤ (system.after event).spawned := by
  cases event with
  | turn id =>
      simp only [after]
      split
      · exact Nat.le_of_eq (stepTask_spawned system _).symm
      · exact Nat.le_refl _
  | receive | listen => exact Nat.le_succ _
  | call | drop | pass => exact Nat.le_refl _

theorem scene?_eq_some {system : System} {index id : Nat} {scene : Listener.Scene} :
    system.scene? index id = some scene ↔
      system.listenerOn? index id = some scene.listener ∧
        system.queue index = scene.queue ∧ system.clock = scene.now := by
  obtain ⟨listener, queue, now⟩ := scene
  simp only [scene?, Option.map_eq_some_iff, Listener.Scene.mk.injEq]
  constructor
  · rintro ⟨found, listens, rfl, sameQueue, sameTime⟩
    exact ⟨listens, sameQueue, sameTime⟩
  · rintro ⟨listens, sameQueue, sameTime⟩
    exact ⟨listener, listens, rfl, sameQueue, sameTime⟩

theorem operations_turn {system : System} {index id : Nat} {scene : Listener.Scene}
    (found : system.scene? index id = some scene) :
    system.operations (.turn id) index =
      scene.listener.operations scene.queue scene.now system.freshId := by
  obtain ⟨listens, sameQueue, sameTime⟩ := scene?_eq_some.mp found
  simp [System.operations, listenerOn?_eq_some listens, Job.operations, sameQueue, sameTime]

theorem scene?_turn {system : System} {index id : Nat} {scene : Listener.Scene} {queue : Queue}
    (held : system.queue? index = some queue) (found : system.scene? index id = some scene) :
    (system.after (.turn id)).scene? index id = some (⟨scene, system.freshId⟩ : Listener.Turn).next := by
  obtain ⟨listens, sameQueue, sameTime⟩ := scene?_eq_some.mp found
  have own : system.queue index = queue := by simp [System.queue, held]
  have turned := system.task?_turn id id
  rw [if_pos rfl] at turned
  have moved : (system.after (.turn id)).listenerOn? index id = _ :=
    listenerOn?_of_stepped held turned
  rw [listens, Option.map_some, ← own, sameQueue, sameTime] at moved
  have changed := system.after_queue? (.turn id) index
  rw [operations_turn found, held, Option.map_some, ← own, sameQueue, sameTime] at changed
  refine scene?_eq_some.mpr ⟨moved, ?_, ?_⟩
  · rw [System.queue, changed]
    exact (Listener.step_queue scene.listener scene.queue scene.now system.freshId).symm
  · rw [clock_after (by simp)]
    exact sameTime

theorem passage {system : System} {event : Event} {index id : Nat} {queue : Queue}
    {next : Listener.Scene} (held : system.queue? index = some queue) (made : id < system.spawned)
    (found : (system.after event).scene? index id = some next) :
    ∃ scene, system.scene? index id = some scene ∧
      Listener.Passage scene event (system.turn? index id event).toList next := by
  obtain ⟨listener, nextQueue, nextTime⟩ := next
  obtain ⟨listens, sameQueue, sameTime⟩ := scene?_eq_some.mp found
  simp only at listens sameQueue sameTime
  have kept := system.listenerOn?_after event held made
  rw [listens] at kept
  by_cases own : event = .turn id
  · subst own
    rw [if_neg (by simp), if_pos rfl] at kept
    obtain ⟨before, listened, _⟩ := Option.map_eq_some_iff.mp kept.symm
    have present : system.scene? index id = some ⟨before, system.queue index, system.clock⟩ :=
      scene?_eq_some.mpr ⟨listened, rfl, rfl⟩
    have turned := scene?_turn held present
    rw [found] at turned
    refine ⟨_, present, ?_⟩
    rw [turn?, if_pos rfl, present, Option.some.inj turned]
    exact .turn ⟨_, system.freshId⟩ _
  · by_cases dropped : event = .drop id
    · rw [if_pos dropped] at kept
      simp at kept
    · rw [if_neg dropped, if_neg own] at kept
      refine ⟨⟨listener, system.queue index, system.clock⟩,
        scene?_eq_some.mpr ⟨kept.symm, rfl, rfl⟩, ?_⟩
      rw [turn?, if_neg own]
      by_cases passes : ∃ span, event = .pass span
      · obtain ⟨span, rfl⟩ := passes
        rw [← sameQueue, ← sameTime]
        exact .time _ span
      · rw [← sameTime, clock_after fun span same => passes ⟨span, same⟩]
        exact .others _ event nextQueue

theorem stepTask_ids (system : System) (task : Task) :
    (system.stepTask task).tasks.map Task.id = system.tasks.map Task.id := by
  have kept (changed : Task) (same : changed.id = task.id) :
      (system.setTask changed).tasks.map Task.id = system.tasks.map Task.id := by
    simp only [setTask, List.map_map]
    apply List.map_congr_left
    intro other _
    simp only [Function.comp_apply]
    split
    · rename_i named
      exact named.symm
    · rfl
  unfold stepTask
  split
  · rfl
  · cases task.job
    · exact kept _ rfl
    · exact kept _ rfl

theorem Numbered.empty : ({} : System).Numbered := by
  simp [Numbered]

theorem Numbered.spawn {system : System} (numbered : system.Numbered) (queue : Nat) (job : Job) :
    (system.spawn queue job).2.Numbered := by
  intro task member
  rcases List.mem_append.mp member with old | new
  · exact Nat.lt_succ_of_lt (numbered task old)
  · rw [List.mem_singleton.mp new]
    exact Nat.lt_succ_self _

theorem Numbered.after {system : System} (numbered : system.Numbered) (event : Event) :
    (system.after event).Numbered := by
  cases event with
  | turn id =>
      simp only [System.after]
      split
      · rename_i task _
        intro other member
        have listed := List.mem_map_of_mem (f := Task.id) member
        rw [stepTask_ids] at listed
        obtain ⟨old, held, same⟩ := List.mem_map.mp listed
        rw [stepTask_spawned, ← same]
        exact numbered old held
      · exact numbered
  | receive queue timeout => exact numbered.spawn queue _
  | listen queue correlationId plan =>
      have resumed : (system.modifyQueue queue Queue.resume).Numbered := numbered
      exact resumed.spawn queue _
  | drop id => exact fun task member => numbered task (List.mem_filter.mp member).1
  | call | pass => exact numbered

theorem Numbered.run {system : System} (numbered : system.Numbered) (events : List Event) :
    (system.run events).Numbered := by
  induction events generalizing system with
  | nil => exact numbered
  | cons event rest ih => exact ih (numbered.after event)

theorem spawned_run (system : System) (events : List Event) :
    system.spawned ≤ (system.run events).spawned := by
  induction events generalizing system with
  | nil => exact Nat.le_refl _
  | cons event rest ih => exact Nat.le_trans (system.spawned_after event) (ih _)

theorem clock_le_run (system : System) (events : List Event) :
    system.clock ≤ (system.run events).clock := by
  induction events generalizing system with
  | nil => exact Nat.le_refl _
  | cons event rest ih => exact Nat.le_trans (system.after_clock event) (ih _)

theorem task?_run (Holds : Task → Prop) {system : System} {id : Nat} (made : id < system.spawned)
    (begins : ∀ task, system.task? id = some task → Holds task)
    (keeps : ∀ (system : System) task, Holds task → Holds (system.stepped task)) (events : List Event) :
    ∀ task, (system.run events).task? id = some task → Holds task := by
  induction events generalizing system with
  | nil => exact begins
  | cons event rest ih =>
      refine ih (Nat.lt_of_lt_of_le made (system.spawned_after event)) ?_
      intro task found
      rw [task?_after system event made] at found
      split at found
      · contradiction
      · split at found
        · obtain ⟨before, held, rfl⟩ := Option.map_eq_some_iff.mp found
          exact keeps system before (begins before held)
        · exact begins task found

theorem task?_of_spawn {system : System} (numbered : system.Numbered) (queue : Nat) (job : Job) :
    (system.spawn queue job).2.task? system.spawned = some ⟨system.spawned, queue, job⟩ := by
  have absent : system.tasks.find? (fun task => task.id == system.spawned) = none := by
    rw [List.find?_eq_none]
    intro task member
    have below := numbered task member
    simp
    omega
  simp [spawn, task?, List.find?_append, absent]

end System

end LeaseQueue
