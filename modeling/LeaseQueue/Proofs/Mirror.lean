import LeaseQueue.Proofs.Scene
import LeaseQueue.Proofs.Shift
import Mathlib.Data.List.Forall2

/-!
Two systems in which all is the same, but that a queue of one is ahead of the other's by its tokens and
counters. Whatever happens to both, they stay so.
-/

namespace LeaseQueue

theorem Reception.step_of_finished {call : Reception} (finished : call.isFinished = true)
    (queue : Queue) (now : Instant) : call.step queue now = (call, queue) := by
  cases stage : call.stage with
  | finished result => simp [step, stage]
  | _ => simp [isFinished, stage] at finished

theorem Listener.step_of_finished {listener : Listener} (finished : listener.isFinished = true)
    (queue : Queue) (now : Instant) (freshId : MessageId) :
    listener.step queue now freshId = { listener, queue } := by
  cases stage : listener.stage with
  | finished fault =>
      have waiting : listener.isReady queue now = false := by simp [isReady, stage]
      rw [step, waiting]
      rfl
  | _ => simp [isFinished, stage] at finished

namespace Job

def mints (job : Job) (queue : Queue) (now : Instant) (freshId : MessageId) : Bool :=
  match job with
  | .receive _ => false
  | .listen listener => (listener.step queue now freshId).minted

variable (job : Job) (queue : Queue) (now : Instant) (freshId : MessageId) (shift : Shift)

def queueAfter : Queue := queue.performAll now (job.operations queue now freshId)

theorem after_shifted :
    (job.shifted shift).after (queue.shifted shift) now freshId =
      (job.after queue now freshId).shifted shift := by
  cases job with
  | receive call => simp only [shifted, after, call.step_shifted shift queue now]
  | listen listener =>
      simp only [shifted, after, listener.step_shifted shift queue now freshId]
      rfl

theorem queueAfter_shifted :
    (job.shifted shift).queueAfter (queue.shifted shift) now freshId =
      (job.queueAfter queue now freshId).shifted shift := by
  cases job with
  | receive call =>
      simp only [queueAfter, shifted, operations, ← Reception.step_queue,
        call.step_shifted shift queue now]
  | listen listener =>
      simp only [queueAfter, shifted, operations, ← Listener.step_queue,
        listener.step_shifted shift queue now freshId]
      rfl

theorem mints_shifted :
    (job.shifted shift).mints (queue.shifted shift) now freshId = job.mints queue now freshId := by
  cases job with
  | receive call => rfl
  | listen listener =>
      simp only [shifted, mints, listener.step_shifted shift queue now freshId]
      rfl

variable {job}

theorem idle_of_finished (finished : job.isFinished = true) :
    job.after queue now freshId = job ∧ job.queueAfter queue now freshId = queue ∧
      job.mints queue now freshId = false := by
  cases job with
  | receive call =>
      have idle := Reception.step_of_finished finished queue now
      refine ⟨by rw [after, idle], ?_, rfl⟩
      rw [queueAfter, operations, ← call.step_queue, idle]
  | listen listener =>
      have idle := Listener.step_of_finished finished queue now freshId
      refine ⟨by rw [after, idle], ?_, by rw [mints, idle]⟩
      rw [queueAfter, operations, ← listener.step_queue, idle]

end Job

/-- Two tasks of one id: one of a queue that is ahead of that of the other, or both the same, when they
have another queue or were there before. -/
inductive Task.Mirrors (shift : Shift) (index : Nat) (past : List Task) : Task → Task → Prop
  | shifted (id : Nat) (job : Job) : Mirrors shift index past ⟨id, index, job⟩ ⟨id, index, job.shifted shift⟩
  | same {task : Task} (apart : task.queue ≠ index ∨ task ∈ past) : Mirrors shift index past task task

/-- Two systems in which all is the same, but that a queue of one is ahead of the other's. -/
structure System.Mirrors (shift : Shift) (index : Nat) (past : List Task) (fresh later : System) :
    Prop where
  clock : later.clock = fresh.clock
  spawned : later.spawned = fresh.spawned
  idBase : later.idBase = fresh.idBase
  minted : later.minted = fresh.minted
  queue : later.queue? index = (fresh.queue? index).map fun queue => queue.shifted shift
  others : ∀ other, other ≠ index → later.queue? other = fresh.queue? other
  tasks : List.Forall₂ (Task.Mirrors shift index past) fresh.tasks later.tasks

def System.Event.shifted (event : System.Event) (shift : Shift) (index : Nat) : System.Event :=
  match event with
  | .call target operation =>
    .call target (if target = index then operation.shifted shift else operation)
  | .receive _ _ | .listen _ _ _ | .turn _ | .drop _ | .pass _ => event

namespace Task.Mirrors

variable {shift : Shift} {index : Nat} {past : List Task} {task other : Task}

theorem id_eq (mirrors : task.Mirrors shift index past other) : other.id = task.id := by
  cases mirrors <;> rfl

theorem of_begun (id queue : Nat) {job : Job} (unmarked : job.shifted shift = job) :
    (Task.mk id queue job).Mirrors shift index past ⟨id, queue, job⟩ := by
  by_cases own : queue = index
  · subst own
    have both : (Task.mk id queue job).Mirrors shift queue past ⟨id, queue, job.shifted shift⟩ :=
      .shifted id job
    rw [unmarked] at both
    exact both
  · exact .same (Or.inl own)

end Task.Mirrors

namespace System

theorem stepTask_minted {system : System} {task : Task} {queue : Queue}
    (held : system.queue? task.queue = some queue) :
    (system.stepTask task).minted =
      if task.job.mints queue system.clock system.freshId then system.minted + 1
      else system.minted := by
  cases job : task.job <;> simp only [stepTask, held, job] <;> rfl

theorem stepTask_idBase (system : System) (task : Task) :
    (system.stepTask task).idBase = system.idBase := by
  unfold stepTask
  split
  · rfl
  · cases task.job <;> rfl

theorem stepTask_queue?_of_held {system : System} {task : Task} {queue : Queue}
    (held : system.queue? task.queue = some queue) (index : Nat) :
    (system.stepTask task).queue? index =
      if task.queue = index then some (task.job.queueAfter queue system.clock system.freshId)
      else system.queue? index := by
  have bound : task.queue < system.queues.length := (List.getElem?_eq_some_iff.mp held).1
  rw [System.queue?, stepTask_queues held, List.getElem?_set, if_pos bound]
  rfl

theorem stepTask_of_absent {system : System} {task : Task}
    (absent : system.queue? task.queue = none) : system.stepTask task = system := by
  simp [stepTask, absent]

def notices (system : System) (index id : Nat) : List Listener.Notice :=
  (system.turn? index id (.turn id)).toList.flatMap fun turn => turn.outcome.notices

namespace Mirrors

variable {shift : Shift} {index : Nat} {past : List Task} {fresh later : System}

theorem freshId (mirrors : Mirrors shift index past fresh later) : later.freshId = fresh.freshId := by
  rw [System.freshId, mirrors.idBase, mirrors.minted]
  rfl

theorem task? (mirrors : Mirrors shift index past fresh later) (id : Nat) :
    fresh.task? id = none ∧ later.task? id = none ∨
      ∃ task other, fresh.task? id = some task ∧ later.task? id = some other ∧
        task.Mirrors shift index past other := by
  have pairs := mirrors.tasks
  unfold System.task?
  generalize fresh.tasks = first at pairs
  generalize later.tasks = second at pairs
  induction pairs with
  | nil => exact Or.inl ⟨rfl, rfl⟩
  | @cons task other rest others pair _ ih =>
      rw [List.find?_cons, List.find?_cons, pair.id_eq]
      cases task.id == id with
      | true => exact Or.inr ⟨task, other, rfl, rfl, pair⟩
      | false => exact ih

theorem setTask (tasks : List.Forall₂ (Task.Mirrors shift index past) fresh.tasks later.tasks)
    {task other : Task} (pair : task.Mirrors shift index past other) :
    List.Forall₂ (Task.Mirrors shift index past) (fresh.setTask task).tasks
      (later.setTask other).tasks := by
  simp only [System.setTask, List.forall₂_map_left_iff, List.forall₂_map_right_iff]
  refine tasks.imp ?_
  intro first second known
  rw [known.id_eq, pair.id_eq]
  split
  · exact pair
  · exact known

theorem of_turns (mirrors : Mirrors shift index past fresh later) {task other : Task}
    {copy : Queue → Queue} (home : other.queue = task.queue)
    (copied : later.queue? task.queue = (fresh.queue? task.queue).map copy)
    (pair : ∀ queue, Task.Mirrors shift index past
      { task with job := task.job.after queue fresh.clock fresh.freshId }
      { other with job := other.job.after (copy queue) fresh.clock fresh.freshId })
    (mints : ∀ queue, other.job.mints (copy queue) fresh.clock fresh.freshId =
      task.job.mints queue fresh.clock fresh.freshId)
    (queues : ∀ queue, other.job.queueAfter (copy queue) fresh.clock fresh.freshId =
      if task.queue = index then
        (task.job.queueAfter queue fresh.clock fresh.freshId).shifted shift
      else task.job.queueAfter queue fresh.clock fresh.freshId) :
    Mirrors shift index past (fresh.stepTask task) (later.stepTask other) := by
  cases held : fresh.queue? task.queue with
  | none =>
      rw [held, ← home] at copied
      rw [stepTask_of_absent held, stepTask_of_absent copied]
      exact mirrors
  | some queue =>
      rw [held, ← home] at copied
      refine ⟨?_, ?_, ?_, ?_, ?_, ?_, ?_⟩
      · rw [stepTask_clock, stepTask_clock, mirrors.clock]
      · rw [stepTask_spawned, stepTask_spawned, mirrors.spawned]
      · rw [stepTask_idBase, stepTask_idBase, mirrors.idBase]
      · rw [stepTask_minted held, stepTask_minted copied, mirrors.clock, mirrors.freshId, mints,
          mirrors.minted]
      · rw [stepTask_queue?_of_held held, stepTask_queue?_of_held copied, home, mirrors.clock,
          mirrors.freshId, queues]
        split
        · rfl
        · exact mirrors.queue
      · intro number different
        rw [stepTask_queue?_of_held held, stepTask_queue?_of_held copied, home, mirrors.clock,
          mirrors.freshId, queues]
        split
        · rename_i same
          rw [if_neg (same ▸ different)]
        · exact mirrors.others number different
      · rw [tasks_stepTask held, tasks_stepTask copied, mirrors.clock, mirrors.freshId]
        exact setTask mirrors.tasks (pair queue)

theorem stepTask (mirrors : Mirrors shift index past fresh later)
    (settled : ∀ task ∈ past, task.queue = index → task.job.isFinished = true) {task other : Task}
    (pair : task.Mirrors shift index past other) :
    Mirrors shift index past (fresh.stepTask task) (later.stepTask other) := by
  cases pair with
  | shifted id job =>
      refine mirrors.of_turns rfl mirrors.queue ?_ ?_ ?_
      · intro queue
        simp only [job.after_shifted]
        exact .shifted id _
      · intro queue
        exact job.mints_shifted queue _ _ shift
      · intro queue
        rw [if_pos rfl]
        exact job.queueAfter_shifted queue _ _ shift
  | same apart =>
      by_cases own : task.queue = index
      · have finished := settled task (apart.resolve_left (not_not_intro own)) own
        have idle (queue : Queue) := Job.idle_of_finished queue fresh.clock fresh.freshId finished
        refine mirrors.of_turns rfl (own ▸ mirrors.queue) ?_ ?_ ?_
        · intro queue
          rw [(idle queue).1, (idle _).1]
          exact .same apart
        · intro queue
          rw [(idle queue).2.2, (idle _).2.2]
        · intro queue
          rw [if_pos own, (idle queue).2.1, (idle _).2.1]
      · have same : later.queue? task.queue = (fresh.queue? task.queue).map id := by
          rw [Option.map_id, mirrors.others task.queue own]
          rfl
        refine mirrors.of_turns rfl same (fun _ => .same (Or.inl own)) (fun _ => rfl) ?_
        intro queue
        rw [if_neg own]
        rfl

theorem modifyQueue (mirrors : Mirrors shift index past fresh later) (target : Nat)
    {change changeLater : Queue → Queue}
    (own : target = index → ∀ queue, changeLater (queue.shifted shift) = (change queue).shifted shift)
    (elsewhere : target ≠ index → changeLater = change) :
    Mirrors shift index past (fresh.modifyQueue target change) (later.modifyQueue target changeLater) := by
  refine ⟨mirrors.clock, mirrors.spawned, mirrors.idBase, mirrors.minted, ?_, ?_, mirrors.tasks⟩
  · rw [modifyQueue_queue?, modifyQueue_queue?, mirrors.queue]
    split
    · rename_i same
      simp [own same, Function.comp_def]
    · rfl
  · intro other different
    rw [modifyQueue_queue?, modifyQueue_queue?, mirrors.others other different]
    split
    · rename_i same
      rw [elsewhere (same ▸ different)]
    · rfl

theorem spawn (mirrors : Mirrors shift index past fresh later) (queue : Nat) {job : Job}
    (unmarked : job.shifted shift = job) :
    Mirrors shift index past (fresh.spawn queue job).2 (later.spawn queue job).2 := by
  refine ⟨mirrors.clock, congrArg (· + 1) mirrors.spawned, mirrors.idBase, mirrors.minted,
    mirrors.queue, mirrors.others, ?_⟩
  refine List.rel_append mirrors.tasks (.cons ?_ .nil)
  rw [mirrors.spawned]
  exact Task.Mirrors.of_begun _ _ unmarked

theorem after (mirrors : Mirrors shift index past fresh later)
    (settled : ∀ task ∈ past, task.queue = index → task.job.isFinished = true) (event : Event) :
    Mirrors shift index past (fresh.after event) (later.after (event.shifted shift index)) := by
  cases event with
  | call target operation =>
      simp only [Event.shifted, System.after]
      refine mirrors.modifyQueue target ?_ ?_
      · intro own queue
        rw [if_pos own, mirrors.clock]
        exact operation.perform_shifted shift queue fresh.clock
      · intro other
        rw [if_neg other, mirrors.clock]
  | receive target timeout => exact mirrors.spawn target rfl
  | listen target correlationId plan =>
      have resumed : Mirrors shift index past (fresh.modifyQueue target Queue.resume)
          (later.modifyQueue target Queue.resume) :=
        mirrors.modifyQueue target (fun _ _ => rfl) fun _ => rfl
      exact resumed.spawn target rfl
  | turn id =>
      simp only [Event.shifted, System.after]
      rcases mirrors.task? id with ⟨absent, absentLater⟩ | ⟨task, other, found, foundLater, pair⟩
      · rw [absent, absentLater]
        exact mirrors
      · rw [found, foundLater]
        exact mirrors.stepTask settled pair
  | drop id =>
      refine ⟨mirrors.clock, mirrors.spawned, mirrors.idBase, mirrors.minted, mirrors.queue,
        mirrors.others, ?_⟩
      refine List.rel_filter ?_ mirrors.tasks
      intro task other pair
      change (task.id != id) = true ↔ (other.id != id) = true
      rw [pair.id_eq]
  | pass span =>
      exact ⟨congrArg (· + span) mirrors.clock, mirrors.spawned, mirrors.idBase, mirrors.minted,
        mirrors.queue, mirrors.others, mirrors.tasks⟩

theorem listenerOn? (mirrors : Mirrors shift index past fresh later)
    (settled : ∀ task ∈ past, task.queue = index → task.job.isFinished = true) (id : Nat) :
    later.listenerOn? index id =
        (fresh.listenerOn? index id).map (fun listener => listener.shifted shift) ∨
      ∃ listener, fresh.listenerOn? index id = some listener ∧
        later.listenerOn? index id = some listener ∧ listener.isFinished = true := by
  rcases mirrors.task? id with ⟨absent, absentLater⟩ | ⟨task, other, found, foundLater, pair⟩
  · exact Or.inl (by simp [System.listenerOn?, absent, absentLater])
  · cases pair with
    | shifted id job =>
        cases job <;> exact Or.inl (by simp [System.listenerOn?, found, foundLater, Job.shifted])
    | same apart =>
        obtain ⟨named, queue, job⟩ := task
        by_cases own : queue = index
        · have finished := settled _ (apart.resolve_left (not_not_intro own)) own
          cases job with
          | receive call => exact Or.inl (by simp [System.listenerOn?, found, foundLater])
          | listen listener =>
              exact Or.inr ⟨listener, by simp [System.listenerOn?, found, own],
                by simp [System.listenerOn?, foundLater, own], finished⟩
        · cases job <;> exact Or.inl (by simp [System.listenerOn?, found, foundLater, own])

theorem notices (mirrors : Mirrors shift index past fresh later)
    (settled : ∀ task ∈ past, task.queue = index → task.job.isFinished = true) (id : Nat)
    {queue : Queue} (held : fresh.queue? index = some queue) :
    later.notices index id = (fresh.notices index id).map fun notice => notice.shifted shift := by
  have ahead := mirrors.queue
  rw [held] at ahead
  simp only [System.notices, turn?, scene?, System.queue, held, ahead, if_true, Option.map_map,
    Option.map_some, Option.getD_some, mirrors.clock, mirrors.freshId]
  rcases mirrors.listenerOn? settled id with same | ⟨listener, found, foundLater, finished⟩
  · rw [same]
    cases fresh.listenerOn? index id with
    | none => rfl
    | some listener =>
        simp [Listener.Turn.outcome, listener.step_shifted shift queue fresh.clock fresh.freshId,
          Listener.Outcome.shifted]
  · simp [found, foundLater, Listener.Turn.outcome, Listener.step_of_finished finished]

end Mirrors

end System

end LeaseQueue
