import LeaseQueue.Proofs.Scene
import Mathlib.Data.List.Induction

/-!
Systems with a task left out. When no turn of the task changes anything but the task itself, everything
else goes on as it would without it.
-/

namespace LeaseQueue

namespace System

/-- The number of a task when another one is left out and those that came later move up. -/
def closeUp (absent id : Nat) : Nat := if absent < id then id - 1 else id

def Event.without (absent : Nat) (event : Event) : Option Event :=
  match event with
  | .turn id => if id = absent then none else some (.turn (closeUp absent id))
  | .drop id => if id = absent then none else some (.drop (closeUp absent id))
  | .call _ _ | .receive _ _ | .listen _ _ _ | .pass _ => some event

def movedUp (absent : Nat) (task : Task) : Task := { task with id := closeUp absent task.id }

def without (system : System) (absent : Nat) : System :=
  { system with
    tasks := (system.tasks.filter fun task => task.id != absent).map (movedUp absent)
    spawned := system.spawned - 1 }

theorem closeUp_inj {absent first second : Nat} (one : first ≠ absent) (two : second ≠ absent) :
    closeUp absent first = closeUp absent second ↔ first = second := by
  unfold closeUp
  split <;> split <;> omega

theorem closeUp_beq {absent first second : Nat} (one : first ≠ absent) (two : second ≠ absent) :
    (closeUp absent first == closeUp absent second) = (first == second) := by
  rw [Bool.eq_iff_iff, beq_iff_eq, beq_iff_eq, closeUp_inj one two]

theorem task?_without (system : System) {absent id : Nat} (other : id ≠ absent) :
    (system.without absent).task? (closeUp absent id) = (system.task? id).map (movedUp absent) := by
  simp only [task?, without, List.find?_map, List.find?_filter]
  congr 2
  funext task
  by_cases own : task.id = absent
  · simp [own, Ne.symm other]
  · simp only [Function.comp_apply, bne_iff_ne, ne_eq, own, not_false_eq_true, movedUp,
      closeUp_beq own other, beq_iff_eq, true_and]
    rfl

theorem filter_setTask (system : System) (task : Task) (absent : Nat) :
    (system.setTask task).tasks.filter (fun other => other.id != absent) =
      (system.tasks.filter fun other => other.id != absent).map
        fun other => if other.id = task.id then task else other := by
  have kept : ((fun other : Task => other.id != absent) ∘
      fun other => if other.id = task.id then task else other) = fun other => other.id != absent := by
    funext other
    simp only [Function.comp_apply]
    split
    · rename_i same
      rw [same]
    · rfl
  rw [setTask, List.filter_map, kept]

theorem setTask_without (system : System) {absent : Nat} {task : Task} (other : task.id ≠ absent) :
    (system.setTask task).without absent = (system.without absent).setTask (movedUp absent task) := by
  simp only [without, filter_setTask, List.map_map]
  simp only [setTask, List.map_map, System.mk.injEq, and_true, true_and]
  apply List.map_congr_left
  intro listed member
  have own : listed.id ≠ absent := by simpa using (List.mem_filter.mp member).2
  simp only [Function.comp_apply, movedUp, closeUp_inj own other]
  split <;> rfl

theorem setTask_without_own (system : System) {absent : Nat} {task : Task} (own : task.id = absent) :
    (system.setTask task).without absent = system.without absent := by
  have same : (system.tasks.filter fun other => other.id != absent).map
      (fun other => if other.id = task.id then task else other) =
        system.tasks.filter fun other => other.id != absent := by
    refine (List.map_congr_left ?_).trans (List.map_id _)
    intro listed member
    have other : listed.id ≠ absent := by simpa using (List.mem_filter.mp member).2
    simp [own, other]
  simp only [without, filter_setTask, same]
  rfl

theorem setQueue_self (system : System) {index : Nat} {queue : Queue}
    (held : system.queue? index = some queue) : system.setQueue index queue = system := by
  have same : system.queues.set index queue = system.queues := by
    obtain ⟨bound, rfl⟩ := List.getElem?_eq_some_iff.mp held
    exact List.set_getElem_self bound
  rw [setQueue, same]

section Turns

variable {system : System} {id index absent : Nat} {queue : Queue} {call : Reception} {listener : Listener}

theorem stepTask_receive (held : system.queue? index = some queue) :
    system.stepTask ⟨id, index, .receive call⟩ =
      (system.setTask ⟨id, index, .receive (call.step queue system.clock).1⟩).setQueue index
        (call.step queue system.clock).2 := by
  simp only [stepTask, held]

theorem stepTask_listen (held : system.queue? index = some queue) :
    system.stepTask ⟨id, index, .listen listener⟩ =
      let outcome := listener.step queue system.clock system.freshId
      let next := (system.setTask ⟨id, index, .listen outcome.listener⟩).setQueue index outcome.queue
      { next with
        journal := system.journal ++ outcome.notices.map fun notice => ⟨system.clock, notice⟩
        minted := if outcome.minted then system.minted + 1 else system.minted } := by
  simp only [stepTask, held]

theorem stepTask_without (system : System) {task : Task} (other : task.id ≠ absent) :
    (system.stepTask task).without absent = (system.without absent).stepTask (movedUp absent task) := by
  obtain ⟨id, index, job⟩ := task
  have same : (system.without absent).queue? index = system.queue? index := rfl
  cases held : system.queue? index with
  | none =>
      have idle : system.stepTask ⟨id, index, job⟩ = system := by simp [stepTask, held]
      have still : (system.without absent).stepTask (movedUp absent ⟨id, index, job⟩) =
          system.without absent := by simp [stepTask, movedUp, same, held]
      rw [idle, still]
  | some queue =>
      have moved (job : Job) : (system.setTask ⟨id, index, job⟩).without absent =
          (system.without absent).setTask (movedUp absent ⟨id, index, job⟩) :=
        system.setTask_without other
      cases job with
      | receive call =>
          rw [stepTask_receive held, movedUp, stepTask_receive (same.trans held)]
          exact congrArg (fun next : System => next.setQueue index (call.step queue system.clock).2)
            (moved _)
      | listen listener =>
          rw [stepTask_listen held, movedUp, stepTask_listen (same.trans held)]
          let outcome := listener.step queue system.clock system.freshId
          exact congrArg (fun next : System =>
            { next.setQueue index outcome.queue with
              journal := system.journal ++ outcome.notices.map fun notice => (⟨system.clock, notice⟩ : LeaseQueue.Event)
              minted := if outcome.minted then system.minted + 1 else system.minted }) (moved _)

theorem receive_without_own (held : system.queue? index = some queue)
    (idle : (call.step queue system.clock).2 = queue) :
    (system.stepTask ⟨id, index, .receive call⟩).without id = system.without id := by
  rw [stepTask_receive held, idle, setQueue_self (system.setTask _) held]
  exact system.setTask_without_own rfl

theorem listen_without_own {next : Listener} (held : system.queue? index = some queue)
    (idle : listener.step queue system.clock system.freshId = { listener := next, queue }) :
    (system.stepTask ⟨id, index, .listen listener⟩).without id = system.without id := by
  rw [stepTask_listen held, idle]
  simp only [List.map_nil, List.append_nil, Bool.false_eq_true, if_false]
  rw [setQueue_self (system.setTask _) held]
  exact system.setTask_without_own rfl

end Turns

theorem spawn_without (system : System) {absent : Nat} (made : absent < system.spawned) (queue : Nat)
    (job : Job) :
    (system.spawn queue job).2.without absent = ((system.without absent).spawn queue job).2 := by
  have moved : closeUp absent system.spawned = system.spawned - 1 := by simp [closeUp, made]
  have other : (system.spawned != absent) = true := by simp [Nat.ne_of_gt made]
  have next : system.spawned + 1 - 1 = system.spawned - 1 + 1 := by omega
  simp only [without, spawn, List.filter_append, List.filter_cons, other, if_true, List.filter_nil,
    List.map_append, List.map_cons, List.map_nil, movedUp, moved, next]

theorem drop_without (system : System) {absent id : Nat} (other : id ≠ absent) :
    (system.drop id).without absent = (system.without absent).drop (closeUp absent id) := by
  simp only [without, drop, List.filter_map, List.filter_filter, System.mk.injEq, and_true, true_and]
  congr 1
  apply List.filter_congr
  intro task _
  by_cases own : task.id = absent
  · simp [own]
  · simp [bne, movedUp, closeUp_beq own other, Bool.and_comm]

theorem drop_without_own (system : System) (absent : Nat) :
    (system.drop absent).without absent = system.without absent := by
  simp [without, drop, List.filter_filter]

theorem spawn_without_own {system : System} (numbered : system.Numbered) (queue : Nat) (job : Job) :
    (system.spawn queue job).2.without system.spawned = system := by
  have others : system.tasks.filter (fun task => task.id != system.spawned) = system.tasks := by
    refine List.filter_eq_self.mpr fun task member => ?_
    simpa using Nat.ne_of_lt (numbered task member)
  have unmoved : system.tasks.map (movedUp system.spawned) = system.tasks := by
    refine (List.map_congr_left fun task member => ?_).trans (List.map_id _)
    have earlier : ¬ system.spawned < task.id := Nat.lt_asymm (numbered task member)
    simp [movedUp, closeUp, earlier]
  simp [without, spawn, List.filter_append, others, unmoved]

theorem after_turn_of_absent {system : System} {id : Nat} (absent : system.task? id = none) :
    system.after (.turn id) = system := by
  simp only [after, absent]

theorem after_without (system : System) {absent : Nat} (made : absent < system.spawned) {event : Event}
    (other : event ≠ .turn absent) :
    (system.after event).without absent =
      (system.without absent).run (event.without absent).toList := by
  cases event with
  | call | pass => rfl
  | receive queue timeout => exact system.spawn_without made queue _
  | listen queue correlationId plan =>
      exact (system.modifyQueue queue Queue.resume).spawn_without made queue _
  | drop id =>
      by_cases own : id = absent
      · subst own
        simp only [Event.without, if_true, Option.toList_none]
        exact system.drop_without_own id
      · simp only [Event.without, own, if_false, Option.toList_some]
        exact system.drop_without own
  | turn id =>
      have own : id ≠ absent := fun same => other (congrArg Event.turn same)
      simp only [Event.without, own, if_false, Option.toList_some, run, List.foldl_cons, List.foldl_nil,
        after, task?_without system own]
      cases found : system.task? id with
      | none => rfl
      | some task =>
          have named : task.id = id := by simpa using List.find?_some found
          exact system.stepTask_without (named.symm ▸ own)

theorem run_without (system : System) {absent : Nat} (made : absent < system.spawned)
    {events : List Event}
    (idle : ∀ early, early ++ [.turn absent] <+: events →
      ((system.run early).after (.turn absent)).without absent = (system.run early).without absent) :
    (system.run events).without absent =
      (system.without absent).run (events.filterMap (Event.without absent)) := by
  induction events using List.reverseRecOn with
  | nil => rfl
  | append_singleton early event ih =>
      have before := ih fun sofar within => idle sofar (within.trans (List.prefix_append _ _))
      have still := Nat.lt_of_lt_of_le made (system.spawned_run early)
      rw [run_append, List.filterMap_append, run_append, ← before]
      by_cases own : event = .turn absent
      · subst own
        simpa [Event.without, run] using idle early (List.prefix_refl _)
      · have moved := (system.run early).after_without still own
        cases without : event.without absent with
        | none => simpa [without, run] using moved
        | some kept => simpa [without, run] using moved

end System

end LeaseQueue
