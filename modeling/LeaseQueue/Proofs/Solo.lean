import LeaseQueue.Proofs.Waiting

/-!
A system whose only task is a listener. It takes its turns one after another until it has to wait, and
then the clock goes on to where it wakes.
-/

namespace LeaseQueue

namespace Listener

/-- A turn that a listener can take, and where it leads, whatever id a message that it sends would get. -/
def Leads (now : Instant) (listener : Listener) (queue : Queue) (next : Listener) (left : Queue) : Prop :=
  listener.isReady queue now = true ∧
    ∀ freshId, (listener.step queue now freshId).listener = next ∧
      (listener.step queue now freshId).queue = left

inductive Strides (now : Instant) : (steps : Nat) → Listener → Queue → Listener → Queue → Prop
  | still (listener : Listener) (queue : Queue) : Strides now 0 listener queue listener queue
  | turn {steps : Nat} {listener next last : Listener} {queue left final : Queue}
      (leads : Leads now listener queue next left) (others : Strides now steps next left last final) :
      Strides now (steps + 1) listener queue last final

theorem isReady_of_sleeping {listener : Listener} {wakeAt now : Instant} (queue : Queue)
    (sleeping : listener.stage = .sleeping wakeAt) (later : now < wakeAt) :
    listener.isReady queue now = false := by
  rw [isReady, sleeping]
  exact decide_eq_false (Nat.not_le.mpr later)

/-- Where a listener stands that takes nothing from its queue. -/
inductive Stage.Calm (queue : Queue) : Stage → Prop
  | starting : Calm queue .starting
  | betweenIterations : Calm queue .betweenIterations
  | receiving (iteration : Instant) {call : Reception} (empty : queue.store.pending = [])
      (unfinished : call.isFinished = false) : Calm queue (.receiving iteration call)
  | dispatched (iteration : Instant) : Calm queue (.dispatched iteration)
  | sleeping (wakeAt : Instant) : Calm queue (.sleeping wakeAt)
  | finished (fault : Option Fault) : Calm queue (.finished fault)

theorem step_calm {listener : Listener} {queue : Queue} (now : Instant) (freshId : MessageId)
    (idle : queue.cancelled = true ∨ queue.store.pending = []) (calm : listener.stage.Calm queue) :
    (listener.step queue now freshId).queue = queue ∧
      (listener.step queue now freshId).listener.stage.Calm queue := by
  have move := listener.step_move queue now freshId
  generalize (listener.step queue now freshId).listener = next at move
  generalize (listener.step queue now freshId).queue = left at move
  generalize (listener.step queue now freshId).notices = notices at move
  cases move with
  | idles => exact ⟨rfl, calm⟩
  | refused | stops => exact ⟨rfl, .finished _⟩
  | opens | restarts | wakes => exact ⟨rfl, .betweenIterations⟩
  | begins between goesOn =>
      have empty := idle.resolve_left (by simp [goesOn])
      exact ⟨rfl, .receiving now empty rfl⟩
  | waits receiving advanced unfinished =>
      rw [receiving] at calm
      cases calm with
      | receiving _ empty => exact ⟨rfl, .receiving _ empty unfinished⟩
  | misses receiving => exact ⟨rfl, .dispatched _⟩
  | gives receiving registered taken | handsBack receiving registered taken =>
      rw [receiving] at calm
      cases calm with
      | receiving _ empty => simp [Queue.take?_eq_none.mpr empty] at taken
  | acts handling | ends handling =>
      rw [handling] at calm
      cases calm
  | sleeps => exact ⟨rfl, .sleeping _⟩

theorem Stage.Calm.endListen {queue : Queue} {stage : Stage} (calm : stage.Calm queue) :
    stage.Calm queue.endListen := by
  cases calm with
  | receiving iteration empty unfinished => exact .receiving iteration empty unfinished
  | starting => exact .starting
  | betweenIterations => exact .betweenIterations
  | dispatched iteration => exact .dispatched iteration
  | sleeping wakeAt => exact .sleeping wakeAt
  | finished fault => exact .finished fault

end Listener

namespace System

theorem queue?_drop (system : System) (id index : Nat) :
    (system.drop id).queue? index = system.queue? index := rfl

structure Hosts (system : System) (id index : Nat) (listener : Listener) (queue : Queue) : Prop where
  tasks : system.tasks = [⟨id, index, .listen listener⟩]
  held : system.queue? index = some queue

namespace Hosts

variable {system : System} {id index : Nat} {listener : Listener} {queue : Queue}

theorem with_running (hosts : system.Hosts id index listener queue) (running : Option Nat) :
    ({ system with running } : System).Hosts id index listener queue :=
  ⟨hosts.tasks, hosts.held⟩

theorem with_clock (hosts : system.Hosts id index listener queue) (clock : Instant) :
    ({ system with clock } : System).Hosts id index listener queue :=
  ⟨hosts.tasks, hosts.held⟩

theorem modifyQueue (hosts : system.Hosts id index listener queue) (change : Queue → Queue) :
    (system.modifyQueue index change).Hosts id index listener (change queue) := by
  refine ⟨hosts.tasks, ?_⟩
  rw [System.modifyQueue_queue?, if_pos rfl, hosts.held, Option.map_some]

theorem eq_of_mem (hosts : system.Hosts id index listener queue) {task : Task}
    (member : task ∈ system.tasks) : task = ⟨id, index, .listen listener⟩ := by
  rw [hosts.tasks] at member
  exact List.mem_singleton.mp member

theorem step (hosts : system.Hosts id index listener queue) :
    (system.stepTask ⟨id, index, .listen listener⟩).Hosts id index
      (listener.step queue system.clock system.freshId).listener
      (listener.step queue system.clock system.freshId).queue := by
  refine ⟨?_, ?_⟩
  · rw [tasks_stepTask hosts.held, setTask, hosts.tasks]
    simp [Job.after]
  · rw [stepTask_queue?, hosts.held]
    simp [Job.operations, System.queue, hosts.held, ← Listener.step_queue]

theorem isReady_eq (hosts : system.Hosts id index listener queue) :
    system.isReady ⟨id, index, .listen listener⟩ = listener.isReady queue system.clock := by
  rw [System.isReady, hosts.held]
  rfl

theorem next?_of_ready (hosts : system.Hosts id index listener queue)
    (ready : listener.isReady queue system.clock = true) :
    system.next? = some ⟨id, index, .listen listener⟩ := by
  cases found : system.next? with
  | some task => rw [hosts.eq_of_mem (mem_of_next? found)]
  | none =>
      unfold next? at found
      split at found
      · simp at found
      · rw [hosts.tasks, List.find?_singleton, hosts.isReady_eq, if_pos ready] at found
        simp at found

theorem isReady_of_next? {task : Task} (found : system.next? = some task) :
    system.isReady task = true := by
  unfold next? at found
  split at found
  · rename_i own chosen
    exact Option.some.inj found ▸ (Option.filter_eq_some_iff.mp chosen).2
  · exact List.find?_some found

theorem next?_of_waits (hosts : system.Hosts id index listener queue)
    (waits : listener.isReady queue system.clock = false) : system.next? = none := by
  cases found : system.next? with
  | none => rfl
  | some task =>
      have ready := isReady_of_next? found
      rw [hosts.eq_of_mem (mem_of_next? found), hosts.isReady_eq, waits] at ready
      simp at ready

theorem settleWithin_of_waits (hosts : system.Hosts id index listener queue)
    (waits : listener.isReady queue system.clock = false) (steps : Nat) :
    System.settleWithin steps (fun _ => false) system = system := by
  cases steps with
  | zero => rfl
  | succ steps => simp [System.settleWithin, hosts.next?_of_waits waits]

theorem settleWithin_of_strides {steps : Nat} {last : Listener} {final : Queue} {now : Instant}
    (strides : Listener.Strides now steps listener queue last final)
    (waits : last.isReady final now = false) (more : Nat)
    (hosts : system.Hosts id index listener queue) (time : system.clock = now) :
    (System.settleWithin (steps + more) (fun _ => false) system).Hosts id index last final := by
  induction strides generalizing system with
  | still => rwa [hosts.settleWithin_of_waits (time ▸ waits)]
  | @turn steps listener next last queue left final leads others ih =>
      subst time
      obtain ⟨ready, took⟩ := leads
      have goesOn := hosts.next?_of_ready ready
      obtain ⟨nextEq, leftEq⟩ := took ({ system with running := some id } : System).freshId
      have stepped := (hosts.with_running (some id)).step
      rw [nextEq, leftEq] at stepped
      have further := ih waits stepped (stepTask_clock _ _)
      rw [Nat.succ_add, System.settleWithin, goesOn]
      exact further

theorem settle_of_strides {steps : Nat} {last : Listener} {final : Queue}
    (hosts : system.Hosts id index listener queue)
    (strides : Listener.Strides system.clock steps listener queue last final) (few : steps ≤ 256)
    (waits : last.isReady final system.clock = false) :
    system.settle.Hosts id index last final := by
  have budget : 256 ≤ system.stepBudget := by
    rw [stepBudget, hosts.tasks]
    simp only [List.length_singleton]
    omega
  have split : system.stepBudget = steps + (system.stepBudget - steps) := by omega
  rw [settle, settleUntil, split]
  exact (hosts.with_running none).settleWithin_of_strides strides waits _ rfl

theorem settle_of_waits (hosts : system.Hosts id index listener queue)
    (waits : listener.isReady queue system.clock = false) :
    system.settle.Hosts id index listener queue :=
  hosts.settle_of_strides (.still listener queue) (Nat.zero_le _) waits

theorem passed_of_sleeping (settled : system.settle.Hosts id index listener queue) {wakeAt : Instant}
    (sleeping : listener.stage = .sleeping wakeAt) (later : system.clock < wakeAt) (limit : Instant) :
    (system.passed limit).Hosts id index listener queue ∧ (system.passed limit).clock ≤ wakeAt := by
  have due : system.settle.nextDue? = some wakeAt := by
    have wakes : listener.wakeAt? = some wakeAt := by rw [Listener.wakeAt?, sleeping]
    have ahead : system.settle.clock < wakeAt := by rwa [settle_clock]
    simp [nextDue?, settled.tasks, Job.wakeAt?, wakes, ahead, Option.filter]
  refine ⟨settled.with_clock _, ?_⟩
  rw [passed, due]
  simp only [Option.map_some, Option.getD_some, min]
  split
  · rename_i sooner
    exact sooner
  · exact Nat.le_refl _

end Hosts

theorem lasting_calm {queue : Queue} (id index : Nat)
    (idle : queue.cancelled = true ∨ queue.store.pending = []) :
    Lasting fun system => ∃ listener, system.Hosts id index listener queue ∧
      listener.stage.Calm queue where
  running running := fun ⟨listener, hosts, calm⟩ => ⟨listener, hosts.with_running running, calm⟩
  clock clock := fun ⟨listener, hosts, calm⟩ => ⟨listener, hosts.with_clock clock, calm⟩
  step := by
    rintro system task member ⟨listener, hosts, calm⟩
    obtain ⟨same, still⟩ := listener.step_calm system.clock system.freshId idle calm
    have stepped := hosts.step
    rw [same] at stepped
    rw [hosts.eq_of_mem member]
    exact ⟨_, stepped, still⟩

end System

end LeaseQueue
