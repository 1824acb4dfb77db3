import LeaseQueue.Listener

/-!
Queues that share a clock with the tasks that wait on them. A task runs until it has to wait for time
or for a message; then the first of the others that can go on gets its turn. `settle` lets all of
them run at one instant, and `runUntil` moves the clock from one due wait to the next.
-/

namespace LeaseQueue

inductive Job where
  | receive (call : Reception)
  | listen (listener : Listener)
deriving DecidableEq

structure Task where
  id : Nat
  queue : Nat
  job : Job
deriving DecidableEq

structure Event where
  time : Instant
  notice : Listener.Notice
deriving DecidableEq

/-- Tasks are in the order in which they get their turns; queues are numbered in the order in which
they were made. `idBase` is where message ids start, and `minted` how many there are so far. -/
structure System where
  clock : Instant := .origin
  queues : List Queue := []
  tasks : List Task := []
  running : Option Nat := none
  journal : List Event := []
  spawned : Nat := 0
  idBase : Nat := 0
  minted : Nat := 0
deriving DecidableEq

namespace Job

def isReady (job : Job) (queue : Queue) (now : Instant) : Bool :=
  match job with
  | .receive call => call.isReady queue now
  | .listen listener => listener.isReady queue now

def wakeAt? : Job → Option Instant
  | .receive call => call.wakeAt?
  | .listen listener => listener.wakeAt?

def isFinished : Job → Bool
  | .receive call => call.isFinished
  | .listen listener => listener.isFinished

def planSize : Job → Nat
  | .receive _ => 0
  | .listen listener => listener.plan.size

end Job

namespace System

def freshId (system : System) : MessageId := ⟨system.idBase + system.minted⟩

/-- An id that no message has yet. -/
def mint (system : System) : MessageId × System :=
  (system.freshId, { system with minted := system.minted + 1 })

def newMessage (system : System) (correlationId kind : String) (payload : List UInt8) :
    Message × System :=
  let (id, system) := system.mint
  ({ id, correlationId, kind, payload }, system)

def queue? (system : System) (index : Nat) : Option Queue := system.queues[index]?

def queue (system : System) (index : Nat) : Queue :=
  (system.queue? index).getD (Queue.ofSettings "" {})

def setQueue (system : System) (index : Nat) (queue : Queue) : System :=
  { system with queues := system.queues.set index queue }

def modifyQueue (system : System) (index : Nat) (change : Queue → Queue) : System :=
  system.setQueue index (change (system.queue index))

def addQueue (system : System) (queue : Queue) : Nat × System :=
  (system.queues.length, { system with queues := system.queues ++ [queue] })

def task? (system : System) (id : Nat) : Option Task := system.tasks.find? fun task => task.id == id

def setTask (system : System) (task : Task) : System :=
  { system with
    tasks := system.tasks.map fun other => if other.id = task.id then task else other }

def spawn (system : System) (queue : Nat) (job : Job) : Nat × System :=
  (system.spawned,
    { system with
      tasks := system.tasks ++ [⟨system.spawned, queue, job⟩]
      spawned := system.spawned + 1 })

def spawnFirst (system : System) (queue : Nat) (job : Job) : Nat × System :=
  (system.spawned,
    { system with
      tasks := ⟨system.spawned, queue, job⟩ :: system.tasks
      spawned := system.spawned + 1 })

/-- Forgets a task, whatever it was doing. -/
def drop (system : System) (id : Nat) : System :=
  { system with tasks := system.tasks.filter fun task => task.id != id }

def isFinished (system : System) (id : Nat) : Bool :=
  match system.task? id with
  | some task => task.job.isFinished
  | none => true

def reception? (system : System) (id : Nat) : Option Reception :=
  match (system.task? id).map Task.job with
  | some (.receive call) => some call
  | _ => none

def listener? (system : System) (id : Nat) : Option Listener :=
  match (system.task? id).map Task.job with
  | some (.listen listener) => some listener
  | _ => none

def isReady (system : System) (task : Task) : Bool :=
  match system.queue? task.queue with
  | some queue => task.job.isReady queue system.clock
  | none => false

def stepTask (system : System) (task : Task) : System :=
  match system.queue? task.queue with
  | none => system
  | some queue =>
    match task.job with
    | .receive call =>
      let (call, queue) := call.step queue system.clock
      (system.setTask { task with job := .receive call }).setQueue task.queue queue
    | .listen listener =>
      let outcome := listener.step queue system.clock system.freshId
      let next := (system.setTask { task with job := .listen outcome.listener }).setQueue task.queue
        outcome.queue
      { next with
        journal := system.journal ++ outcome.notices.map fun notice => ⟨system.clock, notice⟩
        minted := if outcome.minted then system.minted + 1 else system.minted }

/-- The task that may take the next step: the running one while it can go on, else the first in order
that can. -/
def next? (system : System) : Option Task :=
  match (system.running.bind system.task?).filter system.isReady with
  | some task => some task
  | none => system.tasks.find? system.isReady

/-- More steps than the tasks of a system can take at one instant. A listener with an interval goes
through at most two iterations then. One without goes on until its plan ends it or lets time pass, and
uses up a call of the plan in each iteration. Each action wakes each task at most once. -/
def stepBudget (system : System) : Nat :=
  let actions := system.tasks.foldl (fun total task => total + task.job.planSize) 0
  16 * (system.tasks.length + 1) * (system.tasks.length + actions + 8)

/-- Lets tasks take steps, without time passing, until none can go on or the caller has what it
waits for. -/
def settleWithin : (steps : Nat) → (done : System → Bool) → System → System
  | 0, _, system => system
  | steps + 1, done, system =>
    if done system then system
    else
      match system.next? with
      | none => system
      | some task => settleWithin steps done ({ system with running := some task.id }.stepTask task)

def settleUntil (done : System → Bool) (system : System) : System :=
  settleWithin system.stepBudget done { system with running := none }

def settle (system : System) : System := system.settleUntil fun _ => false

def turnWithin : (steps : Nat) → (id : Nat) → System → System
  | 0, _, system => system
  | steps + 1, id, system =>
    match (system.task? id).filter system.isReady with
    | none => system
    | some task => turnWithin steps id (system.stepTask task)

def turn (system : System) (id : Nat) : System := turnWithin system.stepBudget id system

def nextDue? (system : System) : Option Instant :=
  let ahead := system.tasks.filterMap fun task =>
    task.job.wakeAt?.filter fun wakeAt => system.clock < wakeAt
  ahead.foldl (fun earliest due => some ((earliest.map (min due)).getD due)) none

/-- Lets tasks run and time pass, up to a limit, until the caller has what it waits for. At each
instant the caller's own task goes first, and at the limit nothing else runs. -/
def runUntil (system : System) (done : System → Bool) (own : Option Nat) (limit : Instant) : System :=
  let first := (own.map system.turn).getD system
  if _ : done first ∨ ¬ system.clock < limit then first
  else
    let settled := first.settleUntil done
    let due := (settled.nextDue?.map (min limit)).getD limit
    if _ : ¬ done settled ∧ system.clock < due then
      runUntil { settled with clock := due } done own limit
    else settled
termination_by limit.nanos - system.clock.nanos
decreasing_by
  have before : system.clock < limit :=
    Classical.byContradiction fun late => ‹¬ (_ ∨ _)› (Or.inr late)
  exact Nat.sub_lt_sub_left before (‹_ ∧ _›).2

def sleep (system : System) (span : Duration) : System :=
  system.runUntil (fun _ => false) none (system.clock + span)

def receive (system : System) (queue : Nat) (timeout : Duration) : Option Message × System :=
  let call := Reception.start timeout system.clock
  let (id, begun) := system.spawnFirst queue (.receive call)
  let ended := begun.runUntil (·.isFinished id) (some id) call.deadline
  ((ended.reception? id).bind Reception.message?, ended.drop id)

def beginListen (system : System) (queue : Nat) (correlationId : String) (plan : Plan) :
    Nat × System :=
  (system.modifyQueue queue Queue.resume).spawn queue (.listen { correlationId, plan })

end System

end LeaseQueue
