import LeaseQueue.Registry

/-!
A demonstration: messages are sent to a queue, and a listener in the background completes them. The
demonstration ends when all of them are handled, or when its time is up.
-/

namespace LeaseQueue.Demo

def queueName : String := "demo"

def plan : Plan := ⟨[[.complete]]⟩

def intervalMillis (listenMillis : Nat) : Nat := max listenMillis 1

/-- How many milliseconds there are to handle the messages, in arithmetic of 64 bits. -/
def budgetMillis (messages listenMillis : Nat) : Nat :=
  (intervalMillis listenMillis * (messages + 10)) % UInt64.size

def pauseMillis : Nat := 5

def configure (configuration : Configuration) (listenMillis : Nat) : Configuration :=
  { configuration with
    defaults := { configuration.defaults with listenMillis := intervalMillis listenMillis } }

def payload (number : Nat) : Json.Value := .object [("seq", .int number)]

def sendOne (queue : Nat) (system : System) (number : Nat) : System :=
  let (message, system) := system.newMessage queueName "tick" (payload number).bytes
  system.modifyQueue queue fun queue => queue.send message system.clock

def handled (queue : Nat) (system : System) : Nat := (system.queue queue).counters.completed.toNat

def waitFor (queue messages : Nat) (deadline : Instant) : (pauses : Nat) → System → System
  | 0, system => system
  | pauses + 1, system =>
    if messages ≤ handled queue system ∨ deadline ≤ system.clock then system
    else waitFor queue messages deadline pauses (system.sleep (.ofMillis pauseMillis))

def finish (queue listener : Nat) (system : System) : System :=
  let stopping := system.modifyQueue queue Queue.endListen
  let interval := (stopping.queue queue).settings.listenInterval
  let ended := stopping.runUntil (·.isFinished listener) none
    (stopping.clock + interval + Duration.ofMillis 1)
  (ended.drop listener).modifyQueue queue Queue.close

def play (queue messages listenMillis : Nat) (system : System) : System :=
  let (listener, begun) := system.beginListen queue queueName plan
  let sent := (List.range messages).foldl (sendOne queue) begun
  let budget := budgetMillis messages listenMillis
  let waited := waitFor queue messages (sent.clock + Duration.ofMillis budget)
    (budget / pauseMillis + 1) sent
  finish queue listener waited

def run (configuration : Configuration) (messages listenMillis : Nat) (system : System) :
    Except Fault (Nat × System) := do
  let configuration := configure configuration listenMillis
  configuration.validate.mapError Violation.fault
  let registry : Registry := { configuration }
  let (queue, _, system) ← registry.getOrCreate system queueName
  return (queue, play queue messages listenMillis (system.modifyQueue queue Queue.openUp))

def report (queue : Nat) (system : System) : String := (system.queue queue).report

end LeaseQueue.Demo
