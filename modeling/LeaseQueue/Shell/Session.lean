import LeaseQueue.Registry
import LeaseQueue.Shell.Command

/-!
A session of the shell: a queue, the message that was received last and is not settled yet, and a
listener that prints and completes what it is given. `Session.answer` carries out one line and says
what the shell prints; `Session.finish` ends the session.
-/

namespace LeaseQueue.Shell

/-- `queue` is the number of the session's queue, `listener` the task of its listener. -/
structure Session where
  system : System
  queue : Nat
  current : Option Message := none
  listener : Option Nat := none
deriving DecidableEq

namespace Session

def correlationId : String := "shell"

def start (configuration : Configuration) (name : String) (system : System) :
    Except Fault Session := do
  let registry : Registry := { configuration }
  let (index, _, system) ← registry.getOrCreate system name
  return { system := system.modifyQueue index Queue.openUp, queue := index }

def theQueue (session : Session) : Queue := session.system.queue session.queue

def modifyQueue (session : Session) (change : Queue → Queue) : Session :=
  { session with system := session.system.modifyQueue session.queue change }

def greeting (session : Session) : String :=
  "Queue " ++ session.theQueue.descriptor.shown ++ " ready. Type `help` for commands.\n"

def helpLine : String :=
  "send <type> <payload> | peek | peek-batch <n> | receive [ms] | complete | abandon | "
    ++ "dead-letter | renew <ms> | count | clear | stats | listen | unlisten | exit\n"

def messageLine (mark : String) (message : Message) (note : String := "") : String :=
  mark ++ " " ++ message.id.shown ++ " " ++ message.shown ++ note ++ "\n"

def lockNote (message : Message) : String :=
  " (lock " ++ toString (message.token.getD ⟨0⟩).number ++ ")"

def nothingReceived : String := "> nothing received\n"

def settle (session : Session) (change : Message → Queue → Instant → Queue) : Session × String :=
  match session.current with
  | none => (session, nothingReceived)
  | some message =>
    let settled := session.modifyQueue fun queue => change message queue session.system.clock
    ({ settled with current := none }, "> done\n")

def send (session : Session) (kind text : String) : Session × String :=
  let (message, system) := session.system.newMessage correlationId kind (Text.Utf8.encode text)
  let sending := { session with system }
  (sending.modifyQueue fun queue => queue.send message system.clock, "> sent\n")

/-- The session when a receive has ended, with a message or without. -/
def received (session : Session) : Option Message × System → Session × String
  | (some message, system) =>
    ({ session with system, current := some message }, messageLine ">" message (lockNote message))
  | (none, system) => ({ session with system }, "> (timed out)\n")

def receive (session : Session) (millis : Nat) : Session × String :=
  session.received (session.system.receive session.queue (.ofMillis millis))

def renew (session : Session) (millis : Option Nat) : Session × String :=
  match millis, session.current with
  | none, _ => (session, "Usage: renew <ms>\n")
  | some _, none => (session, nothingReceived)
  | some millis, some message =>
    (session.modifyQueue fun queue => queue.renew message (.ofMillis millis) session.system.clock,
      "> renewed\n")

def listenerPlan : Plan := ⟨[[.complete]]⟩

def listen (session : Session) : Session × String :=
  match session.listener with
  | some _ => (session, "")
  | none =>
    let (id, system) := session.system.beginListen session.queue correlationId listenerPlan
    ({ session with system, listener := some id }, "> listening\n")

/-- Lets a listener finish that was asked to stop. It takes no longer than its interval. -/
def join (session : Session) (id : Nat) : Session :=
  let limit := session.system.clock + session.theQueue.settings.listenInterval + Duration.ofMillis 1
  let ended := session.system.runUntil (·.isFinished id) none limit
  { session with system := ended.drop id, listener := none }

def unlisten (session : Session) : Session × String :=
  match session.listener with
  | none => (session, "")
  | some id => ((session.modifyQueue Queue.endListen).join id, "> stopped\n")

def heard (session : Session) : Session × String :=
  let line (event : Event) : String :=
    match event.notice with
    | .given message => messageLine "<" message
    | .ended _ _ => ""
  ({ session with system := { session.system with journal := [] } },
    String.join (session.system.journal.map line))

def perform (session : Session) : Command → Session × String
  | .help => (session, helpLine)
  | .leave => (session, "")
  | .send kind text => session.send kind text
  | .peek =>
    match session.theQueue.peek with
    | some message => (session, messageLine ">" message)
    | none => (session, "> (empty)\n")
  | .peekBatch none => (session, "Usage: peek-batch <n>\n")
  | .peekBatch (some count) =>
    (session, String.join ((session.theQueue.peekBatch count).map (messageLine ">")))
  | .receive millis => session.receive millis
  | .complete => session.settle fun message queue _ => (queue.complete message).2
  | .abandon => session.settle fun message queue now => (queue.abandon message now).2
  | .deadLetter => session.settle fun message queue _ => (queue.deadLetter message).2
  | .renew millis => session.renew millis
  | .count => (session, "> " ++ toString session.theQueue.pendingCount ++ "\n")
  | .clear => ({ session.modifyQueue Queue.clear with current := none }, "> cleared\n")
  | .stats => (session, session.theQueue.report)
  | .listen => session.listen
  | .unlisten => session.unlisten
  | .unknown => (session, "Unknown cmd. Type `help`.\n")

def answer (session : Session) (command : Command) : Session × String :=
  let (performed, reply) := session.perform command
  let (waited, before) := performed.heard
  let (settled, after) := { waited with system := waited.system.settle }.heard
  (settled, before ++ reply ++ after)

def catchUp (session : Session) (now : Instant) : Session × String :=
  { session with system := session.system.sleep (now - session.system.clock) }.heard

def finish (session : Session) : Session × String :=
  let closed := session.modifyQueue Queue.close
  match closed.listener with
  | some id => (closed.join id).heard
  | none => closed.heard

def answerAll (session : Session) : List String → Session × String
  | [] => (session, "")
  | line :: rest =>
    match Command.ofLine line with
    | .leave => (session, "")
    | command =>
      let (session, printed) := session.answer command
      let (session, later) := answerAll session rest
      (session, printed ++ later)

def transcript (session : Session) (lines : List String) : String :=
  let (left, printed) := session.answerAll lines
  session.greeting ++ printed ++ left.finish.2

end Session

def cut : List UInt8 → List (List UInt8)
  | [] => []
  | byte :: rest =>
    if byte = 0x0A then [] :: cut rest
    else
      match cut rest with
      | [] => [[byte]]
      | line :: later => (byte :: line) :: later

def linesOf (input : List UInt8) : List String :=
  ((cut input).map Text.Utf8.decode?).takeWhile Option.isSome |>.filterMap id

end LeaseQueue.Shell
