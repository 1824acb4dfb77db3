import LeaseQueue.Program

/-!
The program on a terminal. The session's clock follows the real one: before a line is answered the
session catches up with the time that has passed, and after it the program waits until the time
that the answer took is over.
-/

namespace LeaseQueue.Main

def variableNames : List String :=
  [Configuration.pollVariable, Configuration.listenVariable, Configuration.levelVariable,
    Configuration.pathVariable]

def environment : IO (List (String × String)) := do
  let values ← variableNames.mapM fun name => do return (name, ← IO.getEnv name)
  return values.filterMap fun (name, value) => value.map fun found => (name, found)

def surroundings (configPath : Option String) : IO Surroundings := do
  let found : Surroundings := { environment := ← environment }
  let path := configPath.getD found.configPath
  try
    let content ← IO.FS.readBinFile path
    return { found with files := [(path, content.toList)] }
  catch _ => return found

def freshIdBase : IO Nat := do
  let bytes ← IO.getRandomBytes 16
  return bytes.toList.foldl (fun number byte => number * 256 + byte.toNat) 0

def complain (message : String) : IO UInt32 := do
  IO.eprintln ("Error: " ++ message)
  return 1

def waitUntil (began : Nat) (clock : Instant) : IO Unit := do
  let passed := (← IO.monoMsNow) - began
  if passed < clock.millis then IO.sleep (clock.millis - passed).toUInt32

def say (text : String) : IO Unit := do
  let output ← IO.getStdout
  output.putStr text
  output.flush

def nextLine (input : IO.FS.Stream) : IO (Option String) := do
  try
    let line ← input.getLine
    return if line.isEmpty then none else some line
  catch _ => return none

partial def converse (input : IO.FS.Stream) (began : Nat) (session : Shell.Session) : IO Unit := do
  match (← nextLine input).map Shell.Command.ofLine with
  | none => conclude session
  | some .leave => conclude session
  | some command =>
    let (caughtUp, missed) := session.catchUp ⟨((← IO.monoMsNow) - began) * Duration.nanosPerMilli⟩
    let (answered, reply) := caughtUp.answer command
    waitUntil began answered.system.clock
    say (missed ++ reply)
    converse input began answered
where
  conclude (session : Shell.Session) : IO Unit := do
    let (ended, last) := session.finish
    waitUntil began ended.system.clock
    say last

def runShell (configuration : Configuration) (queue : String) : IO UInt32 := do
  match Shell.Session.start configuration queue { idBase := ← freshIdBase } with
  | .error fault => complain fault.message
  | .ok session =>
    say session.greeting
    converse (← IO.getStdin) (← IO.monoMsNow) session
    return 0

def runDemo (configuration : Configuration) (messages listenMillis : Nat) : IO UInt32 := do
  let began ← IO.monoMsNow
  match Demo.run configuration messages listenMillis { idBase := ← freshIdBase } with
  | .error fault => complain fault.message
  | .ok (queue, ended) =>
    waitUntil began ended.clock
    say (Demo.report queue ended)
    return 0

def configured (configPath : Option String) (use : Configuration → IO UInt32) : IO UInt32 := do
  match Program.configuration (← surroundings configPath) configPath with
  | .error error => complain error.message
  | .ok configuration => use configuration

def carryOut : Request → IO UInt32
  | .help topic => do
    say (Help.text topic)
    return 0
  | .version => do
    say Program.version
    return 0
  | .shell configPath queue => configured configPath fun configuration => runShell configuration queue
  | .demo configPath messages listenMillis =>
    configured configPath fun configuration => runDemo configuration messages listenMillis

end LeaseQueue.Main

def main (arguments : List String) : IO UInt32 := do
  match LeaseQueue.Request.ofArguments? arguments with
  | some request => LeaseQueue.Main.carryOut request
  | none =>
    IO.eprintln ("error: these arguments are not understood\n\nUsage: "
      ++ LeaseQueue.Topic.usage .program)
    return 2
