import LeaseQueue.CommandLine.Help
import LeaseQueue.Demo
import LeaseQueue.Settings.Load
import LeaseQueue.Shell.Session

/-!
The program as a whole: what it prints and how it exits, given its arguments, its surroundings and
its input. Time is the time that the program waits; computing takes none.
-/

namespace LeaseQueue

/-- How a run ends. A complaint goes where errors go. -/
structure Outcome where
  exitCode : Nat
  output : String := ""
  complaint : Option String := none
deriving DecidableEq

namespace Outcome

def succeeded (output : String) : Outcome := { exitCode := 0, output }

def failed (message : String) : Outcome := { exitCode := 1, complaint := some ("Error: " ++ message) }

def misused : Outcome := { exitCode := 2 }

end Outcome

namespace Program

def version : String := "memq 1.0.0\n"

def configuration (surroundings : Surroundings) : (path : Option String) →
    Except LoadError Configuration
  | some path => Configuration.load surroundings path
  | none => .ok (Configuration.loadUsual surroundings)

def runShell (configuration : Configuration) (queue : String) (lines : List String) (system : System) :
    Outcome :=
  match Shell.Session.start configuration queue system with
  | .error fault => .failed fault.message
  | .ok session => .succeeded (session.transcript lines)

def runDemo (configuration : Configuration) (messages listenMillis : Nat) (system : System) : Outcome :=
  match Demo.run configuration messages listenMillis system with
  | .error fault => .failed fault.message
  | .ok (queue, ended) => .succeeded (Demo.report queue ended)

def configured (surroundings : Surroundings) (path : Option String) (use : Configuration → Outcome) :
    Outcome :=
  match configuration surroundings path with
  | .error error => .failed error.message
  | .ok configuration => use configuration

def carryOut (surroundings : Surroundings) (lines : List String) (system : System) : Request → Outcome
  | .help topic => .succeeded (Help.text topic)
  | .version => .succeeded version
  | .shell path queue =>
    configured surroundings path fun configuration => runShell configuration queue lines system
  | .demo path messages listenMillis =>
    configured surroundings path fun configuration =>
      runDemo configuration messages listenMillis system

def run (surroundings : Surroundings) (arguments : List String) (input : List UInt8)
    (idBase : Nat := 0) : Outcome :=
  match Request.ofArguments? arguments with
  | none => .misused
  | some request => carryOut surroundings (Shell.linesOf input) { idBase } request

end Program

end LeaseQueue
