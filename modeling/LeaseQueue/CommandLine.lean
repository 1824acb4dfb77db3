import LeaseQueue.Text.Number

/-!
The command line. `Request.ofArguments?` reads the arguments from left to right: a parameter's value
is checked when the next parameter begins, and a request for help or for the version ends the
reading at once. Anything else that does not fit is a misuse.
-/

namespace LeaseQueue

inductive Topic where
  | program
  | shell
  | demo
  | help
deriving DecidableEq

/-- What the arguments ask for. A configuration path given after the command is the one that counts. -/
inductive Request where
  | help (topic : Topic)
  | version
  | shell (configPath : Option String) (queue : String)
  | demo (configPath : Option String) (messages listenMillis : Nat)
deriving DecidableEq

inductive Parameter where
  | config
  | queue
  | messages
  | listenInterval
deriving DecidableEq

namespace Parameter

def short? : Parameter → Option Char
  | .config => some 'c'
  | .queue => some 'q'
  | .messages => some 'm'
  | .listenInterval => none

def long : Parameter → String
  | .config => "config"
  | .queue => "queue"
  | .messages => "messages"
  | .listenInterval => "listen-interval-ms"

def fallback? : Parameter → Option String
  | .config => none
  | .queue => some "default"
  | .messages => some "10"
  | .listenInterval => some "10"

def accepts (parameter : Parameter) (value : String) : Bool :=
  match parameter with
  | .config => true
  | .queue => true
  | .messages => (Text.nat64? value).isSome
  | .listenInterval => (Text.nat64? value).isSome

end Parameter

namespace Topic

def name : Topic → String
  | .program => "memq"
  | .shell => "shell"
  | .demo => "demo"
  | .help => "help"

def commands : List Topic := [.shell, .demo, .help]

def command? (name : String) : Option Topic := commands.find? fun topic => topic.name == name

def parameters : Topic → List Parameter
  | .program => [.config]
  | .shell => [.config, .queue]
  | .demo => [.config, .messages, .listenInterval]
  | .help => []

def hasVersion (topic : Topic) : Bool := topic == .program

end Topic

namespace CommandLine

/-- Why reading ends early. -/
inductive Stop where
  | misuse
  | asked (request : Request)

/-- The parameters read so far, and the last one while it is not checked; it may lack its value. -/
structure Progress where
  given : List (Parameter × String) := []
  last : Option (Parameter × Option String) := none

namespace Progress

def isWaiting (progress : Progress) : Bool :=
  match progress.last with
  | some (_, none) => true
  | _ => false

def check (progress : Progress) : Except Stop Progress :=
  match progress.last with
  | none => .ok progress
  | some (_, none) => .error .misuse
  | some (parameter, some value) =>
    if parameter.accepts value && (progress.given.lookup parameter).isNone then
      .ok { given := (parameter, value) :: progress.given }
    else .error .misuse

def ask {α : Type} (progress : Progress) (request : Request) : Except Stop α := do
  let _ ← progress.check
  throw (.asked request)

/-- Begins a parameter. A value that is attached to its name is checked at once. -/
def start (progress : Progress) (parameter : Parameter) (attached : Option String) :
    Except Stop Progress := do
  let progress ← progress.check
  match attached with
  | none => return { progress with last := some (parameter, none) }
  | some value => check { progress with last := some (parameter, some value) }

def long (progress : Progress) (topic : Topic) (text : List Char) : Except Stop Progress :=
  let (name, tail) := text.span (· != '=')
  let attached : Option String :=
    match tail with
    | [] => none
    | _ :: value => some (String.ofList value)
  let name := String.ofList name
  match topic.parameters.find? fun parameter => parameter.long == name with
  | some parameter => progress.start parameter attached
  | none =>
    if attached.isSome then throw .misuse
    else if name == "help" then progress.ask (.help topic)
    else if name == "version" && topic.hasVersion then progress.ask .version
    else throw .misuse

def short (progress : Progress) (topic : Topic) (letter : Char) (tail : List Char) :
    Except Stop Progress :=
  match topic.parameters.find? fun parameter => parameter.short? == some letter with
  | some parameter =>
    match tail with
    | [] => progress.start parameter none
    | '=' :: value => progress.start parameter (some (String.ofList value))
    | value => progress.start parameter (some (String.ofList value))
  | none =>
    if letter == 'h' then progress.ask (.help topic)
    else if letter == 'V' && topic.hasVersion then progress.ask .version
    else throw .misuse

def value (progress : Progress) (text : String) : Except Stop Progress :=
  match progress.last with
  | some (parameter, none) => return { progress with last := some (parameter, some text) }
  | _ => throw .misuse

/-- Any argument but a command. Two dashes alone are not among them. -/
def argument (progress : Progress) (topic : Topic) (text : String) : Except Stop Progress :=
  match text.toList with
  | '-' :: '-' :: name => progress.long topic name
  | '-' :: letter :: tail => progress.short topic letter tail
  | _ => progress.value text

end Progress

/-- Reads the arguments of a command to their end. Nothing may follow two dashes that stand alone. -/
def readCommand (topic : Topic) : Progress → List String → Except Stop Progress
  | progress, [] => progress.check
  | progress, "--" :: rest => if rest.isEmpty then progress.check else throw .misuse
  | progress, text :: rest => do readCommand topic (← progress.argument topic text) rest

def readHelp : List String → Stop
  | [] => .asked (.help .program)
  | [name] =>
    match Topic.command? name with
    | some topic => .asked (.help topic)
    | none => .misuse
  | _ => .misuse

def valueOf (given : List (Parameter × String)) (parameter : Parameter) : Option String :=
  (given.lookup parameter).or parameter.fallback?

def number (given : List (Parameter × String)) (parameter : Parameter) : Nat :=
  ((valueOf given parameter).bind Text.nat64?).getD 0

def request (topic : Topic) (before after : List (Parameter × String)) : Request :=
  let configPath := (after.lookup .config).or (before.lookup .config)
  match topic with
  | .shell => .shell configPath ((valueOf after .queue).getD "")
  | .demo => .demo configPath (number after .messages) (number after .listenInterval)
  | _ => .help .program

/-- Reads the arguments up to a command, and then the command. The parameter before the command is
checked last. -/
def readProgram : Progress → List String → Except Stop Request
  | _, [] => throw .misuse
  | progress, text :: rest =>
    match if progress.isWaiting then none else Topic.command? text with
    | some .help => throw (readHelp rest)
    | some topic => do
      let after ← readCommand topic {} rest
      let before ← progress.check
      return request topic before.given after.given
    | none => do
      if text == "--" then throw .misuse
      readProgram (← progress.argument .program text) rest

end CommandLine

def Request.ofArguments? (arguments : List String) : Option Request :=
  match CommandLine.readProgram {} arguments with
  | .ok request => some request
  | .error (.asked request) => some request
  | .error .misuse => none

end LeaseQueue
