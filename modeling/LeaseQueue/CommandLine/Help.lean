import LeaseQueue.CommandLine

/-!
Help texts. Options are listed beside their descriptions, unless the names are so long that a
description would not fit on the line; then each description has a line of its own.
-/

namespace LeaseQueue

def Parameter.placeholder : Parameter → String
  | .config => "CONFIG"
  | .queue => "QUEUE"
  | .messages => "MESSAGES"
  | .listenInterval => "LISTEN_INTERVAL_MS"

def Parameter.about : Parameter → String
  | .config => "Path to config TOML (env MEMQ_CONFIG overrides the default location)"
  | .queue => "Queue name"
  | .messages => "Number of messages to produce"
  | .listenInterval => "Listen interval in milliseconds (overrides config)"

namespace Topic

def about : Topic → String
  | .program => "memq in-process message queue shell & demo"
  | .shell => "Drive a queue interactively"
  | .demo => "Produce messages and consume them with a background listener"
  | .help => "Print this message or the help of the given subcommand(s)"

def usage : Topic → String
  | .program => "memq [OPTIONS] <COMMAND>"
  | .shell => "memq shell [OPTIONS]"
  | .demo => "memq demo [OPTIONS]"
  | .help => "memq help [COMMAND]..."

end Topic

namespace Help

structure Row where
  short : Option Char := none
  long : String
  about : String

def Row.ofParameter (parameter : Parameter) : Row :=
  { short := parameter.short?
    long := "--" ++ parameter.long ++ " <" ++ parameter.placeholder ++ ">"
    about := parameter.about
      ++ (parameter.fallback?.map fun value => " [default: " ++ value ++ "]").getD "" }

def rows (topic : Topic) : List Row :=
  topic.parameters.map Row.ofParameter ++ [⟨some 'h', "--help", "Print help"⟩]
    ++ if topic.hasVersion then [⟨some 'V', "--version", "Print version"⟩] else []

def lineWidth : Nat := 100

def longest (names : List String) : Nat := names.foldl (fun most name => max most name.length) 0

/-- Names that leave less than six tenths of a line are crowded when a description is longer than
what they leave. -/
def isCrowded (rows : List Row) : Bool :=
  let taken := longest (rows.map Row.long) + 12
  rows.any fun row => 4 * lineWidth < 10 * taken && lineWidth - taken < row.about.length

def spaces (count : Nat) : String := String.ofList (List.replicate count ' ')

def pad (width : Nat) (text : String) : String := text ++ spaces (width - text.length)

def Row.names (row : Row) : String :=
  (row.short.map fun letter => String.ofList ['-', letter, ',', ' ']).getD (spaces 4) ++ row.long

def options (rows : List Row) : String :=
  let width := longest (rows.map Row.names)
  let line (row : Row) : String :=
    if isCrowded rows then "  " ++ row.names ++ "\n" ++ spaces 10 ++ row.about ++ "\n"
    else "  " ++ pad width row.names ++ "  " ++ row.about ++ "\n"
  "\nOptions:\n" ++ String.join (rows.map line)

def commands : String :=
  let width := longest (Topic.commands.map Topic.name)
  "\nCommands:\n" ++ String.join (Topic.commands.map fun topic =>
    "  " ++ pad width topic.name ++ "  " ++ topic.about ++ "\n")

def text (topic : Topic) : String :=
  topic.about ++ "\n\nUsage: " ++ topic.usage ++ "\n" ++
    match topic with
    | .program => commands ++ options (rows topic)
    | .shell => options (rows topic)
    | .demo => options (rows topic)
    | .help => "\nArguments:\n  [COMMAND]...  Print help for the subcommand(s)\n"

end Help

end LeaseQueue
