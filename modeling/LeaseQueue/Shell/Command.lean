import LeaseQueue.Text.Backspace
import LeaseQueue.Text.Blank
import LeaseQueue.Text.Number

/-!
The commands of the shell, read from the words of a line.
-/

namespace LeaseQueue.Shell

/-- A command. A count or time that is no number is kept as absent where the shell complains of it. -/
inductive Command where
  | help
  | leave
  | send (kind text : String)
  | peek
  | peekBatch (count : Option Nat)
  | receive (millis : Nat)
  | complete
  | abandon
  | deadLetter
  | renew (millis : Option Nat)
  | count
  | clear
  | stats
  | listen
  | unlisten
  | unknown
deriving DecidableEq

namespace Command

def usualMillis : Nat := 1000

/-- Reads the words of a line. The words after a message's type are its text, with one space between
each two. -/
def ofWords : List (List Char) → Command
  | [] => .unknown
  | name :: arguments =>
    match String.ofList name, arguments with
    | "help", [] => .help
    | "exit", [] => .leave
    | "quit", [] => .leave
    | "send", kind :: rest => .send (String.ofList kind) (String.ofList (Text.joinWords rest))
    | "peek", [] => .peek
    | "peek-batch", [number] => .peekBatch (Text.nat64? (String.ofList number))
    | "receive", [] => .receive usualMillis
    | "receive", millis :: _ => .receive ((Text.nat64? (String.ofList millis)).getD usualMillis)
    | "complete", [] => .complete
    | "abandon", [] => .abandon
    | "dead-letter", [] => .deadLetter
    | "renew", [millis] => .renew (Text.nat64? (String.ofList millis))
    | "count", [] => .count
    | "clear", [] => .clear
    | "stats", [] => .stats
    | "listen", [] => .listen
    | "unlisten", [] => .unlisten
    | _, _ => .unknown

def ofLine (line : String) : Command := ofWords (Text.words (Text.Backspace.apply line.toList))

end Command

end LeaseQueue.Shell
