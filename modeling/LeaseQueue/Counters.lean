/-!
Counts of what a queue has done, for diagnostics. Each wraps around after the last 64-bit word.
-/

namespace LeaseQueue

structure Counters where
  sent : UInt64 := 0
  received : UInt64 := 0
  completed : UInt64 := 0
  abandoned : UInt64 := 0
  deadLettered : UInt64 := 0
deriving DecidableEq, Inhabited

namespace Counters

def countSent (counters : Counters) : Counters := { counters with sent := counters.sent + 1 }

def countReceived (counters : Counters) : Counters :=
  { counters with received := counters.received + 1 }

def countCompleted (counters : Counters) : Counters :=
  { counters with completed := counters.completed + 1 }

def countAbandoned (counters : Counters) : Counters :=
  { counters with abandoned := counters.abandoned + 1 }

def countDeadLettered (counters : Counters) : Counters :=
  { counters with deadLettered := counters.deadLettered + 1 }

def line (name queue : String) (count : UInt64) : String :=
  "memq_" ++ name ++ "\x7bqueue=\"" ++ queue ++ "\"\x7d " ++ toString count ++ "\n"

def report (counters : Counters) (queue : String) : String :=
  line "sent" queue counters.sent ++ line "received" queue counters.received
    ++ line "completed" queue counters.completed ++ line "abandoned" queue counters.abandoned
    ++ line "dead_lettered" queue counters.deadLettered

end Counters

end LeaseQueue
