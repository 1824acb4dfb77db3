/-!
Spans of time and points on a clock. The clock counts seconds in a signed 64-bit number, so a
deadline beyond its end is replaced by one thirty years ahead.
-/

namespace LeaseQueue

/-- A span of time, counted in nanoseconds. -/
structure Duration where
  nanos : Nat
deriving DecidableEq, Inhabited

/-- A point on a clock, counted in nanoseconds from the clock's origin. -/
structure Instant where
  nanos : Nat
deriving DecidableEq, Inhabited

namespace Duration

def nanosPerSecond : Nat := 1000000000

def nanosPerMilli : Nat := 1000000

def ofSeconds (seconds : Nat) (extraNanos : Nat := 0) : Duration :=
  ⟨seconds * nanosPerSecond + extraNanos⟩

def ofMillis (millis : Nat) : Duration := ⟨millis * nanosPerMilli⟩

def seconds (span : Duration) : Nat := span.nanos / nanosPerSecond

def subsecondNanos (span : Duration) : Nat := span.nanos % nanosPerSecond

/-- The longest span a caller can name: `2 ^ 64 - 1` seconds and 999999999 nanoseconds. -/
def longest : Duration := ofSeconds (UInt64.size - 1) 999999999

instance : LE Duration := ⟨fun first second => first.nanos ≤ second.nanos⟩

instance : LT Duration := ⟨fun first second => first.nanos < second.nanos⟩

instance (first second : Duration) : Decidable (first ≤ second) :=
  inferInstanceAs (Decidable (first.nanos ≤ second.nanos))

instance (first second : Duration) : Decidable (first < second) :=
  inferInstanceAs (Decidable (first.nanos < second.nanos))

instance : Min Duration := ⟨fun first second => if first ≤ second then first else second⟩

end Duration

namespace Instant

def origin : Instant := ⟨0⟩

instance : LE Instant := ⟨fun first second => first.nanos ≤ second.nanos⟩

instance : LT Instant := ⟨fun first second => first.nanos < second.nanos⟩

instance (first second : Instant) : Decidable (first ≤ second) :=
  inferInstanceAs (Decidable (first.nanos ≤ second.nanos))

instance (first second : Instant) : Decidable (first < second) :=
  inferInstanceAs (Decidable (first.nanos < second.nanos))

instance : Min Instant := ⟨fun first second => if first ≤ second then first else second⟩

instance : Max Instant := ⟨fun first second => if first ≤ second then second else first⟩

instance : HAdd Instant Duration Instant := ⟨fun now span => ⟨now.nanos + span.nanos⟩⟩

instance : HSub Instant Instant Duration := ⟨fun last first => ⟨last.nanos - first.nanos⟩⟩

def millis (now : Instant) : Nat := now.nanos / Duration.nanosPerMilli

def endOfClock : Nat := Nat.pow 2 63 * Duration.nanosPerSecond

def farAhead : Duration := Duration.ofSeconds 946080000

/-- The deadline of a wait that begins now: `span` later where the clock can hold that point, and
`farAhead` later where it cannot. -/
def deadlineAfter (now : Instant) (span : Duration) : Instant :=
  if (now + span).nanos < endOfClock then now + span else now + farAhead

end Instant

end LeaseQueue
