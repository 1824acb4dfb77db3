import LeaseQueue.Message

/-!
Leases. A term says until when a message stays hidden from other receivers; a lease is a term on a
received message that is not settled yet.
-/

namespace LeaseQueue

/-- For how long a lease was granted, and the point at which it lapses. -/
structure Term where
  timeout : Duration
  expiresAt : Instant
deriving DecidableEq, Inhabited

namespace Term

def grant (timeout : Duration) (now : Instant) : Term := ⟨timeout, now.deadlineAfter timeout⟩

def isExpired (term : Term) (now : Instant) : Bool := term.expiresAt ≤ now

/-- A term that has not lapsed runs anew from now, for the given time; a lapsed one stays as it is. -/
def renew (term : Term) (timeout : Duration) (now : Instant) : Term :=
  if term.isExpired now then term else grant timeout now

end Term

structure Lease where
  token : Token
  message : Message
  term : Term
deriving DecidableEq, Inhabited

end LeaseQueue
