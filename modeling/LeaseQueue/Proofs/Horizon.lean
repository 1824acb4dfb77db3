import LeaseQueue.Proofs.Renewal
import LeaseQueue.Proofs.Return

/-!
Longer spans and later ends. A span that does not fit on the clock ends as far ahead as `farAhead`, and a
span that fits may reach further than that. This is the only way in which a longer span ends earlier.
-/

namespace LeaseQueue

namespace Instant

/-- The longer span does not fit on the clock, and the shorter one fits and is longer than `farAhead`. -/
def Overtakes (now : Instant) (shorter longer : Duration) : Prop :=
  farAhead < shorter ∧ (now + shorter).nanos < endOfClock ∧ endOfClock ≤ (now + longer).nanos

instance (now : Instant) (shorter longer : Duration) : Decidable (now.Overtakes shorter longer) :=
  inferInstanceAs (Decidable (_ ∧ _ ∧ _))

theorem deadlineAfter_of_exceeds {now : Instant} {span : Duration}
    (exceeds : endOfClock ≤ (now + span).nanos) : now.deadlineAfter span = now + farAhead :=
  if_neg (Nat.not_lt.mpr exceeds)

theorem deadlineAfter_le_iff (now : Instant) {shorter longer : Duration} (order : shorter ≤ longer) :
    now.deadlineAfter shorter ≤ now.deadlineAfter longer ↔ ¬ now.Overtakes shorter longer := by
  have sums : (now + shorter).nanos ≤ (now + longer).nanos := Nat.add_le_add_left order now.nanos
  by_cases longerFits : (now + longer).nanos < endOfClock
  · have shorterFits := Nat.lt_of_le_of_lt sums longerFits
    rw [deadlineAfter_of_fits shorterFits, deadlineAfter_of_fits longerFits]
    exact iff_of_true sums fun overtakes => Nat.not_lt.mpr overtakes.2.2 longerFits
  · have longerExceeds := Nat.not_lt.mp longerFits
    by_cases shorterFits : (now + shorter).nanos < endOfClock
    · rw [deadlineAfter_of_fits shorterFits, deadlineAfter_of_exceeds longerExceeds]
      have within : now + shorter ≤ now + farAhead ↔ shorter ≤ farAhead :=
        Nat.add_le_add_iff_left
      rw [within, Overtakes, and_iff_left ⟨shorterFits, longerExceeds⟩]
      exact Nat.not_lt.symm
    · have shorterExceeds := Nat.not_lt.mp shorterFits
      rw [deadlineAfter_of_exceeds shorterExceeds, deadlineAfter_of_exceeds longerExceeds]
      exact iff_of_true (Nat.le_refl _) fun overtakes => shorterFits overtakes.2.1

end Instant

/-- A lease that is there in the end and was granted, or last renewed to any effect, at some point for
some span. -/
structure Run.Runs (run : Run) (since : Instant) (span : Duration) (lease : Lease) : Prop where
  held : run.queue.store.lease? lease.token = some lease
  tenured : ∃ tenure, run.chronicle.Holds lease.token tenure ∧
    tenure.runsBy run.settings.renewPolicy = (since, span)

theorem Run.Runs.expiresAt_eq {run : Run} {since : Instant} {span : Duration} {lease : Lease}
    (runs : run.Runs since span lease) : lease.term.expiresAt = since.deadlineAfter span := by
  obtain ⟨held, tenure, holds, by_span⟩ := runs
  have known := run.recorded.lease?_eq_tenure lease.token
  rw [Chronicle.tenure?_eq_some_iff.mpr holds, held, Option.map_some, Option.some.injEq] at known
  have expires : lease.term.expiresAt = tenure.expiresAt run.settings.renewPolicy :=
    congrArg (fun lease => lease.term.expiresAt) known
  rw [expires, Tenure.expiresAt, by_span]

/-- The call returned with nothing, and this is when it had its last look. -/
structure Receiving.GivesUpAt (receiving : Receiving) (time : Instant) : Prop where
  attended : receiving.attended = true
  empty : ∃ scene, receiving.scene? = some scene ∧ scene.call.stage = .finished none
  last : receiving.looks.getLast?.map (fun look => look.now) = some time

theorem Receiving.GivesUpAt.eq_deadline {receiving : Receiving} {time : Instant}
    (givesUp : receiving.GivesUpAt time) : time = receiving.deadline := by
  obtain ⟨attended, ⟨scene, found, finished⟩, last⟩ := givesUp
  obtain ⟨earlier, look, outcome⟩ := outcome attended found finished
  rw [outcome.looks, List.getLast?_concat, Option.map_some, Option.some.injEq] at last
  cases outcome.concludes with
  | givesUp late => exact last.symm.trans late

/-- The longer of two spans from the same point does not end before the shorter one, except when it
alone goes beyond the clock and the other goes beyond `farAhead`. So, but for that, a lease for the longer
span still runs whenever one for the shorter span does, and a call gives up no earlier for waiting longer. -/
theorem longer_span_ends_later (now : Instant) {shorter longer : Duration} (order : shorter ≤ longer) :
    (now.deadlineAfter shorter ≤ now.deadlineAfter longer ↔ ¬ now.Overtakes shorter longer) ∧
    (¬ now.Overtakes shorter longer →
      (∀ (one other : Run) (first second : Lease), one.Runs now shorter first →
        other.Runs now longer second →
        ∀ time, first.term.isExpired time = false → second.term.isExpired time = false) ∧
      ∀ one other : Receiving, one.run.now = now → one.timeout = shorter →
        other.run.now = now → other.timeout = longer →
        ∀ sooner later, one.GivesUpAt sooner → other.GivesUpAt later → sooner ≤ later) := by
  refine ⟨now.deadlineAfter_le_iff order, fun regular => ?_⟩
  have later := (now.deadlineAfter_le_iff order).mpr regular
  refine ⟨?_, ?_⟩
  · intro one other first second runs alsoRuns time running
    simp only [Term.isExpired, decide_eq_false_iff_not, Instant.not_le] at running ⊢
    rw [runs.expiresAt_eq] at running
    rw [alsoRuns.expiresAt_eq]
    exact Nat.lt_of_lt_of_le running later
  · rintro one other began rfl alsoBegan rfl sooner last givesUp alsoGivesUp
    rw [givesUp.eq_deadline, alsoGivesUp.eq_deadline, Receiving.deadline, Receiving.deadline, began,
      alsoBegan]
    exact later

def Run.leasing (first second waited : Duration) : Run where
  system := {}
  name := "orders"
  settings := {}
  events :=
    let message (number : Nat) : Message :=
      { id := ⟨number⟩, correlationId := "c", kind := "job", payload := [] }
    [.call 0 (.send (message 0)), .call 0 (.send (message 1)), .call 0 (.take first),
      .call 0 (.take second), .pass waited]

def Receiving.idle (timeout waited : Duration) : Receiving where
  run := { system := {}, name := "orders", settings := { pollMillis := 946080000000 }, events := [] }
  numbered := .empty
  timeout
  events := [.turn 0, .turn 0, .turn 0, .pass waited, .turn 0, .turn 0, .turn 0]

-- `farAhead` itself is not overtaken by the longest span there is: both end at the same point.
theorem longer_span_ends_later_horizon :
    Instant.origin.deadlineAfter Instant.farAhead ≤ Instant.origin.deadlineAfter Duration.longest ∧
    (∃ first second : Lease,
      (Run.leasing Instant.farAhead Duration.longest ⟨0⟩).queue.store.leases = [first, second] ∧
      ∀ time, first.term.isExpired time = false → second.term.isExpired time = false) ∧
    (Receiving.idle Instant.farAhead Instant.farAhead).GivesUpAt (Instant.origin + Instant.farAhead) ∧
    ∀ later, (Receiving.idle Duration.longest Instant.farAhead).GivesUpAt later →
      Instant.origin + Instant.farAhead ≤ later := by
  have order : Instant.farAhead ≤ Duration.longest := by decide
  have regular : ¬ Instant.origin.Overtakes Instant.farAhead Duration.longest := by decide
  obtain ⟨deadlines, law⟩ := longer_span_ends_later .origin order
  obtain ⟨leases, calls⟩ := law regular
  have gone : (Receiving.idle Instant.farAhead Instant.farAhead).GivesUpAt
      (Instant.origin + Instant.farAhead) :=
    ⟨by decide, ⟨_, rfl, by decide⟩, by decide⟩
  refine ⟨deadlines.mpr regular, ⟨_, _, rfl, ?_⟩, gone, ?_⟩
  · refine leases (Run.leasing Instant.farAhead Duration.longest ⟨0⟩)
      (Run.leasing Instant.farAhead Duration.longest ⟨0⟩) _ _ ⟨rfl, ?_⟩ ⟨rfl, ?_⟩
    · exact ⟨_, Chronicle.tenure?_eq_some_iff.mp rfl, rfl⟩
    · exact ⟨_, Chronicle.tenure?_eq_some_iff.mp rfl, rfl⟩
  · intro later givesUp
    exact calls _ _ rfl rfl rfl rfl _ _ gone givesUp

/-- A lease for 2 ^ 40 seconds still runs when one for the longest span, granted at the same point, has
lapsed. -/
theorem longest_span_overtaken :
    (Instant.origin + Instant.farAhead).nanos < Instant.endOfClock ∧
    Duration.ofSeconds 1099511627776 ≤ Duration.longest ∧
    ¬ Instant.origin.deadlineAfter (.ofSeconds 1099511627776) ≤
      Instant.origin.deadlineAfter Duration.longest ∧
    ((Run.leasing (.ofSeconds 1099511627776) Duration.longest Instant.farAhead).queue.store.leases.map
      fun lease => lease.term.isExpired (Instant.origin + Instant.farAhead)) = [false, true] := by
  decide

end LeaseQueue
