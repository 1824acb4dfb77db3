import LeaseQueue.Time

/-!
Order on points of a clock, and where deadlines lie.
-/

namespace LeaseQueue

namespace Duration

theorem min_nanos (first second : Duration) :
    (min first second).nanos = min first.nanos second.nanos := by
  change (if first ≤ second then first else second).nanos = _
  by_cases order : first ≤ second
  · rw [if_pos order]
    exact (Nat.min_eq_left order).symm
  · rw [if_neg order]
    exact (Nat.min_eq_right (Nat.le_of_not_le order)).symm

end Duration

namespace Instant

theorem le_iff {first second : Instant} : first ≤ second ↔ first.nanos ≤ second.nanos := Iff.rfl

theorem lt_iff {first second : Instant} : first < second ↔ first.nanos < second.nanos := Iff.rfl

theorem eq_iff {first second : Instant} : first = second ↔ first.nanos = second.nanos := by
  cases first
  cases second
  simp

theorem add_nanos (now : Instant) (span : Duration) : (now + span).nanos = now.nanos + span.nanos := rfl

theorem sub_nanos (last first : Instant) : (last - first).nanos = last.nanos - first.nanos := rfl

theorem max_nanos (first second : Instant) :
    (max first second).nanos = max first.nanos second.nanos := by
  change (if first ≤ second then second else first).nanos = _
  by_cases order : first ≤ second
  · rw [if_pos order]
    exact (Nat.max_eq_right order).symm
  · rw [if_neg order]
    exact (Nat.max_eq_left (Nat.le_of_not_le order)).symm

theorem deadlineAfter_of_fits {now : Instant} {span : Duration}
    (fits : (now + span).nanos < endOfClock) : now.deadlineAfter span = now + span :=
  if_pos fits

theorem lt_deadlineAfter (now : Instant) {span : Duration} (positive : 0 < span.nanos) :
    now < now.deadlineAfter span := by
  unfold deadlineAfter
  split
  · exact Nat.lt_add_of_pos_right positive
  · exact Nat.lt_add_of_pos_right (by decide)

end Instant

end LeaseQueue
