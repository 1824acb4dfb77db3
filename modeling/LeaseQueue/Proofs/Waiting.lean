import LeaseQueue.Proofs.Scene

/-!
Letting time pass. What every turn keeps lasts while the tasks of a system take their turns, and a
system that runs until a limit has its clock there in the end.
-/

namespace LeaseQueue

namespace System

/-- What the turns of a system's tasks keep, whoever has the next one. -/
structure Steady (Holds : System → Prop) : Prop where
  running : ∀ {system : System} (running : Option Nat), Holds system → Holds { system with running }
  step : ∀ {system : System} {task : Task}, task ∈ system.tasks → Holds system →
    Holds (system.stepTask task)

structure Lasting (Holds : System → Prop) : Prop extends Steady Holds where
  clock : ∀ {system : System} (clock : Instant), Holds system → Holds { system with clock }

theorem mem_of_next? {system : System} {task : Task} (found : system.next? = some task) :
    task ∈ system.tasks := by
  unfold next? at found
  split at found
  · rename_i own chosen
    obtain ⟨named, -⟩ := Option.filter_eq_some_iff.mp chosen
    obtain ⟨id, -, listed⟩ := Option.bind_eq_some_iff.mp named
    exact Option.some.inj found ▸ List.mem_of_find?_eq_some listed
  · exact List.mem_of_find?_eq_some found

section Keeping

variable {Holds : System → Prop} {system : System} {done : System → Bool}

theorem Steady.settleWithin (steady : Steady Holds) (steps : Nat) (holds : Holds system) :
    Holds (System.settleWithin steps done system) := by
  induction steps generalizing system with
  | zero => exact holds
  | succ steps ih =>
      unfold System.settleWithin
      split
      · exact holds
      · split
        · exact holds
        · rename_i task found
          have listed := mem_of_next? found
          have member : task ∈ ({ system with running := some task.id } : System).tasks := listed
          exact ih (steady.step member (steady.running _ holds))

theorem Steady.settleUntil (steady : Steady Holds) (holds : Holds system) :
    Holds (system.settleUntil done) :=
  steady.settleWithin _ (steady.running none holds)

theorem Steady.turn (steady : Steady Holds) (id : Nat) (holds : Holds system) :
    Holds (system.turn id) := by
  unfold System.turn
  generalize system.stepBudget = steps
  induction steps generalizing system with
  | zero => exact holds
  | succ steps ih =>
      unfold System.turnWithin
      split
      · exact holds
      · rename_i task found
        obtain ⟨listed, -⟩ := Option.filter_eq_some_iff.mp found
        exact ih (steady.step (List.mem_of_find?_eq_some listed) holds)

theorem Lasting.runUntil (lasting : Lasting Holds) (own : Option Nat) (limit : Instant)
    (holds : Holds system) : Holds (system.runUntil done own limit) := by
  have turned (system : System) (holds : Holds system) : Holds ((own.map system.turn).getD system) := by
    cases own with
    | none => exact holds
    | some id => exact lasting.turn id holds
  fun_induction System.runUntil system done own limit with
  | case1 system => exact turned system holds
  | case2 system _ _ _ _ _ ih => exact ih (lasting.clock _ (lasting.settleUntil (turned system holds)))
  | case3 system => exact lasting.settleUntil (turned system holds)

end Keeping

theorem steady_clock (now : Instant) : Steady fun system => system.clock = now :=
  ⟨fun _ same => same, fun _ same => (stepTask_clock _ _).trans same⟩

theorem settle_clock (system : System) : system.settle.clock = system.clock :=
  (steady_clock system.clock).settleUntil rfl

theorem earliest_mem {ahead : List Instant} {start : Option Instant} {due : Instant}
    (found : ahead.foldl (fun earliest due => some ((earliest.map (min due)).getD due)) start =
      some due) : start = some due ∨ due ∈ ahead := by
  induction ahead generalizing start with
  | nil => exact .inl found
  | cons first ahead ih =>
      rcases ih found with chosen | member
      · cases start with
        | none => exact .inr (Option.some.inj chosen ▸ List.mem_cons_self)
        | some earliest =>
            simp only [Option.map_some, Option.getD_some, min] at chosen
            split at chosen
            · exact .inr (Option.some.inj chosen ▸ List.mem_cons_self)
            · exact .inl chosen
      · exact .inr (List.mem_cons_of_mem _ member)

theorem clock_lt_nextDue? {system : System} {due : Instant} (found : system.nextDue? = some due) :
    system.clock < due := by
  rcases earliest_mem found with none | member
  · simp at none
  · obtain ⟨task, -, waits⟩ := List.mem_filterMap.mp member
    simpa using (Option.filter_eq_some_iff.mp waits).2

/-- A system once its tasks have taken their turns and the clock has gone on to the next time at which
one of them wakes, or to the limit. -/
def passed (system : System) (limit : Instant) : System :=
  { system.settle with clock := (system.settle.nextDue?.map (min limit)).getD limit }

theorem passed_clock {system : System} {limit : Instant} (early : system.clock < limit) :
    system.clock < (system.passed limit).clock ∧ (system.passed limit).clock ≤ limit := by
  unfold passed
  cases found : system.settle.nextDue? with
  | none => exact ⟨early, Nat.le_refl _⟩
  | some due =>
      have later := clock_lt_nextDue? found
      rw [settle_clock] at later
      simp only [Option.map_some, Option.getD_some, min]
      split
      · exact ⟨early, Nat.le_refl _⟩
      · rename_i sooner
        exact ⟨later, Nat.le_of_not_le sooner⟩

theorem runUntil_of_le {system : System} {limit : Instant} (late : limit ≤ system.clock) :
    system.runUntil (fun _ => false) none limit = system := by
  rw [runUntil, dif_pos (.inr (Nat.not_lt.mpr late))]
  rfl

theorem runUntil_of_lt {system : System} {limit : Instant} (early : system.clock < limit) :
    system.runUntil (fun _ => false) none limit =
      (system.passed limit).runUntil (fun _ => false) none limit := by
  have goesOn : ¬ ((fun _ : System => false) ((Option.none.map system.turn).getD system) = true ∨
      ¬ system.clock < limit) := by simp [early]
  rw [runUntil, dif_neg goesOn, dif_pos ⟨Bool.false_ne_true, (passed_clock early).1⟩]
  rfl

theorem runUntil_reaches {Holds : System → Prop} {system : System} {limit : Instant}
    (passes : ∀ system, Holds system → system.clock < limit → Holds (system.passed limit))
    (holds : Holds system) (early : system.clock ≤ limit) :
    Holds (system.runUntil (fun _ => false) none limit) ∧
      (system.runUntil (fun _ => false) none limit).clock = limit := by
  generalize left : limit.nanos - system.clock.nanos = span
  induction span using Nat.strongRecOn generalizing system with
  | ind span ih =>
      by_cases sooner : system.clock < limit
      · obtain ⟨further, within⟩ := passed_clock sooner
        rw [runUntil_of_lt sooner]
        refine ih (limit.nanos - (system.passed limit).clock.nanos) ?_ (passes system holds sooner)
          within rfl
        exact left ▸ Nat.sub_lt_sub_left sooner further
      · have there : limit ≤ system.clock := Nat.not_lt.mp sooner
        rw [runUntil_of_le there]
        exact ⟨holds, congrArg Instant.mk (Nat.le_antisymm early there)⟩

end System

end LeaseQueue
