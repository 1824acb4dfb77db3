import LeaseQueue.Proofs.Patience

/-!
What arrives while a call waits. As long as nobody else takes a message from the queue, what is pending is
what was pending when the call began and all that was appended since; and no time passes between an arrival
and the look that finds it.
-/

namespace LeaseQueue

def Deed.takesAway : Deed → Bool
  | .granted _ _ _ | .cleared _ _ => true
  | .sent _ | .renewed _ _ | .returned _ _ | .ended _ _ => false

def Deed.appended? : Deed → Option Message
  | .sent message | .returned _ message => some message
  | .granted _ _ _ | .renewed _ _ | .ended _ _ | .cleared _ _ => none

namespace Chronicle

def appended (chronicle : Chronicle) : List (Instant × Message) :=
  chronicle.filterMap fun entry => entry.2.appended?.map fun message => (entry.1, message)

theorem appended_append (first second : Chronicle) :
    (first ++ second).appended = first.appended ++ second.appended :=
  List.filterMap_append

theorem time_of_mem_appended {chronicle : Chronicle} {entry : Instant × Message}
    (member : entry ∈ chronicle.appended) : ∃ deed, (entry.1, deed) ∈ chronicle := by
  obtain ⟨⟨now, deed⟩, listed, appends⟩ := List.mem_filterMap.mp member
  obtain ⟨message, -, rfl⟩ := Option.map_eq_some_iff.mp appends
  exact ⟨deed, listed⟩

end Chronicle

theorem Store.Step.pending_of_keeping {policy : RenewPolicy} {now : Instant} {before after : Store}
    {deed : Deed} (step : before.Step policy now deed after) (keeps : deed.takesAway = false) :
    after.pending = before.pending ++ deed.appended?.toList := by
  cases step with
  | sent | returned => rfl
  | granted | cleared => simp [Deed.takesAway] at keeps
  | renewed | missed | ended => exact (List.append_nil _).symm

theorem Queue.pending_of_keeping {queue : Queue} {history : List (Instant × Operation)}
    (keeps : ∀ entry ∈ queue.chronicle history, entry.2.takesAway = false) :
    (queue.after history).store.pending =
      queue.store.pending ++ (queue.chronicle history).appended.map Prod.snd := by
  induction history generalizing queue with
  | nil => simp [after, chronicle, Chronicle.appended]
  | cons moment rest ih =>
      obtain ⟨now, operation⟩ := moment
      have stored := (operation.perform_effect queue now).store
      have others := ih fun entry member => keeps entry (List.mem_append_right _ member)
      change ((operation.perform queue now).after rest).store.pending = _
      rw [others, chronicle, Chronicle.appended_append, List.map_append, ← List.append_assoc]
      congr 1
      cases done : operation.deed? queue now with
      | none =>
          rw [done] at stored
          have same : (operation.perform queue now).store = queue.store := stored
          simp [same, Chronicle.appended]
      | some deed =>
          rw [done] at stored
          have first : (now, deed) ∈ queue.chronicle ((now, operation) :: rest) := by
            simp [chronicle, done]
          have step : queue.store.Step queue.settings.renewPolicy now deed
            (operation.perform queue now).store := stored
          rw [step.pending_of_keeping (keeps _ first)]
          cases appends : deed.appended? <;> simp [Chronicle.appended, appends]

theorem Reception.Scene.unfinished_of_next (scene : Reception.Scene)
    (unfinished : scene.next.call.isFinished = false) : scene.call.isFinished = false := by
  cases stage : scene.call.stage with
  | finished => simp [next, step, stage, isFinished] at unfinished
  | _ => simp [isFinished, stage]

namespace Receiving

variable {receiving : Receiving} {scene : Reception.Scene}

def since (receiving : Receiving) : Chronicle :=
  receiving.run.queue.chronicle (receiving.run.final.history receiving.index
    (.receive receiving.index receiving.timeout :: receiving.events))

/-- The messages that the call could have had so far, each with the time from which on. -/
def arrived (receiving : Receiving) : List (Instant × Message) :=
  receiving.run.queue.store.pending.map (fun message => (receiving.run.now, message)) ++
    receiving.since.appended

/-- Nobody takes a message from the queue while the call waits. -/
def Uncontested (receiving : Receiving) : Prop :=
  ∀ early scene, early <+: receiving.events → (receiving.begun.further early).scene? = some scene →
    scene.call.isFinished = false →
      ∀ entry ∈ (receiving.begun.further early).since, entry.2.takesAway = false

theorem whole_queue : receiving.whole.queue = receiving.run.queue.after
    (receiving.run.final.history receiving.index
      (.receive receiving.index receiving.timeout :: receiving.events)) :=
  receiving.run.further_queue _

theorem since_further (more : List System.Event) : (receiving.further more).since =
    receiving.since ++
      receiving.whole.queue.chronicle (receiving.final.history receiving.index more) := by
  have whole : (receiving.further more).since =
      receiving.run.queue.chronicle (receiving.run.final.history receiving.index
        ((.receive receiving.index receiving.timeout :: receiving.events) ++ more)) := rfl
  rw [whole, System.history_append, Queue.chronicle_append, ← whole_queue, ← Run.further_final]
  rfl

theorem arrived_further (more : List System.Event) : (receiving.further more).arrived =
    receiving.arrived ++ (receiving.whole.queue.chronicle
      (receiving.final.history receiving.index more)).appended := by
  rw [arrived, since_further, Chronicle.appended_append, ← List.append_assoc]
  rfl

theorem now_le_of_appended {more : List System.Event} {entry : Instant × Message}
    (member : entry ∈ (receiving.whole.queue.chronicle
      (receiving.final.history receiving.index more)).appended) : receiving.whole.now ≤ entry.1 := by
  obtain ⟨deed, listed⟩ := Chronicle.time_of_mem_appended member
  obtain ⟨moment, within, sameTime⟩ := Queue.time_of_mem_chronicle listed
  rw [← sameTime]
  exact System.clock_le_of_mem_history within

theorem time_of_appended (found : receiving.scene? = some scene) {event : System.Event}
    {entry : Instant × Message} (member : entry ∈ (receiving.whole.queue.chronicle
      (receiving.final.history receiving.index [event])).appended) : entry.1 = scene.now := by
  obtain ⟨deed, listed⟩ := Chronicle.time_of_mem_appended member
  obtain ⟨moment, within, sameTime⟩ := Queue.time_of_mem_chronicle listed
  simp only [System.history, List.append_nil, List.mem_map] at within
  obtain ⟨operation, -, rfl⟩ := within
  exact sameTime.symm.trans (scene?_eq_some.mp found).2.2

theorem pending_eq_arrived (keeps : ∀ entry ∈ receiving.since, entry.2.takesAway = false) :
    receiving.whole.queue.store.pending = receiving.arrived.map Prod.snd := by
  rw [whole_queue, Queue.pending_of_keeping keeps, arrived, List.map_append, List.map_map]
  exact congrArg (· ++ receiving.since.appended.map Prod.snd) (List.map_id _).symm

theorem arrived_of_waits (keeps : ∀ entry ∈ receiving.since, entry.2.takesAway = false)
    (found : receiving.scene? = some scene) (unfinished : scene.call.isFinished = false) {span : Duration}
    (waits : scene.waits span = true) : receiving.arrived = [] := by
  simp only [Reception.Scene.waits, Bool.and_eq_true, Bool.not_eq_true'] at waits
  have parked : (Waiter.calling scene.call).isParked = true := by
    cases stage : scene.call.stage <;>
      simp_all [Reception.isReady, Reception.isFinished, Waiter.isParked]
  -- A parked call has word of whatever is pending, and with that it would not have waited.
  have unwoken : (Waiter.calling scene.call).isWoken scene.queue ≠ true := fun woken => by
    have ready := Waiter.isReady_of_woken parked woken scene.now
    exact Bool.false_ne_true (waits.1.symm.trans ready)
  have empty : scene.queue.store.pending = [] := Classical.byContradiction fun pending =>
    ((informed found).alerted (Waiter.isEmptyHanded_of_parked parked) pending).elim False.elim unwoken
  rw [← (scene?_eq_some.mp found).2.1, pending_eq_arrived keeps] at empty
  exact List.map_eq_nil_iff.mp empty

theorem begun_arrived : receiving.begun.arrived =
    receiving.run.queue.store.pending.map fun message => (receiving.run.now, message) := by
  have begins : receiving.begun.since = [] := rfl
  rw [arrived, begins]
  exact List.append_nil _

theorem arrived_now (attended : receiving.attended = true) (uncontested : receiving.Uncontested)
    (found : receiving.scene? = some scene) (unfinished : scene.call.isFinished = false) :
    ∀ entry ∈ receiving.arrived, entry.1 = scene.now := by
  refine carried (fun sofar scene => scene.call.isFinished = false →
    ∀ entry ∈ sofar.arrived, entry.1 = scene.now) ?_ ?_ found unfinished
  · rintro - entry member
    rw [begun_arrived] at member
    obtain ⟨message, -, rfl⟩ := List.mem_map.mp member
    rfl
  · intro early event within before looks next present moved more fresh unfinished entry member
    rw [← further_further, arrived_further] at member
    have sofar : before.call.isFinished = false →
        ∀ entry ∈ (receiving.begun.further early).since, entry.2.takesAway = false :=
      uncontested early before ((List.prefix_append _ _).trans within) present
    rcases List.mem_append.mp member with old | new
    · cases moved with
      | turn => exact fresh (before.unfinished_of_next unfinished) entry old
      | others => exact fresh unfinished entry old
      | time span passes =>
          have none := arrived_of_waits (sofar unfinished) present unfinished
            (waits_of_attended attended (passes ▸ within) present)
          simp [none] at old
    · have sameTime := time_of_appended present new
      cases moved with
      | turn | others => exact sameTime
      | time span passes => simp [passes, System.history, System.operations, Queue.chronicle,
          Chronicle.appended] at new

theorem Uncontested.early (uncontested : receiving.Uncontested) {early : List System.Event}
    (within : early <+: receiving.events) : (receiving.begun.further early).Uncontested :=
  fun sofar scene reached => uncontested sofar scene (reached.trans within)

theorem arrived_of_look (attended : receiving.attended = true) (uncontested : receiving.Uncontested)
    {look : Reception.Scene} (looked : look ∈ receiving.looks) :
    receiving.run.queue.store.pending <+: look.queue.store.pending ∧
    ∃ later, receiving.arrived =
        look.queue.store.pending.map (fun message => (look.now, message)) ++ later ∧
      ∀ entry ∈ later, look.now ≤ entry.1 := by
  obtain ⟨early, within, found, looks⟩ := mem_looks.mp looked
  have reached : early <+: receiving.events := (List.prefix_append _ _).trans within
  have unfinished : look.call.isFinished = false := by
    cases stage : look.call.stage <;>
      simp_all [Reception.Scene.looks, Reception.isFinished]
  have fresh := arrived_now (attended_early attended reached) (uncontested.early reached) found unfinished
  have keeps := uncontested early look reached found unfinished
  have pending := pending_eq_arrived keeps
  obtain ⟨-, sameQueue, sameTime⟩ := scene?_eq_some.mp found
  have sofar : (receiving.begun.further early).arrived =
      look.queue.store.pending.map fun message => (look.now, message) := by
    rw [← sameQueue, pending, List.map_map]
    refine ((List.map_congr_left ?_).trans (List.map_id _)).symm
    intro entry member
    exact Prod.ext (fresh entry member).symm rfl
  have still : receiving.run.queue.store.pending <+: look.queue.store.pending := by
    rw [← sameQueue, whole_queue, Queue.pending_of_keeping keeps]
    exact List.prefix_append _ _
  refine ⟨still, ?_⟩
  obtain ⟨late, split⟩ := reached
  have whole : (receiving.begun.further early).further late = receiving := by
    rw [further_further, split, begun_further]
  rw [← whole, arrived_further, sofar]
  refine ⟨_, rfl, fun entry member => ?_⟩
  exact sameTime ▸ now_le_of_appended member

end Receiving

end LeaseQueue
