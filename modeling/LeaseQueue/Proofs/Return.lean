import LeaseQueue.Proofs.Arriving

/-!
How a receiving call ends. Left to itself it comes to its deadline and returns, and nobody can hold it up
beyond that. Until it gets a message, everything else is as if it had not begun.
-/

namespace LeaseQueue

namespace Reception

variable {scene : Scene} {began : Instant} {timeout : Duration} {looks : List Scene}

theorem Scene.next_queue_of_vain (scene : Scene)
    (vain : scene.looks = true → scene.queue.store.pending = []) : scene.next.queue = scene.queue := by
  have advanced := scene.advance
  generalize scene.next = next at advanced
  obtain ⟨call, queue, now⟩ := next
  cases advanced with
  | takes registered taken =>
      obtain ⟨_, _, head, _⟩ := Queue.take?_eq_some taken
      simp [vain (Scene.looks_of_registered registered)] at head
  | _ => rfl

theorem Scene.Standing.vain (standing : scene.Standing began timeout looks)
    (without : scene.call.message? = none) : ∀ look ∈ looks, look.queue.store.pending = [] := by
  cases standing with
  | unstarted => simp
  | waiting underWay => exact underWay.inVain.empty
  | finished stage returned inVain fresh after concludes =>
      intro look member
      rcases List.mem_append.mp member with early | last
      · exact inVain.empty look early
      · cases concludes with
        | takes => simp [message?, stage] at without
        | givesUp late empty => exact List.mem_singleton.mp last ▸ empty

theorem Scene.Standing.inVain (standing : scene.Standing began timeout looks)
    (unfinished : scene.call.isFinished = false) : InVain looks began (began.deadlineAfter timeout) := by
  cases standing with
  | unstarted => exact ⟨by simp, by simp, by simp⟩
  | waiting underWay => exact underWay.inVain
  | finished stage => simp [isFinished, stage] at unfinished

theorem Scene.Standing.in_time (standing : scene.Standing began timeout looks)
    (unfinished : scene.call.isFinished = false) : scene.now ≤ began.deadlineAfter timeout := by
  cases standing with
  | unstarted call now => exact now ▸ Instant.le_deadlineAfter began timeout
  | waiting underWay => exact underWay.before
  | finished stage => simp [isFinished, stage] at unfinished

theorem Scene.Standing.rests (standing : scene.Standing began timeout looks)
    (still : scene.call.isReady scene.queue scene.now = false) :
    (∃ result, scene.call.stage = .finished result) ∨
      ∃ wakeAt, scene.call.wakeAt? = some wakeAt ∧ scene.now < wakeAt ∧
        wakeAt ≤ began.deadlineAfter timeout := by
  cases standing with
  | unstarted call => simp [call, Reception.later, isReady] at still
  | finished stage => exact .inl ⟨_, stage⟩
  | waiting underWay =>
      cases stage : scene.call.stage with
      | finished result => exact .inl ⟨result, rfl⟩
      | parked arrivals wakeAt =>
          have ahead : scene.now < wakeAt := by
            simp only [isReady, stage, Bool.or_eq_false_iff, decide_eq_false_iff_not] at still
            exact Nat.not_le.mp still.2
          refine .inr ⟨wakeAt, by simp [wakeAt?, stage], ahead, ?_⟩
          exact underWay.timed.deadline_eq ▸ underWay.timed.wakes arrivals wakeAt stage
      | _ => simp [isReady, stage] at still

end Reception

namespace Receiving

variable {receiving : Receiving} {scene : Reception.Scene}

theorem turn_without (found : receiving.scene? = some scene)
    (vain : scene.looks = true → scene.queue.store.pending = []) :
    (receiving.final.after (.turn receiving.id)).without receiving.id =
      receiving.final.without receiving.id := by
  obtain ⟨task, sameQueue, sameTime⟩ := scene?_eq_some.mp found
  have turned : receiving.final.after (.turn receiving.id) =
      receiving.final.stepTask ⟨receiving.id, receiving.index, .receive scene.call⟩ := by
    simp [System.after, task]
  have held : receiving.final.queue? receiving.index = some scene.queue :=
    final_queue?.trans (congrArg some sameQueue)
  have clock : receiving.final.clock = scene.now := sameTime
  rw [turned]
  refine System.receive_without_own held ?_
  rw [clock]
  exact scene.next_queue_of_vain vain

theorem without_eq (vain : ∀ look ∈ receiving.looks, look.queue.store.pending = []) :
    receiving.final.without receiving.id =
      (receiving.run.further (receiving.events.filterMap (System.Event.without receiving.id))).final := by
  have before : receiving.begun.final.without receiving.id = receiving.run.final := by
    rw [begun_final]
    exact System.spawn_without_own numbered_final _ _
  rw [final_eq, Run.further_final, ← before]
  refine System.run_without _ begun_spawned fun early within => ?_
  rw [← further_final]
  cases present : (receiving.begun.further early).scene? with
  | none =>
      have gone : (receiving.begun.further early).final.task? receiving.id = none :=
        task?_of_absent present
      rw [System.after_turn_of_absent gone]
  | some scene =>
      exact turn_without present fun looks =>
        vain scene (mem_looks.mpr ⟨early, within, present, looks⟩)

theorem scene_pass (span : Duration) (present : receiving.scene? = some scene) :
    (receiving.further [.pass span]).scene? = some (scene.later span) := by
  obtain ⟨task, sameQueue, sameTime⟩ := scene?_eq_some.mp present
  refine scene?_eq_some.mpr ⟨?_, ?_, ?_⟩
  · rw [further_id, final_after, System.task?_after _ _ final_spawned]
    exact task
  · exact (queue_after _).trans sameQueue
  · rw [Run.now, ← final, final_after]
    exact congrArg (· + span) sameTime

def IsOwn (receiving : Receiving) (event : System.Event) : Prop :=
  event = .turn receiving.id ∨ ∃ span, event = .pass span

structure Leads (receiving : Receiving) (more : List System.Event) (last : Reception.Scene) : Prop where
  own : ∀ event ∈ more, receiving.IsOwn event
  attended : (receiving.further more).attended = true
  found : (receiving.further more).scene? = some last

theorem Leads.append {first second : List System.Event} {last : Reception.Scene}
    (leads : receiving.Leads first scene) (afterwards : (receiving.further first).Leads second last) :
    receiving.Leads (first ++ second) last := by
  have whole := receiving.further_further first second
  refine ⟨?_, whole ▸ afterwards.attended, whole ▸ afterwards.found⟩
  intro event member
  exact (List.mem_append.mp member).elim (leads.own event) (afterwards.own event)

theorem leads_turn (attended : receiving.attended = true) (present : receiving.scene? = some scene) :
    receiving.Leads [.turn receiving.id] scene.next := by
  refine ⟨?_, ?_, scene_turn present⟩
  · intro event member
    exact .inl (List.mem_singleton.mp member)
  · rw [attended_further, attended]
    rfl

theorem leads_pass (attended : receiving.attended = true) (present : receiving.scene? = some scene)
    {span : Duration} (waits : scene.waits span = true) :
    receiving.Leads [.pass span] (scene.later span) := by
  refine ⟨?_, ?_, scene_pass span present⟩
  · intro event member
    exact .inr ⟨span, List.mem_singleton.mp member⟩
  · have seen : receiving.final.receptionScene? receiving.index receiving.id = some scene := present
    simp [attended_further, attended, System.sparesCall, seen, waits]

theorem leads_to_rest {call : Reception} {queue : Queue} {now : Instant}
    (settles : call.Settles now queue) (attended : receiving.attended = true)
    (present : receiving.scene? = some ⟨call, queue, now⟩) :
    ∃ more last, receiving.Leads more last ∧ last.now = now ∧
      last.call.isReady last.queue last.now = false := by
  induction settles generalizing receiving with
  | @rests call queue still =>
      have same : receiving.further [] = receiving := by simp [further]
      exact ⟨[], ⟨call, queue, now⟩, ⟨by simp, same.symm ▸ attended, same.symm ▸ present⟩, rfl, still⟩
  | turns settles ih =>
      have turn := leads_turn attended present
      obtain ⟨more, last, leads, sameTime, still⟩ := ih turn.attended turn.found
      exact ⟨_, last, turn.append leads, sameTime, still⟩

theorem waits_until {wakeAt : Instant} (still : scene.call.isReady scene.queue scene.now = false)
    (sleeps : scene.call.wakeAt? = some wakeAt) (ahead : scene.now < wakeAt) :
    scene.waits (wakeAt - scene.now) = true := by
  have reached : scene.now + (wakeAt - scene.now) = wakeAt :=
    Instant.eq_iff.mpr (Nat.add_sub_of_le (Nat.le_of_lt ahead))
  simp [Reception.Scene.waits, still, sleeps, reached, Instant.le_iff]

theorem leads_to_return (polls : 0 < receiving.run.settings.pollInterval.nanos)
    (attended : receiving.attended = true) (present : receiving.scene? = some scene) :
    ∃ more last result, receiving.Leads more last ∧ last.call.stage = .finished result := by
  generalize left : receiving.deadline.nanos - scene.now.nanos = remaining
  induction remaining using Nat.strongRecOn generalizing receiving scene with
  | ind remaining ih =>
      have interval : 0 < scene.queue.settings.pollInterval.nanos :=
        settings_of_scene present ▸ polls
      -- The call takes its turns until it has to wait, and then time passes up to where it wakes.
      obtain ⟨turns, last, leads, sameTime, still⟩ :=
        leads_to_rest (Reception.settles interval scene.call scene.now) attended present
      rcases (standing leads.attended leads.found).rests still with ⟨result, finished⟩ | sleeping
      · exact ⟨turns, last, result, leads, finished⟩
      obtain ⟨wakeAt, sleeps, ahead, bound⟩ := sleeping
      have passes := leads_pass leads.attended leads.found (waits_until still sleeps ahead)
      have less : receiving.deadline.nanos - (last.later (wakeAt - last.now)).now.nanos < remaining := by
        have limit : wakeAt.nanos ≤ receiving.deadline.nanos := bound
        simp only [Reception.Scene.later, Instant.add_nanos, Instant.sub_nanos, Instant.lt_iff,
          ← sameTime] at ahead left ⊢
        omega
      let waited := (receiving.further turns).further [.pass (wakeAt - last.now)]
      have polls : 0 < waited.run.settings.pollInterval.nanos := polls
      obtain ⟨more, final, result, returns, finished⟩ :=
        ih _ less polls passes.attended passes.found rfl
      exact ⟨_, final, result, leads.append (passes.append returns), finished⟩

/-- How a call came to return, from its looks and from what has arrived. -/
structure Outcome (receiving : Receiving) (result : Option Message) (earlier : List Reception.Scene)
    (look : Reception.Scene) : Prop where
  looks : receiving.looks = earlier ++ [look]
  inVain : Reception.InVain earlier receiving.run.now receiving.deadline
  atOnce : earlier = [] → look.now = receiving.run.now
  after : receiving.run.now ≤ look.now
  returned : look.next.call.stage = .finished result
  concludes : Reception.Concludes look receiving.timeout receiving.deadline result
  once : receiving.timeout.nanos = 0 → receiving.run.now.nanos < Instant.endOfClock → earlier = []
  first : receiving.Uncontested → ∀ message, result = some message →
    ∃ sent, receiving.arrived.head? = some (look.now, sent) ∧ look.queue.store.pending.head? = some sent
  nothing : receiving.Uncontested → result = none →
    receiving.run.queue.store.pending = [] ∧ ∀ entry ∈ receiving.arrived, receiving.deadline ≤ entry.1

theorem deadline_of_zero (zero : receiving.timeout.nanos = 0)
    (onClock : receiving.run.now.nanos < Instant.endOfClock) : receiving.deadline = receiving.run.now := by
  have same : receiving.run.now + receiving.timeout = receiving.run.now :=
    Instant.eq_iff.mpr (by rw [Instant.add_nanos, zero, Nat.add_zero])
  rw [deadline, Instant.deadlineAfter_of_fits (same.symm ▸ onClock), same]

theorem outcome (attended : receiving.attended = true) (found : receiving.scene? = some scene)
    {result : Option Message} (finished : scene.call.stage = .finished result) :
    ∃ earlier look, receiving.Outcome result earlier look := by
  have stands := standing attended found
  generalize sameLooks : receiving.looks = looks at stands
  cases stands with
  | unstarted call => simp [call, Reception.later] at finished
  | waiting underWay => simpa [Reception.isFinished, finished] using underWay.timed.unfinished
  | @finished earlier look other stage returned inVain atOnce after concludes =>
      obtain rfl := Reception.Stage.finished.inj (finished.symm.trans stage)
      have looked : look ∈ receiving.looks := by simp [sameLooks]
      refine ⟨earlier, look, sameLooks, inVain, atOnce, after, returned, concludes, ?_, ?_, ?_⟩
      · intro zero onClock
        cases earlier with
        | nil => rfl
        | cons first others =>
            have early := inVain.early first List.mem_cons_self
            rw [inVain.first first rfl, ← deadline, deadline_of_zero zero onClock] at early
            exact absurd early (Nat.lt_irrefl _)
      · rintro uncontested message rfl
        obtain ⟨-, later, arrived, -⟩ := arrived_of_look attended uncontested looked
        cases concludes with
        | @takes _ sent rest _ pending =>
            refine ⟨sent, ?_, ?_⟩
            · rw [arrived, pending]
              rfl
            · rw [pending]
              rfl
      · rintro uncontested rfl
        obtain ⟨still, later, arrived, afterwards⟩ := arrived_of_look attended uncontested looked
        cases concludes with
        | givesUp late empty =>
            refine ⟨List.prefix_nil.mp (empty ▸ still), fun entry member => ?_⟩
            rw [arrived, empty] at member
            have atDeadline : look.now = receiving.deadline := late
            exact atDeadline ▸ afterwards entry member

theorem returns_at_once {first : Message} {rest : List Message}
    (pending : receiving.run.queue.store.pending = first :: rest) :
    ∃ last, (receiving.begun.further (List.replicate 3 (.turn receiving.id))).scene? = some last ∧
      last.now = receiving.run.now ∧
      last.call.stage = .finished (some (first.withToken receiving.run.queue.store.nextToken)) := by
  have turns := scene_turn (scene_turn (scene_turn receiving.begun_scene))
  rw [further_further, further_further] at turns
  refine ⟨_, turns, rfl, ?_⟩
  simp [Reception.Scene.next, Reception.step, Reception.later, Reception.start, Reception.look,
    Queue.take?_of_pending pending]

end Receiving

/-- A receiving call that gets its turns in time returns by its deadline, whatever else happens: with what
was pending first at a look, or with nothing at the deadline. Until then it changes nothing. -/
theorem receive_keeps_its_time (receiving : Receiving)
    (polls : .ofMillis 1 ≤ receiving.run.settings.pollInterval) (attended : receiving.attended = true)
    {scene : Reception.Scene} (found : receiving.scene? = some scene) :
    (∃ more last result, receiving.Leads more last ∧ last.call.stage = .finished result) ∧
    (receiving.deadline < scene.now → scene.call.isFinished = true) ∧
    (∃ slices, receiving.run.now.nanos + slices * receiving.run.settings.pollInterval.nanos ≤
        scene.now.nanos ∧
      receiving.looks.length + receiving.run.queue.arrivals ≤ slices + scene.queue.arrivals + 2) ∧
    (scene.call.isFinished = false →
      Reception.InVain receiving.looks receiving.run.now receiving.deadline) ∧
    (∀ result, scene.call.stage = .finished result →
      ∃ earlier look, receiving.Outcome result earlier look) ∧
    (∀ first rest, receiving.run.queue.store.pending = first :: rest →
      ∃ last, (receiving.begun.further (List.replicate 3 (.turn receiving.id))).scene? = some last ∧
        last.now = receiving.run.now ∧
        last.call.stage = .finished (some (first.withToken receiving.run.queue.store.nextToken))) ∧
    (scene.call.message? = none →
      let others := System.Event.without receiving.id
      scene.queue = (receiving.run.further (receiving.events.filterMap others)).queue ∧
      ∀ more, (receiving.further (.drop receiving.id :: more)).final.without receiving.id =
        (receiving.run.further ((receiving.events ++ more).filterMap others)).final) := by
  have positive : 0 < receiving.run.settings.pollInterval.nanos := Nat.lt_of_lt_of_le (by decide) polls
  have stands := Receiving.standing attended found
  refine ⟨Receiving.leads_to_return positive attended found, ?_, ?_, stands.inVain, ?_, ?_, ?_⟩
  · intro late
    refine Classical.byContradiction fun unfinished => ?_
    exact Nat.not_lt.mpr (stands.in_time (Bool.not_eq_true _ ▸ unfinished)) late
  · obtain ⟨slices, paced⟩ := Receiving.paced found
    exact ⟨slices, paced.elapsed, paced.looks_le (Receiving.informed found)⟩
  · intro result finished
    exact Receiving.outcome attended found finished
  · intro first rest pending
    exact Receiving.returns_at_once pending
  · intro without others
    have vain := stands.vain without
    refine ⟨?_, fun more => ?_⟩
    · have apart : (receiving.final.without receiving.id).queue receiving.index = _ :=
        congrArg (fun system => System.queue system receiving.index) (Receiving.without_eq vain)
      rw [← (Receiving.scene?_eq_some.mp found).2.1]
      exact apart
    · have dropped := Receiving.without_eq (Receiving.looks_of_dropped more ▸ vain)
      have events : (receiving.events ++ .drop receiving.id :: more).filterMap others =
          (receiving.events ++ more).filterMap others := by
        simp [others, List.filterMap_append, System.Event.without]
      rw [← events]
      exact dropped

namespace Receiving

def beaten : Receiving where
  run :=
    { system := {}, name := "orders", settings := { pollMillis := 100 }, events := [.call 0 .openUp] }
  numbered := .empty
  timeout := .ofMillis 350
  events :=
    let message (number : Nat) : Message :=
      { id := ⟨number⟩, correlationId := "c", kind := "job", payload := [] }
    [.turn 0, .turn 0, .turn 0, .pass (.ofMillis 40),
      .call 0 (.send (message 0)), .call 0 (.take (.ofSeconds 1)), .turn 0, .turn 0, .turn 0,
      .pass (.ofMillis 100), .turn 0, .turn 0, .turn 0, .pass (.ofMillis 10),
      .call 0 (.send (message 1)), .turn 0, .turn 0, .turn 0]

end Receiving

theorem receive_keeps_its_time_beaten :
    ∃ message earlier look, Receiving.beaten.Outcome (some message) earlier look ∧
      earlier.map (fun vain => vain.now) = [⟨0⟩, ⟨40000000⟩, ⟨140000000⟩] ∧ look.now = ⟨150000000⟩ ∧
      message.id = ⟨1⟩ := by
  have found : ∃ scene message, Receiving.beaten.scene? = some scene ∧
      scene.call.stage = .finished (some message) ∧ message.id = ⟨1⟩ := ⟨_, _, rfl, rfl, rfl⟩
  obtain ⟨scene, message, found, finished, second⟩ := found
  have law := receive_keeps_its_time .beaten (by decide) (by decide) found
  obtain ⟨earlier, look, outcome⟩ := law.2.2.2.2.1 _ finished
  have times : Receiving.beaten.looks.map (fun look => look.now) =
      [⟨0⟩, ⟨40000000⟩, ⟨140000000⟩, ⟨150000000⟩] := by decide
  rw [outcome.looks, List.map_append] at times
  have split : earlier.map (fun vain => vain.now) ++ [look.now] =
      [⟨0⟩, ⟨40000000⟩, ⟨140000000⟩] ++ [⟨150000000⟩] := times
  obtain ⟨vain, last⟩ := List.append_inj' split rfl
  exact ⟨message, earlier, look, outcome, vain, List.singleton_inj.mp last, second⟩

end LeaseQueue
