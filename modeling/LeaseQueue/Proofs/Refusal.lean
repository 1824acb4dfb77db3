import LeaseQueue.Proofs.Absence
import LeaseQueue.Proofs.Listening

/-!
Listeners that are refused. A listener that finds its queue closed ends with a fault. All that it has done
by then is to take back a request to stop, as every listener does when it begins; everything else goes
on as if a client had done that and no listener had begun.
-/

namespace LeaseQueue

namespace Listener

def isAdmitted (listener : Listener) : Bool :=
  match listener.stage with
  | .starting | .finished (some _) => false
  | _ => true

section Moves

variable {listener next : Listener} {queue rest : Queue} {now : Instant} {freshId : MessageId}
  {notices : List Notice}

theorem Move.isAdmitted (move : Move listener queue now freshId next rest notices)
    (admitted : listener.isAdmitted = true) : next.isAdmitted = true := by
  cases move with
  | idles => exact admitted
  | refused starting => simp [Listener.isAdmitted, starting] at admitted
  | _ => rfl

theorem Move.stays_refused (move : Move listener queue now freshId next rest notices) {fault : Fault}
    (ended : listener.stage = .finished (some fault)) : next.stage = .finished (some fault) := by
  cases move with
  | idles => exact ended
  | _ => simp_all

theorem Move.correlationId (move : Move listener queue now freshId next rest notices) :
    next.correlationId = listener.correlationId := by
  cases move <;> rfl

theorem Move.fault (move : Move listener queue now freshId next rest notices) {fault : Fault}
    (ended : next.stage = .finished (some fault)) :
    listener.stage = .finished (some fault) ∨ fault = .notOpened listener.correlationId := by
  cases move with
  | idles => exact .inl ended
  | refused => exact .inr (by simpa using ended.symm)
  | _ => simp at ended

end Moves

theorem step_of_unadmitted {listener : Listener} (unadmitted : listener.isAdmitted = false)
    (queue : Queue) (now : Instant) (freshId : MessageId) :
    (listener.step queue now freshId).listener.isAdmitted = true ∨
      ∃ next, listener.step queue now freshId = { listener := next, queue } := by
  unfold isAdmitted at unadmitted
  split at unadmitted
  · rename_i starting
    unfold step
    simp only [isReady, starting, Descriptor.checkOpen]
    cases queue.descriptor.isOpen with
    | true => exact .inl rfl
    | false => exact .inr ⟨_, rfl⟩
  · rename_i fault refused
    have idle : listener.isReady queue now = false := by simp [isReady, refused]
    exact .inr ⟨listener, by simp [step, idle, moveTo]⟩
  · contradiction

end Listener

namespace Listening

variable {listening : Listening}

theorem admitted_further {scene last : Listener.Scene} (found : listening.scene? = some scene)
    (admitted : scene.listener.isAdmitted = true) {more : List System.Event}
    (ends : (listening.further more).scene? = some last) : last.listener.isAdmitted = true := by
  refine carried (fun _ scene => scene.listener.isAdmitted = true) ?_ ?_ ends
  · intro first begins
    rw [begins] at found
    exact Option.some.inj found ▸ admitted
  · intro early event before turns next _ _ moved held
    cases moved with
    | turn turn => exact turn.move.isAdmitted held
    | others => exact held
    | time => exact held

theorem begun_task : listening.begun.final.task? listening.id = some ⟨listening.id, listening.index,
    .listen { correlationId := listening.correlationId, plan := listening.plan }⟩ :=
  System.listenerOn?_eq_some (System.scene?_eq_some.mp begun_scene).1

theorem listens {task : Task} (found : listening.final.task? listening.id = some task) :
    task.queue = listening.index ∧ ∃ listener, task.job = .listen listener := by
  rw [← listening.begun_further, further_final] at found
  have made : listening.begun.id < listening.begun.final.spawned := final_spawned
  refine System.task?_run (fun task => task.queue = listening.index ∧
    ∃ listener, task.job = .listen listener) made ?_ ?_ listening.events task found
  · intro task begins
    obtain rfl := Option.some.inj (begun_task.symm.trans begins)
    exact ⟨rfl, _, rfl⟩
  · rintro system task ⟨home, listener, listens⟩
    unfold System.stepped
    split
    · exact ⟨home, _, by rw [listens, Job.after]⟩
    · exact ⟨home, listener, listens⟩

theorem task?_of_absent (absent : listening.scene? = none) :
    listening.final.task? listening.id = none := by
  cases found : listening.final.task? listening.id with
  | none => rfl
  | some task =>
      obtain ⟨number, home, job⟩ := task
      obtain ⟨rfl, listener, rfl⟩ := listens found
      have known : listening.final.listenerOn? listening.index listening.id = some listener := by
        simp [System.listenerOn?, found]
      simp [scene?, System.scene?, known] at absent

theorem turn_without {scene : Listener.Scene} (found : listening.scene? = some scene)
    (unadmitted : scene.listener.isAdmitted = false)
    (stays : ∀ next, (listening.further [.turn listening.id]).scene? = some next →
      next.listener.isAdmitted = false) :
    (listening.final.after (.turn listening.id)).without listening.id =
      listening.final.without listening.id := by
  obtain ⟨listens, sameQueue, sameTime⟩ := System.scene?_eq_some.mp found
  have task := System.listenerOn?_eq_some listens
  have turned : listening.final.after (.turn listening.id) =
      listening.final.stepTask ⟨listening.id, listening.index, .listen scene.listener⟩ := by
    simp [System.after, task]
  rw [turned]
  rcases Listener.step_of_unadmitted unadmitted scene.queue scene.now listening.final.freshId
    with admitted | ⟨next, idle⟩
  · have refused := stays _ (scene_turn found)
    exact absurd admitted (Bool.eq_false_iff.mp refused)
  · rw [queue_of_scene found, now_of_scene found] at idle
    exact System.listen_without_own final_queue? idle

section Refused

variable {scene : Listener.Scene} {fault : Fault}

theorem refused_further (found : listening.scene? = some scene)
    (refused : scene.listener.stage = .finished (some fault)) {more : List System.Event}
    {last : Listener.Scene} (ends : (listening.further more).scene? = some last) :
    last.listener.stage = .finished (some fault) := by
  refine carried (fun _ scene => scene.listener.stage = .finished (some fault)) ?_ ?_ ends
  · intro first begins
    rw [begins] at found
    exact Option.some.inj found ▸ refused
  · intro early event before turns next _ _ moved held
    cases moved with
    | turn turn => exact turn.move.stays_refused held
    | others => exact held
    | time => exact held

theorem never_admitted (found : listening.scene? = some scene)
    (refused : scene.listener.stage = .finished (some fault)) {more early : List System.Event}
    (within : early <+: listening.events ++ more) {other : Listener.Scene}
    (present : (listening.begun.further early).scene? = some other) :
    other.listener.isAdmitted = false := by
  rcases List.prefix_or_prefix_of_prefix within (List.prefix_append listening.events more)
    with before | ⟨late, rfl⟩
  · obtain ⟨late, events⟩ := before
    by_contra admitted
    have whole : (listening.begun.further early).further late = listening := by
      rw [further_further, events, begun_further]
    have ends := admitted_further present (Bool.not_eq_false _ ▸ admitted) (whole.symm ▸ found)
    simp [Listener.isAdmitted, refused] at ends
  · rw [← further_further, begun_further] at present
    simp [Listener.isAdmitted, refused_further found refused present]

theorem begun_without : listening.begun.final.without listening.id =
    listening.run.final.after (.call listening.index .resume) := by
  have started : listening.run.start.Numbered := listening.numbered
  have numbered : (listening.run.final.modifyQueue listening.index Queue.resume).Numbered :=
    started.run listening.run.events
  rw [final_eq]
  exact System.spawn_without_own numbered listening.index _

theorem without_eq (found : listening.scene? = some scene)
    (refused : scene.listener.stage = .finished (some fault)) {more early : List System.Event}
    (within : early <+: listening.events ++ more) :
    (listening.begun.further early).final.without listening.id =
      (listening.run.further (.call listening.index .resume ::
        early.filterMap (System.Event.without listening.id))).final := by
  rw [Run.further_final, System.run, List.foldl_cons, ← begun_without, further_final]
  refine System.run_without _ final_spawned ?_
  intro sofar turns
  have reached := turns.trans within
  rw [← further_final]
  cases present : (listening.begun.further sofar).scene? with
  | none =>
      have gone : (listening.begun.further sofar).final.task? listening.begun.id = none :=
        task?_of_absent present
      rw [System.after_turn_of_absent gone]
  | some other =>
      have before := never_admitted found refused ((List.prefix_append _ _).trans reached) present
      refine turn_without present before fun next after => ?_
      rw [further_further] at after
      exact never_admitted found refused reached after

end Refused

theorem resume_of_calm (calm : listening.run.queue.cancelled = false) :
    listening.run.final.after (.call listening.index .resume) = listening.run.final := by
  have same : listening.run.queue.resume = listening.run.queue := by rw [Queue.resume, ← calm]
  have held : listening.run.final.queue? listening.index = some listening.run.queue := by
    rw [Run.queue_eq]
    exact listening.run.final_queue?
  change listening.run.final.setQueue listening.index listening.run.queue.resume = _
  rw [same, System.setQueue_self _ held]

theorem fault_eq {scene : Listener.Scene} (found : listening.scene? = some scene) {fault : Fault}
    (refused : scene.listener.stage = .finished (some fault)) :
    fault = .notOpened listening.correlationId := by
  rw [← listening.begun_further] at found
  refine (carried (fun _ scene => scene.listener.correlationId = listening.correlationId ∧
    ∀ fault, scene.listener.stage = .finished (some fault) →
      fault = .notOpened listening.correlationId) ?_ ?_ found).2 fault refused
  · intro first begins
    rw [begun_scene] at begins
    obtain rfl := Option.some.inj begins
    exact ⟨rfl, by simp⟩
  · rintro early event before turns next _ _ moved ⟨named, known⟩
    cases moved with
    | turn turn =>
        refine ⟨turn.move.correlationId.trans named, fun fault ended => ?_⟩
        exact (turn.move.fault ended).elim (known fault) fun same => named ▸ same
    | others => exact ⟨named, known⟩
    | time => exact ⟨named, known⟩

end Listening

/-- All that a refused listener has done, at any point of a run, is to take back a request to stop when it
began. Where there was no such request, everything else is as if it had not begun. -/
theorem refused_listener_only_resumes (listening : Listening) {scene : Listener.Scene} {fault : Fault}
    (found : listening.scene? = some scene) (refused : scene.listener.stage = .finished (some fault)) :
    fault = .notOpened listening.correlationId ∧
    listening.begun.whole.queue = { listening.run.queue with cancelled := false } ∧
    ∀ more early, early <+: listening.events ++ more →
      let others := early.filterMap (System.Event.without listening.id)
      (listening.begun.further early).final.without listening.id =
        (listening.run.further (.call listening.index .resume :: others)).final ∧
      (listening.run.queue.cancelled = false →
        (listening.begun.further early).final.without listening.id =
          (listening.run.further others).final) := by
  refine ⟨Listening.fault_eq found refused, ?_, ?_⟩
  · exact (Listening.queue_of_scene Listening.begun_scene).symm
  · intro more early within others
    have apart := Listening.without_eq found refused within
    refine ⟨apart, fun calm => apart.trans ?_⟩
    rw [Run.further_final, System.run, List.foldl_cons, Listening.resume_of_calm calm]
    exact (Run.further_final _ _).symm

namespace Listening

def turnedAway : Listening where
  run := waiting.whole.further [.call 0 .close]
  numbered := waiting.numbered
  correlationId := "d"
  plan := ⟨[]⟩
  events := [.turn 1]

end Listening

theorem refused_listener_only_resumes_turnedAway :
    let late : Message := { id := ⟨1⟩, correlationId := "c", kind := "job", payload := [108] }
    ((Listening.turnedAway.further [.call 0 (.send late), .turn 0]).final.without 1 =
      (Listening.waiting.whole.further
        [.call 0 .close, .call 0 .resume, .call 0 (.send late), .turn 0]).final) := by
  intro late
  have found : ∃ scene, Listening.turnedAway.scene? = some scene ∧
      scene.listener.stage = .finished (some (.notOpened "d")) := ⟨_, rfl, rfl⟩
  obtain ⟨scene, found, refused⟩ := found
  obtain ⟨-, -, law⟩ := refused_listener_only_resumes .turnedAway found refused
  exact (law [.call 0 (.send late), .turn 0] _ (List.prefix_refl _)).1

/-- The first listener goes on as if the queue had not been closed, and is given a message. -/
theorem refused_listener_takes_request_back :
    let late : Message := { id := ⟨1⟩, correlationId := "c", kind := "job", payload := [108] }
    let more : List System.Event := [.call 0 (.send late), .turn 0, .turn 0, .turn 0]
    Listening.turnedAway.scene?.map (fun scene => scene.listener.stage) =
        some (.finished (some (.notOpened "d"))) ∧
      Listening.turnedAway.run.queue.cancelled = true ∧
      Listening.turnedAway.whole.queue.cancelled = false ∧
      (Listening.turnedAway.run.further more).final.journal = [] ∧
      (Listening.turnedAway.further more).final.journal ≠ [] := by
  decide

end LeaseQueue
