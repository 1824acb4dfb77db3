import LeaseQueue.Proofs.Absence
import LeaseQueue.Proofs.Move

/-!
A receiving call that begins in a run, with all that happens from then on. Other tasks and clients act
on its queue between its turns, and time passes. In some of its turns it looks for a message.
-/

namespace LeaseQueue

namespace Reception

/-- A call with all that it can see: its queue and the time. -/
structure Scene where
  call : Reception
  queue : Queue
  now : Instant

namespace Scene

def next (scene : Scene) : Scene :=
  ⟨(scene.call.step scene.queue scene.now).1, (scene.call.step scene.queue scene.now).2, scene.now⟩

def performed (scene : Scene) (operations : List Operation) : Scene :=
  { scene with queue := scene.queue.performAll scene.now operations }

def later (scene : Scene) (span : Duration) : Scene := { scene with now := scene.now + span }

/-- Whether the call looks for a message in its next turn. -/
def looks (scene : Scene) : Bool :=
  match scene.call.stage with
  | .registered _ => true
  | _ => false

def waits (scene : Scene) (span : Duration) : Bool :=
  !scene.call.isReady scene.queue scene.now &&
    scene.call.wakeAt?.all fun wakeAt => scene.now + span ≤ wakeAt

theorem advance (scene : Scene) :
    scene.call.Advance scene.queue scene.now scene.next.call scene.next.queue :=
  scene.call.step_advance scene.queue scene.now

end Scene

inductive Passage (id : Nat) (scene : Scene) (event : System.Event) (operations : List Operation) :
    List Scene → Scene → Prop
  | turn (own : event = .turn id) :
      Passage id scene event operations (if scene.looks then [scene] else []) scene.next
  | others (apart : event ≠ .turn id) : Passage id scene event operations [] (scene.performed operations)
  | time (span : Duration) (passes : event = .pass span) :
      Passage id scene event operations [] (scene.later span)

end Reception

namespace System

def receptionScene? (system : System) (index id : Nat) : Option Reception.Scene :=
  (system.reception? id).map fun call => ⟨call, system.queue index, system.clock⟩

def look? (system : System) (index id : Nat) (event : Event) : Option Reception.Scene :=
  if event = .turn id then (system.receptionScene? index id).filter Reception.Scene.looks else none

def looks (index id : Nat) : System → List Event → List Reception.Scene
  | _, [] => []
  | system, event :: rest =>
    (system.look? index id event).toList ++ looks index id (system.after event) rest

def sparesCall (system : System) (index id : Nat) (event : Event) : Bool :=
  match event with
  | .pass span => (system.receptionScene? index id).all fun scene => scene.waits span
  | _ => true

/-- Whether a call gets its turns in time: none passes while it can go on, and none passes beyond the
point at which it wakes. -/
def attendsCall (index id : Nat) : System → List Event → Bool
  | _, [] => true
  | system, event :: rest =>
    system.sparesCall index id event && attendsCall index id (system.after event) rest

theorem looks_append (system : System) (index id : Nat) (first second : List Event) :
    system.looks index id (first ++ second) =
      system.looks index id first ++ (system.run first).looks index id second := by
  induction first generalizing system with
  | nil => rfl
  | cons event rest ih =>
      rw [List.cons_append, looks, looks, ih, List.append_assoc]
      rfl

theorem attendsCall_append (system : System) (index id : Nat) (first second : List Event) :
    system.attendsCall index id (first ++ second) =
      (system.attendsCall index id first && (system.run first).attendsCall index id second) := by
  induction first generalizing system with
  | nil => simp [attendsCall, run]
  | cons event rest ih =>
      rw [List.cons_append, attendsCall, attendsCall, ih, Bool.and_assoc]
      rfl

end System

structure Receiving where
  run : Run
  numbered : run.system.Numbered
  timeout : Duration
  events : List System.Event := []

namespace Receiving

def index (receiving : Receiving) : Nat := receiving.run.index

def id (receiving : Receiving) : Nat := receiving.run.final.spawned

def whole (receiving : Receiving) : Run :=
  receiving.run.further (.receive receiving.index receiving.timeout :: receiving.events)

def final (receiving : Receiving) : System := receiving.whole.final

def begun (receiving : Receiving) : Receiving := { receiving with events := [] }

def further (receiving : Receiving) (more : List System.Event) : Receiving :=
  { receiving with events := receiving.events ++ more }

def scene? (receiving : Receiving) : Option Reception.Scene :=
  receiving.final.receptionScene? receiving.index receiving.id

def deadline (receiving : Receiving) : Instant := receiving.run.now.deadlineAfter receiving.timeout

def looks (receiving : Receiving) : List Reception.Scene :=
  receiving.begun.final.looks receiving.index receiving.id receiving.events

def attended (receiving : Receiving) : Bool :=
  receiving.begun.final.attendsCall receiving.index receiving.id receiving.events

variable {receiving : Receiving}

@[simp] theorem further_index (more : List System.Event) :
    (receiving.further more).index = receiving.index := rfl

@[simp] theorem further_id (more : List System.Event) : (receiving.further more).id = receiving.id := rfl

theorem further_further (first second : List System.Event) :
    (receiving.further first).further second = receiving.further (first ++ second) := by
  simp [further]

theorem begun_further : receiving.begun.further receiving.events = receiving := rfl

theorem further_final (more : List System.Event) :
    (receiving.further more).final = receiving.final.run more := by
  have same : (receiving.further more).whole = receiving.whole.further more := by
    simp [whole, further, Run.further, index]
  rw [final, same]
  exact List.foldl_append

theorem final_eq : receiving.final = receiving.begun.final.run receiving.events := by
  rw [← further_final, begun_further]

theorem final_queue? : receiving.final.queue? receiving.index = some receiving.whole.queue := by
  have held := receiving.whole.final_queue?
  rw [← Run.queue_eq] at held
  exact held

theorem begun_final : receiving.begun.final =
    (receiving.run.final.spawn receiving.index (.receive (.later receiving.timeout))).2 :=
  List.foldl_append

theorem begun_spawned : receiving.id < receiving.begun.final.spawned := by
  rw [begun_final]
  exact Nat.lt_succ_self _

theorem final_spawned : receiving.id < receiving.final.spawned := by
  rw [final_eq]
  exact Nat.lt_of_lt_of_le begun_spawned (System.spawned_run _ _)

theorem numbered_final : receiving.run.final.Numbered := by
  have started : receiving.run.start.Numbered := receiving.numbered
  exact started.run receiving.run.events

theorem begun_task : receiving.begun.final.task? receiving.id =
    some ⟨receiving.id, receiving.index, .receive (.later receiving.timeout)⟩ := by
  rw [begun_final]
  exact System.task?_of_spawn numbered_final receiving.index _

theorem task_eq {task : Task} (found : receiving.final.task? receiving.id = some task) :
    ∃ call, task = ⟨receiving.id, receiving.index, .receive call⟩ := by
  rw [final_eq] at found
  refine System.task?_run (fun task => ∃ call, task = ⟨receiving.id, receiving.index, .receive call⟩)
    begun_spawned ?_ ?_ receiving.events task found
  · intro task begins
    exact ⟨_, Option.some.inj (begins.symm.trans begun_task)⟩
  · rintro system task ⟨call, rfl⟩
    unfold System.stepped
    split
    · exact ⟨_, rfl⟩
    · exact ⟨call, rfl⟩

theorem scene?_eq_some {scene : Reception.Scene} : receiving.scene? = some scene ↔
    receiving.final.task? receiving.id = some ⟨receiving.id, receiving.index, .receive scene.call⟩ ∧
      receiving.whole.queue = scene.queue ∧ receiving.whole.now = scene.now := by
  obtain ⟨call, queue, now⟩ := scene
  have known : receiving.final.reception? receiving.id = some call ↔
      receiving.final.task? receiving.id = some ⟨receiving.id, receiving.index, .receive call⟩ := by
    unfold System.reception?
    cases found : receiving.final.task? receiving.id with
    | none => simp
    | some task =>
        obtain ⟨other, rfl⟩ := task_eq found
        simp
  rw [← known, scene?, System.receptionScene?, Option.map_eq_some_iff]
  simp only [Reception.Scene.mk.injEq]
  constructor
  · rintro ⟨other, receives, rfl, sameQueue, sameTime⟩
    exact ⟨receives, sameQueue, sameTime⟩
  · rintro ⟨receives, sameQueue, sameTime⟩
    exact ⟨call, receives, rfl, sameQueue, sameTime⟩

theorem begun_scene : receiving.begun.scene? =
    some ⟨.later receiving.timeout, receiving.run.queue, receiving.run.now⟩ := by
  have begins : receiving.begun.whole =
      receiving.run.further [.receive receiving.index receiving.timeout] := rfl
  refine scene?_eq_some.mpr ⟨begun_task, ?_, ?_⟩
  · rw [begins, Run.further_queue]
    rfl
  · rw [begins, Run.now, Run.further_final]
    rfl

theorem final_after (event : System.Event) :
    (receiving.further [event]).final = receiving.final.after event := further_final [event]

theorem queue_after (event : System.Event) :
    (receiving.further [event]).whole.queue = receiving.whole.queue.performAll receiving.whole.now
      (receiving.final.operations event receiving.index) := by
  have held : (receiving.further [event]).final.queue? receiving.index = _ := final_queue?
  rw [final_after, System.after_queue?, final_queue?, Option.map_some] at held
  exact (Option.some.inj held).symm

theorem operations_turn {scene : Reception.Scene} (present : receiving.scene? = some scene) :
    receiving.final.operations (.turn receiving.id) receiving.index = scene.call.operations := by
  obtain ⟨task, -, -⟩ := scene?_eq_some.mp present
  simp [System.operations, task, Job.operations]

theorem scene_turn {scene : Reception.Scene} (present : receiving.scene? = some scene) :
    (receiving.further [.turn receiving.id]).scene? = some scene.next := by
  obtain ⟨task, sameQueue, sameTime⟩ := scene?_eq_some.mp present
  refine scene?_eq_some.mpr ⟨?_, ?_, ?_⟩
  · rw [further_id, final_after, System.task?_turn, if_pos rfl, task, Option.map_some]
    simp only [System.stepped, final_queue?, sameQueue, Job.after]
    exact congrArg (fun now => some (Task.mk receiving.id receiving.index
      (.receive (scene.call.step scene.queue now).1))) sameTime
  · rw [queue_after, operations_turn present, sameQueue, sameTime, ← scene.call.step_queue]
    rfl
  · rw [Run.now, ← final, final_after, System.clock_after (by simp)]
    exact sameTime

theorem passage {event : System.Event} {next : Reception.Scene}
    (found : (receiving.further [event]).scene? = some next) :
    ∃ scene, receiving.scene? = some scene ∧
      Reception.Passage receiving.id scene event (receiving.final.operations event receiving.index)
        (receiving.final.look? receiving.index receiving.id event).toList next := by
  obtain ⟨task, sameQueue, sameTime⟩ := scene?_eq_some.mp found
  have kept := receiving.final.task?_after event final_spawned
  rw [further_id, further_index, final_after] at task
  rw [task] at kept
  rw [queue_after] at sameQueue
  rw [Run.now, ← final, final_after] at sameTime
  by_cases dropped : event = .drop receiving.id
  · rw [if_pos dropped] at kept
    contradiction
  rw [if_neg dropped] at kept
  by_cases own : event = .turn receiving.id
  · subst own
    rw [if_pos rfl] at kept
    obtain ⟨before, held, -⟩ := Option.map_eq_some_iff.mp kept.symm
    obtain ⟨call, rfl⟩ := task_eq held
    let scene : Reception.Scene := ⟨call, receiving.whole.queue, receiving.whole.now⟩
    have present : receiving.scene? = some scene := scene?_eq_some.mpr ⟨held, rfl, rfl⟩
    have same : next = scene.next := Option.some.inj (found.symm.trans (scene_turn present))
    have look : (receiving.final.look? receiving.index receiving.id (.turn receiving.id)).toList =
        if scene.looks then [scene] else [] := by
      have seen : receiving.final.receptionScene? receiving.index receiving.id = some scene := present
      rw [System.look?, if_pos rfl, seen]
      cases looks : scene.looks <;> simp [Option.filter, looks]
    refine ⟨scene, present, ?_⟩
    rw [same, look]
    exact .turn rfl
  rw [if_neg own] at kept
  let scene : Reception.Scene := ⟨next.call, receiving.whole.queue, receiving.whole.now⟩
  refine ⟨scene, scene?_eq_some.mpr ⟨kept.symm, rfl, rfl⟩, ?_⟩
  rw [System.look?, if_neg own]
  obtain ⟨call, queue, now⟩ := next
  by_cases passes : ∃ span, event = .pass span
  · obtain ⟨span, rfl⟩ := passes
    have same : ⟨call, queue, now⟩ = scene.later span :=
      congr (congrArg (Reception.Scene.mk call) sameQueue.symm) sameTime.symm
    rw [same]
    exact .time span rfl
  · rw [System.clock_after fun span same => passes ⟨span, same⟩] at sameTime
    have same : ⟨call, queue, now⟩ =
        scene.performed (receiving.final.operations event receiving.index) :=
      congr (congrArg (Reception.Scene.mk call) sameQueue.symm) sameTime.symm
    rw [same]
    exact .others own

theorem looks_further (event : System.Event) : (receiving.further [event]).looks =
    receiving.looks ++ (receiving.final.look? receiving.index receiving.id event).toList := by
  have all : (receiving.further [event]).looks =
      receiving.begun.final.looks receiving.index receiving.id (receiving.events ++ [event]) := rfl
  rw [all, System.looks_append, ← final_eq, System.looks, System.looks, List.append_nil]
  rfl

theorem attended_further (event : System.Event) : (receiving.further [event]).attended =
    (receiving.attended && receiving.final.sparesCall receiving.index receiving.id event) := by
  have all : (receiving.further [event]).attended =
      receiving.begun.final.attendsCall receiving.index receiving.id (receiving.events ++ [event]) := rfl
  rw [all, System.attendsCall_append, ← final_eq, System.attendsCall, System.attendsCall, Bool.and_true]
  rfl

theorem attended_early (attended : receiving.attended = true) {early : List System.Event}
    (within : early <+: receiving.events) : (receiving.begun.further early).attended = true := by
  obtain ⟨late, split⟩ := within
  rw [Receiving.attended, ← split, System.attendsCall_append, Bool.and_eq_true] at attended
  exact attended.1

theorem carried (Holds : Receiving → Reception.Scene → Prop)
    (begins : Holds receiving.begun ⟨.later receiving.timeout, receiving.run.queue, receiving.run.now⟩)
    (keeps : ∀ early event, early ++ [event] <+: receiving.events →
      ∀ scene looks next, (receiving.begun.further early).scene? = some scene →
        Reception.Passage receiving.id scene event
          ((receiving.begun.further early).final.operations event receiving.index) looks next →
        (receiving.begun.further (early ++ [event])).looks =
          (receiving.begun.further early).looks ++ looks →
        Holds (receiving.begun.further early) scene →
        Holds (receiving.begun.further (early ++ [event])) next)
    {scene : Reception.Scene} (found : receiving.scene? = some scene) : Holds receiving scene := by
  have sofar (early : List System.Event) (within : early <+: receiving.events)
      {scene : Reception.Scene} (found : (receiving.begun.further early).scene? = some scene) :
      Holds (receiving.begun.further early) scene := by
    induction early using List.reverseRecOn generalizing scene with
    | nil =>
        rw [show receiving.begun.further [] = receiving.begun from rfl, begun_scene] at found
        exact Option.some.inj found ▸ begins
    | append_singleton early event ih =>
        have one : receiving.begun.further (early ++ [event]) =
            (receiving.begun.further early).further [event] := (further_further early [event]).symm
        rw [one] at found
        obtain ⟨before, present, moved⟩ := passage found
        refine keeps early event within before _ scene present moved ?_
          (ih ((List.prefix_append _ _).trans within) present)
        rw [one, looks_further]
  exact sofar receiving.events (List.prefix_refl _) found

theorem task?_of_absent (absent : receiving.scene? = none) :
    receiving.final.task? receiving.id = none := by
  refine Option.eq_none_iff_forall_ne_some.mpr fun task held => ?_
  obtain ⟨call, rfl⟩ := task_eq held
  have present : receiving.scene? = some ⟨call, receiving.whole.queue, receiving.whole.now⟩ :=
    scene?_eq_some.mpr ⟨held, rfl, rfl⟩
  simp [present] at absent

theorem scene?_of_dropped (more : List System.Event) :
    (receiving.further (.drop receiving.id :: more)).scene? = none := by
  induction more using List.reverseRecOn with
  | nil =>
      have dropped := receiving.final.task?_after (.drop receiving.id) final_spawned
      rw [if_pos rfl, ← final_after] at dropped
      refine Option.eq_none_iff_forall_ne_some.mpr fun scene present => ?_
      simp [scene?_eq_some, dropped] at present
  | append_singleton sofar event ih =>
      refine Option.eq_none_iff_forall_ne_some.mpr fun scene present => ?_
      rw [← List.cons_append, ← further_further] at present
      obtain ⟨before, found, -⟩ := passage present
      simp [ih] at found

theorem looks_of_dropped (more : List System.Event) :
    (receiving.further (.drop receiving.id :: more)).looks = receiving.looks := by
  induction more using List.reverseRecOn with
  | nil => exact (looks_further _).trans (List.append_nil _)
  | append_singleton sofar event ih =>
      have gone : (receiving.further (.drop receiving.id :: sofar)).final.receptionScene?
          receiving.index receiving.id = none := scene?_of_dropped sofar
      rw [← List.cons_append, ← further_further, looks_further, ih, System.look?]
      simp [gone]

theorem mem_looks {look : Reception.Scene} : look ∈ receiving.looks ↔
    ∃ early, early ++ [.turn receiving.id] <+: receiving.events ∧
      (receiving.begun.further early).scene? = some look ∧ look.looks = true := by
  have all (events : List System.Event) : look ∈ (receiving.begun.further events).looks ↔
      ∃ early, early ++ [.turn receiving.id] <+: events ∧
        (receiving.begun.further early).scene? = some look ∧ look.looks = true := by
    induction events using List.reverseRecOn with
    | nil => simp [further, looks, System.looks, begun]
    | append_singleton sofar event ih =>
        have last : look ∈ ((receiving.begun.further sofar).final.look? receiving.index receiving.id
              event).toList ↔
            event = .turn receiving.id ∧ (receiving.begun.further sofar).scene? = some look ∧
              look.looks = true := by
          rw [Option.mem_toList, System.look?]
          by_cases own : event = .turn receiving.id
          · simp only [own, if_true, Option.filter_eq_some_iff, true_and]
            rfl
          · simp [own]
        rw [← further_further, looks_further, List.mem_append, ih]
        refine (or_congr_right last).trans ?_
        constructor
        · rintro (⟨early, within, seen⟩ | ⟨rfl, seen⟩)
          · exact ⟨early, within.trans (List.prefix_append _ _), seen⟩
          · exact ⟨sofar, List.prefix_refl _, seen⟩
        · rintro ⟨early, within, seen⟩
          rcases List.prefix_concat_iff.mp within with same | before
          · obtain ⟨rfl, turns⟩ := List.append_inj' same rfl
            exact .inr ⟨(List.singleton_inj.mp turns).symm, seen⟩
          · exact .inl ⟨early, before, seen⟩
  exact all receiving.events

theorem waits_of_attended (attended : receiving.attended = true) {early : List System.Event}
    {span : Duration} (within : early ++ [.pass span] <+: receiving.events) {scene : Reception.Scene}
    (found : (receiving.begun.further early).scene? = some scene) : scene.waits span = true := by
  have spared := attended_early attended within
  rw [← further_further, attended_further, Bool.and_eq_true] at spared
  have present : (receiving.begun.further early).final.receptionScene? receiving.begun.index
      receiving.begun.id = some scene := found
  simpa [System.sparesCall, present] using spared.2

end Receiving

end LeaseQueue
