import LeaseQueue.Proofs.Scene
import Mathlib.Data.List.Induction

/-!
A listener that begins in a run, with all that happens from then on. What is so when it begins and is
kept by whatever can happen to it is so at every later point.
-/

namespace LeaseQueue

structure Listening where
  run : Run
  numbered : run.system.Numbered
  correlationId : String
  plan : Plan
  events : List System.Event := []

namespace Listening

def index (listening : Listening) : Nat := listening.run.index

def id (listening : Listening) : Nat := listening.run.final.spawned

def whole (listening : Listening) : Run :=
  listening.run.further
    (.listen listening.index listening.correlationId listening.plan :: listening.events)

def final (listening : Listening) : System := listening.whole.final

def now (listening : Listening) : Instant := listening.final.clock

def scene? (listening : Listening) : Option Listener.Scene :=
  listening.final.scene? listening.index listening.id

def interval (listening : Listening) : Duration := listening.run.settings.listenInterval

def further (listening : Listening) (more : List System.Event) : Listening :=
  { listening with events := listening.events ++ more }

def begun (listening : Listening) : Listening := { listening with events := [] }

def turnsDuring (listening : Listening) (more : List System.Event) : List Listener.Turn :=
  listening.final.turns listening.index listening.id more

def givenDuring (listening : Listening) (more : List System.Event) : List Message :=
  (listening.turnsDuring more).flatMap Listener.Turn.given

def historyDuring (listening : Listening) (more : List System.Event) : List (Instant × Operation) :=
  listening.final.history listening.index more

def attendedDuring (listening : Listening) (more : List System.Event) : Bool :=
  listening.final.attends listening.index listening.id more

variable {listening : Listening}

@[simp] theorem further_index (more : List System.Event) :
    (listening.further more).index = listening.index := rfl

@[simp] theorem further_id (more : List System.Event) :
    (listening.further more).id = listening.id := rfl

theorem further_nil : listening.further [] = listening := by
  simp [further]

theorem further_further (first second : List System.Event) :
    (listening.further first).further second = listening.further (first ++ second) := by
  simp [further]

theorem begun_further : listening.begun.further listening.events = listening := rfl

theorem further_whole (more : List System.Event) :
    (listening.further more).whole = listening.whole.further more := by
  simp [whole, further, Run.further, index]

theorem further_final (more : List System.Event) :
    (listening.further more).final = listening.final.run more := by
  rw [final, further_whole]
  exact List.foldl_append

theorem turnsDuring_append (first second : List System.Event) :
    listening.turnsDuring (first ++ second) =
      listening.turnsDuring first ++ (listening.further first).turnsDuring second := by
  simp only [turnsDuring, System.turns_append, further_final, further_index, further_id]

theorem turnsDuring_singleton (event : System.Event) :
    listening.turnsDuring [event] =
      (listening.final.turn? listening.index listening.id event).toList :=
  List.append_nil _

theorem own_turn {event : System.Event} {turn : Listener.Turn}
    (member : turn ∈ listening.turnsDuring [event]) :
    event = .turn listening.id ∧
      ∃ scene, listening.scene? = some scene ∧ turn = ⟨scene, listening.final.freshId⟩ := by
  rw [turnsDuring_singleton, Option.mem_toList, System.turn?] at member
  split at member
  · rename_i own
    obtain ⟨scene, present, same⟩ := Option.map_eq_some_iff.mp member
    exact ⟨own, scene, present, same.symm⟩
  · simp at member

theorem historyDuring_singleton (event : System.Event) :
    listening.historyDuring [event] =
      (listening.final.operations event listening.index).map
        fun operation => (listening.now, operation) :=
  List.append_nil _

theorem historyDuring_append (first second : List System.Event) :
    listening.historyDuring (first ++ second) =
      listening.historyDuring first ++ (listening.further first).historyDuring second := by
  simp only [historyDuring, System.history_append, further_final, further_index]

theorem attendedDuring_append (first second : List System.Event) :
    listening.attendedDuring (first ++ second) =
      (listening.attendedDuring first && (listening.further first).attendedDuring second) := by
  simp only [attendedDuring, System.attends_append, further_final, further_index, further_id]

theorem final_queue? : listening.final.queue? listening.index = some listening.whole.queue := by
  have held := listening.whole.final_queue?
  rw [← Run.queue_eq] at held
  exact held

theorem final_eq : listening.final =
    (listening.run.final.after
      (.listen listening.index listening.correlationId listening.plan)).run listening.events :=
  List.foldl_append

theorem final_spawned : listening.id < listening.final.spawned := by
  rw [final_eq]
  exact Nat.lt_of_succ_le (System.spawned_run
    (listening.run.final.after
      (.listen listening.index listening.correlationId listening.plan)) listening.events)

theorem queue_of_scene {scene : Listener.Scene} (found : listening.scene? = some scene) :
    scene.queue = listening.whole.queue :=
  (System.scene?_eq_some.mp found).2.1.symm

theorem settings_of_scene {scene : Listener.Scene} (found : listening.scene? = some scene) :
    scene.queue.settings = listening.run.settings := by
  rw [queue_of_scene found]
  exact listening.whole.queue_settings

theorem interval_of_scene {scene : Listener.Scene} (found : listening.scene? = some scene) :
    listening.interval = scene.queue.settings.listenInterval := by
  rw [settings_of_scene found]
  rfl

theorem now_of_scene {scene : Listener.Scene} (found : listening.scene? = some scene) :
    scene.now = listening.now :=
  (System.scene?_eq_some.mp found).2.2.symm

theorem begun_scene : listening.begun.scene? =
    some ⟨{ correlationId := listening.correlationId, plan := listening.plan },
      listening.run.queue.resume, listening.run.now⟩ := by
  let running := listening.run.final.modifyQueue listening.index Queue.resume
  have started : listening.run.start.Numbered := listening.numbered
  have numbered : running.Numbered := started.run listening.run.events
  have task := System.task?_of_spawn numbered listening.index
    (.listen { correlationId := listening.correlationId, plan := listening.plan })
  have resumed : running.queue? listening.index = some listening.run.queue.resume := by
    rw [System.modifyQueue_queue?, if_pos rfl, index, Run.final_queue?, Option.map_some,
      ← Run.queue_eq]
  refine System.scene?_eq_some.mpr ⟨?_, ?_, ?_⟩
  · have placed : listening.begun.final.task? listening.id = some ⟨listening.id, listening.index,
        .listen { correlationId := listening.correlationId, plan := listening.plan }⟩ := by
      rw [final_eq]
      exact task
    change System.listenerOn? _ listening.index listening.id = _
    simp [System.listenerOn?, placed]
  · have same : listening.begun.final.queue? listening.index = running.queue? listening.index := by
      rw [final_eq]
      rfl
    change System.queue _ listening.index = _
    rw [System.queue, same, resumed]
    rfl
  · rw [final_eq]
    rfl

theorem passage {event : System.Event} {next : Listener.Scene}
    (found : (listening.further [event]).scene? = some next) :
    ∃ scene, listening.scene? = some scene ∧
      Listener.Passage scene event (listening.turnsDuring [event]) next := by
  rw [scene?, further_final] at found
  obtain ⟨scene, before, moved⟩ := System.passage final_queue? final_spawned found
  refine ⟨scene, before, ?_⟩
  rw [turnsDuring_singleton]
  exact moved

theorem carried (Holds : List Listener.Turn → Listener.Scene → Prop) {more : List System.Event}
    (begins : ∀ scene, listening.scene? = some scene → Holds [] scene)
    (keeps : ∀ early event scene turns next, early ++ [event] <+: more →
      (listening.further early).scene? = some scene → Listener.Passage scene event turns next →
      Holds (listening.turnsDuring early) scene → Holds (listening.turnsDuring early ++ turns) next)
    {scene : Listener.Scene} (found : (listening.further more).scene? = some scene) :
    Holds (listening.turnsDuring more) scene := by
  -- From the end of the events, because `keeps` is about the last of them.
  induction more using List.reverseRecOn generalizing scene with
  | nil =>
      rw [further_nil] at found
      exact begins scene found
  | append_singleton early event ih =>
      rw [← further_further] at found
      obtain ⟨before, present, moved⟩ := passage found
      rw [turnsDuring_append]
      refine keeps early event before _ scene (List.prefix_refl _) present moved (ih ?_ present)
      intro earlier other scene turns next within
      exact keeps earlier other scene turns next (within.trans (List.prefix_append _ _))

theorem waits_of_attended {more early : List System.Event} {span : Duration}
    {scene : Listener.Scene} (attended : listening.attendedDuring more = true)
    (within : early ++ [.pass span] <+: more)
    (found : (listening.further early).scene? = some scene) : scene.waits span = true := by
  obtain ⟨late, rfl⟩ := within
  rw [attendedDuring_append, attendedDuring_append, Bool.and_eq_true, Bool.and_eq_true] at attended
  have spared := attended.1.2
  rw [attendedDuring, System.attends, Bool.and_eq_true] at spared
  have present : (listening.further early).final.scene? (listening.further early).index
      (listening.further early).id = some scene := found
  have waited := spared.1
  rw [System.spares, present] at waited
  exact waited

theorem now_pass (span : Duration) : (listening.further [.pass span]).now = listening.now + span := by
  rw [now, further_final]
  rfl

theorem now_le_further (more : List System.Event) :
    listening.now ≤ (listening.further more).now := by
  rw [now, now, further_final]
  exact System.clock_le_run _ _

theorem now_le_of_prefix {early more : List System.Event} (within : early <+: more) :
    (listening.further early).now ≤ (listening.further more).now := by
  obtain ⟨late, rfl⟩ := within
  rw [← further_further]
  exact now_le_further late

theorem scene_of_turn {more : List System.Event} {turn : Listener.Turn}
    (member : turn ∈ listening.turnsDuring more) :
    ∃ early, early ++ [.turn listening.id] <+: more ∧
      (listening.further early).scene? = some turn.toScene := by
  induction more using List.reverseRecOn with
  | nil => simp [turnsDuring, System.turns] at member
  | append_singleton early event ih =>
      rw [turnsDuring_append, List.mem_append] at member
      rcases member with before | last
      · obtain ⟨earlier, within, present⟩ := ih before
        exact ⟨earlier, within.trans (List.prefix_append _ _), present⟩
      · obtain ⟨rfl, scene, present, rfl⟩ := own_turn last
        exact ⟨early, List.prefix_refl _, present⟩

theorem scene_turn {scene : Listener.Scene} (present : listening.scene? = some scene) :
    (listening.further [.turn listening.id]).scene? =
      some (⟨scene, listening.final.freshId⟩ : Listener.Turn).next := by
  rw [scene?, further_final]
  exact System.scene?_turn final_queue? present

theorem scene_of_last {event : System.Event} {turn : Listener.Turn}
    (last : turn ∈ listening.turnsDuring [event]) :
    (listening.further [event]).scene? = some turn.next := by
  obtain ⟨rfl, scene, present, rfl⟩ := own_turn last
  exact scene_turn present

theorem last_scene {scene : Listener.Scene} (begins : listening.scene? = some scene)
    (more : List System.Event) :
    ∃ early last, early <+: more ∧ listening.turnsDuring early = listening.turnsDuring more ∧
      (listening.further early).scene? = some last := by
  induction more using List.reverseRecOn with
  | nil => exact ⟨[], scene, List.prefix_refl _, rfl, listening.further_nil.symm ▸ begins⟩
  | append_singleton sofar event ih =>
      cases after : (listening.further (sofar ++ [event])).scene? with
      | some last => exact ⟨_, last, List.prefix_refl _, rfl, after⟩
      | none =>
          obtain ⟨early, last, within, same, present⟩ := ih
          refine ⟨early, last, within.trans (List.prefix_append _ _), ?_, present⟩
          have idle : (listening.further sofar).turnsDuring [event] = [] := by
            rw [List.eq_nil_iff_forall_not_mem]
            intro turn member
            rw [← further_further, scene_of_last member] at after
            simp at after
          rw [turnsDuring_append, idle, List.append_nil]
          exact same

def waiting : Listening where
  run :=
    { system := {}, name := "orders", settings := { listenMillis := 100 }, events := [.call 0 .openUp] }
  numbered := by simp [System.Numbered]
  correlationId := "c"
  plan := ⟨[[.complete]]⟩
  events := [.turn 0, .turn 0, .turn 0, .turn 0]

end Listening

end LeaseQueue
