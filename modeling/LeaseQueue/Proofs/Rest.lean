import LeaseQueue.Proofs.Deadline
import LeaseQueue.Proofs.Listening

/-!
Receiving calls and listeners come to rest. When one takes turns one after another, at one instant and
with nobody in between, it waits or ends after finitely many of them, because neither a slice of a wait
nor an interval is empty.
-/

namespace LeaseQueue

namespace Reception

inductive Settles (now : Instant) : Reception → Queue → Prop
  | rests {call : Reception} {queue : Queue} (still : call.isReady queue now = false) :
      Settles now call queue
  | turns {call : Reception} {queue : Queue}
      (settles : Settles now (call.step queue now).1 (call.step queue now).2) :
      Settles now call queue

variable {call next : Reception} {queue rest : Queue} {now : Instant}

theorem Advance.arrivals_eq (advanced : call.Advance queue now next rest) :
    rest.arrivals = queue.arrivals := by
  cases advanced with
  | takes registered taken =>
      obtain ⟨_, _, _, _, rfl⟩ := Queue.take?_eq_some taken
      rfl
  | _ => rfl

theorem isReady_congr (same : rest.arrivals = queue.arrivals) (call : Reception) (now : Instant) :
    call.isReady rest now = call.isReady queue now := by
  unfold isReady
  rw [same]

theorem settles_of_registered {arrivals : Nat} (registered : call.stage = .registered arrivals)
    (polls : 0 < queue.settings.pollInterval.nanos)
    (parked : ∀ wakeAt, now < wakeAt →
      Settles now { call with stage := .parked arrivals wakeAt } queue) :
    Settles now call queue := by
  apply Settles.turns
  have advanced := call.step_advance queue now
  generalize call.step queue now = result at advanced ⊢
  obtain ⟨next, rest⟩ := result
  simp only at advanced ⊢
  cases advanced with
  | takes | givesUp => exact .rests rfl
  | parks same empty early =>
      obtain rfl := Stage.registered.inj (same.symm.trans registered)
      refine parked _ ?_
      simp only [Instant.lt_iff, Instant.add_nanos, Duration.min_nanos, Instant.sub_nanos] at early ⊢
      omega
  | idles waiting => simp [isReady, registered] at waiting
  | _ => simp_all

theorem settles_of_looking (looking : call.stage = .looking)
    (polls : 0 < queue.settings.pollInterval.nanos) : Settles now call queue := by
  apply Settles.turns
  simp only [step, looking]
  refine settles_of_registered rfl polls ?_
  intro wakeAt ahead
  -- The call has registered at the count of arrivals that there is, so only time can wake it.
  apply Settles.rests
  simp only [isReady, bne_self_eq_false, Bool.false_or, decide_eq_false_iff_not]
  exact Nat.not_le.mpr ahead

theorem settles_of_parked {arrivals : Nat} {wakeAt : Instant}
    (parked : call.stage = .parked arrivals wakeAt) (polls : 0 < queue.settings.pollInterval.nanos) :
    Settles now call queue := by
  cases ready : call.isReady queue now with
  | false => exact .rests ready
  | true =>
      apply Settles.turns
      simp only [step, parked, ready, if_true]
      exact settles_of_looking rfl polls

theorem settles (polls : 0 < queue.settings.pollInterval.nanos) (call : Reception) (now : Instant) :
    Settles now call queue := by
  cases stage : call.stage with
  | unstarted =>
      apply Settles.turns
      simp only [step, stage]
      exact settles_of_looking rfl polls
  | looking => exact settles_of_looking stage polls
  | registered => exact settles_of_registered stage polls fun _ _ => settles_of_parked rfl polls
  | parked => exact settles_of_parked stage polls
  | finished => exact .rests (by simp [isReady, stage])

end Reception

namespace Listener

/-- The listener waits or has ended after some turns, whatever ids it uses for the messages it sends. -/
inductive Scene.Settles : Scene → Prop
  | rests {scene : Scene} (still : scene.listener.isReady scene.queue scene.now = false) :
      Settles scene
  | turns {scene : Scene} (settles : ∀ freshId, Settles (⟨scene, freshId⟩ : Turn).next) :
      Settles scene

def Stage.Settles (settings : Settings) (now : Instant) (stage : Stage) : Prop :=
  ∀ listener queue, queue.settings = settings → listener.stage = stage →
    Scene.Settles ⟨listener, queue, now⟩

theorem Scene.settles_of_moves {listener : Listener} {queue : Queue} {now : Instant}
    (settles : ∀ freshId next rest notices,
      Move listener queue now freshId next rest notices → Settles ⟨next, rest, now⟩) :
    Settles ⟨listener, queue, now⟩ :=
  .turns fun freshId => settles freshId _ _ _ (Turn.move ⟨⟨listener, queue, now⟩, freshId⟩)

section Stages

variable {settings : Settings} {now iteration : Instant}

theorem Stage.settles_finished (fault : Option Fault) :
    Stage.Settles settings now (.finished fault) := by
  intro listener queue _ stage
  exact .rests (by simp [isReady, stage])

theorem Stage.settles_ahead {wakeAt : Instant} (ahead : now < wakeAt) :
    Stage.Settles settings now (.sleeping wakeAt) := by
  intro listener queue _ stage
  exact .rests (by simp [isReady, stage, Instant.le_iff, Instant.lt_iff.mp ahead])

theorem Stage.settles_dispatched
    (again : iteration + settings.listenInterval ≤ now → Stage.Settles settings now .betweenIterations) :
    Stage.Settles settings now (.dispatched iteration) := by
  intro listener queue sameSettings stage
  refine Scene.settles_of_moves ?_
  intro freshId next rest notices move
  cases move with
  | stops => exact settles_finished none _ _ sameSettings rfl
  | sleeps dispatched calm early =>
      obtain rfl := Stage.dispatched.inj (dispatched.symm.trans stage)
      exact settles_ahead early _ _ sameSettings rfl
  | restarts dispatched calm late =>
      obtain rfl := Stage.dispatched.inj (dispatched.symm.trans stage)
      exact again (sameSettings ▸ late) _ _ sameSettings rfl
  | idles waiting => simp [isReady, stage] at waiting
  | _ => simp_all

theorem Stage.settles_handling (after : Stage.Settles settings now (.dispatched iteration))
    (message : Message) (todo : List Action) (resumeAt : Instant) :
    Stage.Settles settings now (.handling iteration message todo resumeAt) := by
  induction todo generalizing message resumeAt with
  | nil =>
      intro listener queue sameSettings stage
      by_cases due : listener.isReady queue now = true
      · refine Scene.settles_of_moves ?_
        intro freshId next rest notices move
        cases move with
        | ends handling =>
            obtain ⟨rfl, _, _, _⟩ := Stage.handling.inj (handling.symm.trans stage)
            exact after _ _ sameSettings rfl
        | _ => simp_all
      · exact .rests (Bool.not_eq_true _ ▸ due)
  | cons action todo ih =>
      intro listener queue sameSettings stage
      by_cases due : listener.isReady queue now = true
      · refine Scene.settles_of_moves ?_
        intro freshId next rest notices move
        cases move with
        | acts handling =>
            obtain ⟨rfl, _, same, _⟩ := Stage.handling.inj (handling.symm.trans stage)
            obtain ⟨_, rfl⟩ := List.cons.inj same
            refine ih _ _ _ _ ?_ rfl
            rw [← Queue.after_map, Queue.after_settings]
            exact sameSettings
        | ends handling =>
            obtain ⟨rfl, _, _, _⟩ := Stage.handling.inj (handling.symm.trans stage)
            exact after _ _ sameSettings rfl
        | _ => simp_all
      · exact .rests (Bool.not_eq_true _ ▸ due)

theorem Stage.settles_registered (after : Stage.Settles settings now (.dispatched iteration))
    {call : Reception} {arrivals : Nat} (registered : call.stage = .registered arrivals)
    {listener : Listener} {queue : Queue} (sameSettings : queue.settings = settings)
    (stage : listener.stage = .receiving iteration call)
    (parked : ∀ next : Listener, next.stage = .receiving iteration
        { call with
          stage := .parked arrivals (now + min (call.deadline - now) settings.pollInterval) } →
      now < call.deadline → Scene.Settles ⟨next, queue, now⟩) :
    Scene.Settles ⟨listener, queue, now⟩ := by
  refine Scene.settles_of_moves ?_
  intro freshId next rest notices move
  cases move with
  | waits receiving advanced unfinished =>
      obtain ⟨rfl, rfl⟩ := Stage.receiving.inj (receiving.symm.trans stage)
      cases advanced with
      | parks looked empty early =>
          obtain rfl := Reception.Stage.registered.inj (looked.symm.trans registered)
          exact parked _ (by rw [sameSettings]) early
      | idles waiting => simp [Reception.isReady, registered] at waiting
      | takes | givesUp => simp [Reception.isFinished] at unfinished
      | _ => simp_all
  | misses receiving =>
      obtain ⟨rfl, _⟩ := Stage.receiving.inj (receiving.symm.trans stage)
      exact after _ _ sameSettings rfl
  | gives receiving looked taken =>
      obtain ⟨rfl, _⟩ := Stage.receiving.inj (receiving.symm.trans stage)
      obtain ⟨_, _, _, _, rfl⟩ := Queue.take?_eq_some taken
      exact settles_handling after _ _ _ _ _ sameSettings rfl
  | handsBack receiving looked taken =>
      obtain ⟨rfl, _⟩ := Stage.receiving.inj (receiving.symm.trans stage)
      obtain ⟨_, _, _, _, rfl⟩ := Queue.take?_eq_some taken
      refine after _ _ ?_ rfl
      exact (Operation.perform_effect (.abandon _) _ now).settings.trans sameSettings
  | idles waiting => simp [isReady, stage, Reception.isReady, registered] at waiting
  | _ => simp_all

theorem Stage.settles_looking (polls : 0 < settings.pollInterval.nanos)
    (after : Stage.Settles settings now (.dispatched iteration)) {call : Reception}
    (looks : call.stage = .looking) : Stage.Settles settings now (.receiving iteration call) := by
  intro listener queue sameSettings stage
  refine Scene.settles_of_moves ?_
  intro freshId next rest notices move
  cases move with
  | waits receiving advanced =>
      obtain ⟨rfl, rfl⟩ := Stage.receiving.inj (receiving.symm.trans stage)
      cases advanced with
      | registers =>
          -- The call parks at the count of arrivals that the queue has, for a slice of some length.
          refine settles_registered after rfl sameSettings rfl ?_
          intro parked stage early
          refine .rests ?_
          simp only [isReady, stage, Reception.isReady, Bool.or_eq_false_iff, bne_self_eq_false,
            decide_eq_false_iff_not, true_and, Instant.le_iff, Instant.lt_iff, Instant.add_nanos,
            Duration.min_nanos, Instant.sub_nanos] at early ⊢
          omega
      | idles waiting => simp [Reception.isReady, looks] at waiting
      | _ => simp_all
  | idles waiting => simp [isReady, stage, Reception.isReady, looks] at waiting
  | _ => simp_all

theorem Stage.settles_parked (polls : 0 < settings.pollInterval.nanos)
    (after : Stage.Settles settings now (.dispatched iteration)) {call : Reception} {arrivals : Nat}
    {wakeAt : Instant} (waits : call.stage = .parked arrivals wakeAt) :
    Stage.Settles settings now (.receiving iteration call) := by
  intro listener queue sameSettings stage
  by_cases due : listener.isReady queue now = true
  · refine Scene.settles_of_moves ?_
    intro freshId next rest notices move
    cases move with
    | waits receiving advanced =>
        obtain ⟨rfl, rfl⟩ := Stage.receiving.inj (receiving.symm.trans stage)
        cases advanced with
        | wakes => exact settles_looking polls after rfl _ _ sameSettings rfl
        | idles waiting => simp [isReady, stage, waiting] at due
        | _ => simp_all
    | idles waiting => simp [waiting] at due
    | _ => simp_all
  · exact .rests (Bool.not_eq_true _ ▸ due)

theorem Stage.settles_receiving (polls : 0 < settings.pollInterval.nanos)
    (after : Stage.Settles settings now (.dispatched iteration)) (call : Reception) :
    Stage.Settles settings now (.receiving iteration call) := by
  intro listener queue sameSettings stage
  cases callStage : call.stage with
  | unstarted =>
      refine Scene.settles_of_moves ?_
      intro freshId next rest notices move
      cases move with
      | waits receiving advanced =>
          obtain ⟨rfl, rfl⟩ := Stage.receiving.inj (receiving.symm.trans stage)
          cases advanced with
          | begins => exact settles_looking polls after rfl _ _ sameSettings rfl
          | idles waiting => simp [Reception.isReady, callStage] at waiting
          | _ => simp_all
      | idles waiting => simp [isReady, stage, Reception.isReady, callStage] at waiting
      | _ => simp_all
  | looking => exact settles_looking polls after callStage _ _ sameSettings stage
  | registered arrivals =>
      refine settles_registered after callStage sameSettings stage ?_
      intro next waits _
      exact settles_parked polls after rfl _ _ sameSettings waits
  | parked arrivals wakeAt => exact settles_parked polls after callStage _ _ sameSettings stage
  | finished result => exact .rests (by simp [isReady, stage, Reception.isReady, callStage])

theorem Stage.settles (polls : 0 < settings.pollInterval.nanos)
    (paces : 0 < settings.listenInterval.nanos) (stage : Stage) :
    Stage.Settles settings now stage := by
  have paced : ¬ now + settings.listenInterval ≤ now := by
    simp only [Instant.le_iff, Instant.add_nanos]
    omega
  have receiving := settles_receiving polls
    (settles_dispatched fun passed => absurd passed paced : Stage.Settles settings now (.dispatched now))
  have between : Stage.Settles settings now .betweenIterations := by
    intro listener queue sameSettings stage
    refine Scene.settles_of_moves ?_
    intro freshId next rest notices move
    cases move with
    | begins => exact receiving _ _ _ sameSettings rfl
    | stops => exact settles_finished none _ _ sameSettings rfl
    | idles waiting => simp [isReady, stage] at waiting
    | _ => simp_all
  have dispatched (iteration : Instant) : Stage.Settles settings now (.dispatched iteration) :=
    settles_dispatched fun _ => between
  cases stage with
  | starting =>
      intro listener queue sameSettings stage
      refine Scene.settles_of_moves ?_
      intro freshId next rest notices move
      cases move with
      | refused => exact settles_finished _ _ _ sameSettings rfl
      | opens => exact between _ _ sameSettings rfl
      | idles waiting => simp [isReady, stage] at waiting
      | _ => simp_all
  | betweenIterations => exact between
  | receiving iteration call => exact settles_receiving polls (dispatched iteration) call
  | handling iteration message todo resumeAt =>
      exact settles_handling (dispatched iteration) message todo resumeAt
  | dispatched iteration => exact dispatched iteration
  | sleeping wakeAt =>
      intro listener queue sameSettings stage
      refine Scene.settles_of_moves ?_
      intro freshId next rest notices move
      cases move with
      | wakes => exact between _ _ sameSettings rfl
      | idles waiting => exact .rests waiting
      | _ => simp_all
  | finished fault => exact settles_finished fault

end Stages

end Listener

namespace Listening

variable {listening : Listening}

def isReady (listening : Listening) : Bool :=
  listening.scene?.any fun scene => scene.listener.isReady scene.queue scene.now

theorem rests_of_settles {scene : Listener.Scene} (settles : scene.Settles)
    (present : listening.scene? = some scene) :
    ∃ count, (listening.further (List.replicate count (.turn listening.id))).isReady = false := by
  induction settles generalizing listening with
  | @rests scene still =>
      refine ⟨0, ?_⟩
      rw [List.replicate_zero, further_nil, isReady, present]
      exact still
  | @turns scene settles ih =>
      obtain ⟨count, rests⟩ := ih _ (scene_turn present)
      refine ⟨count + 1, ?_⟩
      rw [further_further] at rests
      exact rests

theorem rests (listening : Listening) (polls : .ofMillis 1 ≤ listening.run.settings.pollInterval)
    (paces : .ofMillis 1 ≤ listening.interval) :
    ∃ count, (listening.further (List.replicate count (.turn listening.id))).isReady = false := by
  have positive {span : Duration} (long : Duration.ofMillis 1 ≤ span) : 0 < span.nanos :=
    Nat.lt_of_lt_of_le (by decide) long
  cases present : listening.scene? with
  | none =>
      refine ⟨0, ?_⟩
      rw [List.replicate_zero, further_nil, isReady, present]
      rfl
  | some scene =>
      obtain ⟨listener, queue, now⟩ := scene
      refine rests_of_settles ?_ present
      exact Listener.Stage.settles (positive polls) (positive paces) listener.stage listener queue
        (settings_of_scene present) rfl

end Listening

end LeaseQueue
