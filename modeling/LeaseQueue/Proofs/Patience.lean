import LeaseQueue.Proofs.Pace
import LeaseQueue.Proofs.Receiving
import LeaseQueue.Proofs.Rest
import LeaseQueue.Proofs.Wakeup

/-!
How long a receiving call waits. It looks at once when it begins, and again whenever it is woken or a
slice of its time is over, and each look but the last is in vain. It returns with a message no later than
at its deadline, or with none just then.
-/

namespace LeaseQueue

theorem Instant.le_deadlineAfter (now : Instant) (span : Duration) : now ≤ now.deadlineAfter span := by
  unfold deadlineAfter
  split <;> exact Nat.le_add_right _ _

namespace Reception

/-- Looks that found nothing, the first of them when the call began. -/
structure InVain (looks : List Scene) (began deadline : Instant) : Prop where
  first : ∀ look, looks.head? = some look → look.now = began
  empty : ∀ look ∈ looks, look.queue.store.pending = []
  early : ∀ look ∈ looks, look.now < deadline

/-- What the last look of a call came to. A lease runs from the look on, not from when the call began. -/
inductive Concludes (look : Scene) (timeout : Duration) (deadline : Instant) : Option Message → Prop
  | takes {message sent : Message} {rest : List Message} (timely : look.now ≤ deadline)
      (pending : look.queue.store.pending = sent :: rest)
      (message_eq : message = sent.withToken look.queue.store.nextToken)
      (left : look.next.queue.store.pending = rest)
      (lease : look.next.queue.store.lease? look.queue.store.nextToken =
        some ⟨look.queue.store.nextToken, message, ⟨timeout, look.now.deadlineAfter timeout⟩⟩) :
      Concludes look timeout deadline (some message)
  | givesUp (late : look.now = deadline) (empty : look.queue.store.pending = []) :
      Concludes look timeout deadline none

structure Scene.Open (scene : Scene) (began : Instant) (timeout : Duration) (looks : List Scene) :
    Prop where
  timed : scene.call.Timed began timeout
  inVain : InVain looks began (began.deadlineAfter timeout)
  fresh : looks = [] → scene.now = began ∧ (Waiter.calling scene.call).isParked = false
  after : began ≤ scene.now
  before : scene.now ≤ began.deadlineAfter timeout

inductive Scene.Standing (scene : Scene) (began : Instant) (timeout : Duration) :
    List Scene → Prop
  | unstarted (call : scene.call = .later timeout) (now : scene.now = began) :
      Standing scene began timeout []
  | waiting {looks : List Scene} (underWay : scene.Open began timeout looks) :
      Standing scene began timeout looks
  | finished {earlier : List Scene} {look : Scene} {result : Option Message}
      (stage : scene.call.stage = .finished result) (returned : look.next.call.stage = .finished result)
      (inVain : InVain earlier began (began.deadlineAfter timeout))
      (fresh : earlier = [] → look.now = began) (after : began ≤ look.now)
      (concludes : Concludes look timeout (began.deadlineAfter timeout) result) :
      Standing scene began timeout (earlier ++ [look])

variable {scene : Scene} {began : Instant} {timeout : Duration} {looks : List Scene}

theorem InVain.concat {deadline : Instant} (inVain : InVain looks began deadline)
    (fresh : looks = [] → scene.now = began) (empty : scene.queue.store.pending = [])
    (early : scene.now < deadline) : InVain (looks ++ [scene]) began deadline := by
  refine ⟨?_, ?_, ?_⟩
  · intro look head
    cases looks with
    | nil => exact Option.some.inj head ▸ fresh rfl
    | cons => exact inVain.first look head
  · intro look member
    rcases List.mem_append.mp member with old | new
    · exact inVain.empty look old
    · exact List.mem_singleton.mp new ▸ empty
  · intro look member
    rcases List.mem_append.mp member with old | new
    · exact inVain.early look old
    · exact List.mem_singleton.mp new ▸ early

theorem Scene.quiet_of_waiting (scene : Scene) (waiting : scene.call.isReady scene.queue scene.now = false) :
    scene.looks = false := by
  cases stage : scene.call.stage <;> simp_all [Scene.looks, isReady]

theorem Scene.looks_of_registered {arrivals : Nat} (registered : scene.call.stage = .registered arrivals) :
    scene.looks = true := by
  simp [Scene.looks, registered]

theorem Scene.Open.next (underWay : scene.Open began timeout looks) :
    scene.next.Standing began timeout (looks ++ if scene.looks then [scene] else []) := by
  obtain ⟨timed, inVain, fresh, after, before⟩ := underWay
  have advanced := scene.advance
  have keeps := timed.advance advanced
  have deadline := timed.deadline_eq
  have sameTimeout := timed.timeout_eq
  have sameTime : scene.next.now = scene.now := rfl
  generalize same : scene.next = next at advanced keeps sameTime ⊢
  obtain ⟨call, queue, now⟩ := next
  simp only at advanced keeps sameTime
  subst sameTime
  cases advanced with
  | begins unstarted => exact absurd unstarted timed.started
  | registers looking =>
      have quiet : scene.looks = false := by simp [Scene.looks, looking]
      simp only [quiet, Bool.false_eq_true, if_false, List.append_nil]
      exact .waiting ⟨keeps rfl, inVain, fun none => ⟨(fresh none).1, rfl⟩, after, before⟩
  | takes registered taken =>
      rw [looks_of_registered registered, if_pos rfl]
      rw [sameTimeout] at taken
      obtain ⟨first, rest, pending, rfl, rfl⟩ := Queue.take?_eq_some taken
      refine .finished rfl ?_ inVain (fun none => (fresh none).1) after
        (.takes before pending rfl ?_ ?_)
      · rw [same]
      · rw [same]
        rfl
      · rw [same]
        exact (Store.lease?_withGranted _ _ _ _ _ _).trans (if_pos rfl)
  | givesUp registered empty late =>
      rw [looks_of_registered registered, if_pos rfl]
      have now : scene.now = began.deadlineAfter timeout :=
        Instant.eq_iff.mpr (Nat.le_antisymm before (deadline ▸ late))
      refine .finished rfl ?_ inVain (fun none => (fresh none).1) after (.givesUp now empty)
      rw [same]
  | parks registered empty early =>
      rw [looks_of_registered registered, if_pos rfl]
      have vain := inVain.concat (fun none => (fresh none).1) empty (deadline ▸ early)
      exact .waiting ⟨keeps rfl, vain, by simp, after, before⟩
  | wakes parked due =>
      have quiet : scene.looks = false := by simp [Scene.looks, parked]
      simp only [quiet, Bool.false_eq_true, if_false, List.append_nil]
      exact .waiting ⟨keeps rfl, inVain, fun none => ⟨(fresh none).1, rfl⟩, after, before⟩
  | idles waiting =>
      have quiet := scene.quiet_of_waiting waiting
      simp only [quiet, Bool.false_eq_true, if_false, List.append_nil]
      exact .waiting ⟨timed, inVain, fresh, after, before⟩

theorem Scene.Standing.next (standing : scene.Standing began timeout looks) :
    scene.next.Standing began timeout (looks ++ if scene.looks then [scene] else []) := by
  cases standing with
  | unstarted call now =>
      obtain ⟨call, queue, now⟩ := scene
      simp only at call now
      subst call now
      have timed := timed_start timeout now
      have none : InVain [] now (now.deadlineAfter timeout) := ⟨by simp, by simp, by simp⟩
      exact .waiting ⟨timed, none, fun _ => ⟨rfl, rfl⟩, Nat.le_refl _, Instant.le_deadlineAfter now timeout⟩
  | waiting underWay => exact underWay.next
  | finished stage returned inVain fresh after concludes =>
      have quiet : scene.looks = false := by simp [Scene.looks, stage]
      have still : scene.next.call = scene.call := by simp [Scene.next, step, stage]
      simp only [quiet, Bool.false_eq_true, if_false, List.append_nil]
      exact .finished (still ▸ stage) returned inVain fresh after concludes

theorem Scene.Standing.performed (standing : scene.Standing began timeout looks)
    (operations : List Operation) : (scene.performed operations).Standing began timeout looks := by
  cases standing with
  | unstarted call now => exact .unstarted call now
  | waiting underWay =>
      obtain ⟨timed, inVain, fresh, after, before⟩ := underWay
      exact .waiting ⟨timed, inVain, fresh, after, before⟩
  | finished stage returned inVain fresh after concludes => exact .finished stage returned inVain fresh after concludes

theorem Scene.Standing.later (standing : scene.Standing began timeout looks) {span : Duration}
    (waits : scene.waits span = true) : (scene.later span).Standing began timeout looks := by
  simp only [Scene.waits, Bool.and_eq_true, Bool.not_eq_true'] at waits
  obtain ⟨unready, wakes⟩ := waits
  cases standing with
  | unstarted call now => simp [call, Reception.later, isReady] at unready
  | finished stage returned inVain fresh after concludes => exact .finished stage returned inVain fresh after concludes
  | waiting underWay =>
      obtain ⟨timed, inVain, fresh, after, before⟩ := underWay
      cases stage : scene.call.stage with
      | parked arrivals wakeAt =>
          have bound := timed.wakes arrivals wakeAt stage
          have looked : looks ≠ [] := fun none => by
            simpa [Waiter.isParked, stage] using (fresh none).2
          simp only [wakeAt?, stage, Option.all_some, decide_eq_true_eq] at wakes
          refine .waiting ⟨timed, inVain, fun none => absurd none looked, ?_, ?_⟩
          · exact Nat.le_trans after (Nat.le_add_right _ _)
          · exact timed.deadline_eq ▸ Nat.le_trans wakes bound
      | finished result => simpa [isFinished, stage] using timed.unfinished
      | _ => simp [isReady, stage] at unready

/-- For how many looks there has been a reason so far, slices of time apart: one when the call began, one
for each arrival since then, and a last one at its deadline. -/
def Stage.reasons (stage : Stage) (arrivals last : Nat) : Nat :=
  match stage with
  | .unstarted => arrivals
  | .looking => arrivals + last
  | .registered seen => seen + last
  | .parked seen _ => seen + 1
  | .finished _ => arrivals + 2

theorem Stage.reasons_mono (stage : Stage) {arrivals more last later : Nat} (arrived : arrivals ≤ more)
    (passed : last ≤ later) : stage.reasons arrivals last ≤ stage.reasons more later := by
  cases stage <;> simp only [Stage.reasons] <;> omega

def Scene.last (scene : Scene) : Nat := if scene.call.deadline ≤ scene.now then 1 else 0

theorem Scene.last_le_one (scene : Scene) : scene.last ≤ 1 := by
  unfold Scene.last
  split <;> decide

structure Scene.Paced (scene : Scene) (poll : Duration) (began : Instant) (arrivals count slices : Nat) :
    Prop where
  elapsed : began.nanos + slices * poll.nanos ≤ scene.now.nanos
  counted : count + arrivals ≤ slices + scene.call.stage.reasons scene.queue.arrivals scene.last
  wakes : ∀ arrivals wakeAt, scene.call.stage = .parked arrivals wakeAt →
    wakeAt = scene.call.deadline ∨ began.nanos + (slices + 1) * poll.nanos ≤ wakeAt.nanos

section Paced

variable {poll : Duration} {arrivals count slices : Nat}

theorem Scene.Paced.next (paced : scene.Paced poll began arrivals count slices)
    (informed : (Waiter.calling scene.call).Informed scene.queue False)
    (polls : scene.queue.settings.pollInterval = poll) :
    ∃ slices, scene.next.Paced poll began arrivals (count + if scene.looks then 1 else 0) slices := by
  obtain ⟨elapsed, counted, wakes⟩ := paced
  have advanced := scene.advance
  have sameArrivals := advanced.arrivals_eq
  have sameTime : scene.next.now = scene.now := rfl
  generalize scene.next = next at advanced sameArrivals sameTime ⊢
  obtain ⟨call, queue, now⟩ := next
  simp only at advanced sameArrivals sameTime
  subst sameTime
  have once := scene.last_le_one
  cases advanced with
  | begins unstarted =>
      simp only [Stage.reasons, unstarted] at counted
      refine ⟨slices, elapsed, ?_, by simp [start]⟩
      simp only [Stage.reasons, Scene.looks, unstarted, start, Bool.false_eq_true, if_false]
      omega
  | registers looking =>
      rw [looking] at counted
      refine ⟨slices, elapsed, ?_, by simp⟩
      simp only [Scene.looks, looking, Bool.false_eq_true, if_false]
      exact counted
  | @takes seen _ _ registered | @givesUp seen registered =>
      have known := informed.counted seen (by simp [Waiter.registeredAt?, registered])
      simp only [Stage.reasons, registered] at counted
      refine ⟨slices, elapsed, ?_, by simp⟩
      simp only [Stage.reasons, Scene.looks, registered, if_true]
      omega
  | parks registered empty early =>
      have inTime : scene.last = 0 := if_neg (Nat.not_le.mpr early)
      simp only [Stage.reasons, registered, inTime] at counted
      refine ⟨slices, elapsed, ?_, ?_⟩
      · simp only [Stage.reasons, Scene.looks, registered, if_true]
        omega
      · rintro arrivals wakeAt same
        obtain ⟨_, rfl⟩ := Stage.parked.inj same
        -- The slice is a whole one, or what is left until the deadline.
        rw [polls]
        simp only [Instant.eq_iff, Instant.lt_iff, Instant.add_nanos, Duration.min_nanos,
          Instant.sub_nanos, Nat.add_mul, Nat.one_mul] at early ⊢
        omega
  | @wakes seen wakeAt parked due =>
      have known := informed.counted seen (by simp [Waiter.registeredAt?, parked])
      simp only [Stage.reasons, parked] at counted
      simp only [Scene.looks, parked, Bool.false_eq_true, if_false, Nat.add_zero]
      rcases due with arrived | late
      · refine ⟨slices, elapsed, ?_, by simp⟩
        simp only [Stage.reasons]
        omega
      · rcases wakes seen wakeAt parked with rfl | whole
        · refine ⟨slices, elapsed, ?_, by simp⟩
          have last : Scene.last
              ⟨{ scene.call with stage := .looking }, scene.queue, scene.now⟩ = 1 := if_pos late
          simp only [Stage.reasons, last]
          omega
        · refine ⟨slices + 1, Nat.le_trans whole late, ?_, by simp⟩
          simp only [Stage.reasons]
          omega
  | idles waiting =>
      have quiet := scene.quiet_of_waiting waiting
      simp only [quiet, Bool.false_eq_true, if_false, Nat.add_zero]
      exact ⟨slices, elapsed, counted, wakes⟩

theorem Scene.Paced.performed (paced : scene.Paced poll began arrivals count slices)
    (operations : List Operation) :
    (scene.performed operations).Paced poll began arrivals count slices := by
  obtain ⟨elapsed, counted, wakes⟩ := paced
  have more := (scene.queue.performAll_heralds scene.now operations).arrivals_le
  have reasons := scene.call.stage.reasons_mono more (Nat.le_refl scene.last)
  exact ⟨elapsed, Nat.le_trans counted (Nat.add_le_add_left reasons slices), wakes⟩

theorem Scene.Paced.later (paced : scene.Paced poll began arrivals count slices) (span : Duration) :
    (scene.later span).Paced poll began arrivals count slices := by
  obtain ⟨elapsed, counted, wakes⟩ := paced
  have after : scene.now ≤ scene.now + span := Nat.le_add_right _ _
  have last : scene.last ≤ (scene.later span).last := by
    by_cases late : scene.call.deadline ≤ scene.now
    · have still : (scene.later span).last = 1 := if_pos (Nat.le_trans late after)
      have already : scene.last = 1 := if_pos late
      omega
    · have early : scene.last = 0 := if_neg late
      omega
  have reasons := scene.call.stage.reasons_mono (Nat.le_refl scene.queue.arrivals) last
  exact ⟨Nat.le_trans elapsed after, Nat.le_trans counted (Nat.add_le_add_left reasons slices), wakes⟩

theorem Scene.Paced.looks_le (paced : scene.Paced poll began arrivals count slices)
    (informed : (Waiter.calling scene.call).Informed scene.queue False) :
    count + arrivals ≤ slices + scene.queue.arrivals + 2 := by
  have counted := paced.counted
  have once := scene.last_le_one
  cases stage : scene.call.stage with
  | registered seen | parked seen wakeAt =>
      have known := informed.counted seen (by simp [Waiter.registeredAt?, stage])
      simp only [Stage.reasons, stage] at counted
      omega
  | _ =>
      simp only [Stage.reasons, stage] at counted
      omega

end Paced

end Reception

namespace Receiving

variable {receiving : Receiving} {scene : Reception.Scene}

theorem standing (attended : receiving.attended = true) (found : receiving.scene? = some scene) :
    scene.Standing receiving.run.now receiving.timeout receiving.looks := by
  refine carried (fun sofar scene =>
    scene.Standing receiving.run.now receiving.timeout sofar.looks) ?_ ?_ found
  · exact .unstarted rfl rfl
  · intro early event within before looks next present moved more standing
    rw [more]
    cases moved with
    | turn => exact standing.next
    | others apart =>
        rw [List.append_nil]
        exact standing.performed _
    | time span passes =>
        subst passes
        rw [List.append_nil]
        exact standing.later (waits_of_attended attended within present)

theorem informed (found : receiving.scene? = some scene) :
    (Waiter.calling scene.call).Informed scene.queue False := by
  refine carried (fun _ scene => (Waiter.calling scene.call).Informed scene.queue False) ?_ ?_ found
  · exact Job.informed_later receiving.timeout _ rfl
  · intro early event within before looks next present moved more informed
    cases moved with
    | turn => exact informed.advance before.advance
    | others apart => exact informed.herald (before.queue.performAll_heralds _ _) False.elim
    | time => exact informed

theorem settings_of_scene (found : receiving.scene? = some scene) :
    scene.queue.settings = receiving.run.settings := by
  rw [← (scene?_eq_some.mp found).2.1]
  exact receiving.whole.queue_settings

theorem paced (found : receiving.scene? = some scene) :
    ∃ slices, scene.Paced receiving.run.settings.pollInterval receiving.run.now
      receiving.run.queue.arrivals receiving.looks.length slices := by
  refine carried (fun sofar scene => ∃ slices,
    scene.Paced receiving.run.settings.pollInterval receiving.run.now
      receiving.run.queue.arrivals sofar.looks.length slices) ?_ ?_ found
  · exact ⟨0, by simp, Nat.le_refl _, by simp [Reception.later]⟩
  · rintro early event within before looks next present moved more ⟨slices, paced⟩
    rw [more, List.length_append]
    cases moved with
    | turn =>
        have polls : before.queue.settings.pollInterval = receiving.run.settings.pollInterval := by
          rw [settings_of_scene present]
          rfl
        have stepped := paced.next (informed present) polls
        cases looks : before.looks <;> simpa [looks] using stepped
    | others apart => exact ⟨slices, paced.performed _⟩
    | time span => exact ⟨slices, paced.later span⟩

end Receiving

end LeaseQueue
