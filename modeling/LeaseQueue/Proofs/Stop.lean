import LeaseQueue.Proofs.Pace
import LeaseQueue.Proofs.Rest

/-!
Requests to stop. All listeners of a queue share one request, and a clear or the start of another
listener takes it back. As long as nothing does, no listener of the queue calls its receiver again, and
each ends within its interval or with the call that was under way.
-/

namespace LeaseQueue

theorem Queue.after_cancelled {queue : Queue} {history : List (Instant × Operation)}
    (kept : ∀ moment ∈ history, moment.2.takesBack = false)
    (asked : queue.cancelled = true ∨ ∃ moment ∈ history, moment.2.asksToStop = true) :
    (queue.after history).cancelled = true := by
  induction history generalizing queue with
  | nil => simpa [Queue.after] using asked
  | cons moment rest ih =>
      have flag := (moment.2.perform_signals queue moment.1).cancelled
      rw [kept moment List.mem_cons_self] at flag
      refine ih (fun other member => kept other (List.mem_cons_of_mem _ member)) ?_
      rcases asked with cancelled | ⟨request, member, stops⟩
      · exact Or.inl (by simp [flag, cancelled])
      · rcases List.mem_cons.mp member with rfl | later
        · exact Or.inl (by simp [flag, stops])
        · exact Or.inr ⟨request, later, stops⟩

namespace Listener

def inCallback (listener : Listener) : Bool :=
  match listener.stage with
  | .handling _ _ _ _ => true
  | _ => false

section Moves

variable {listener next : Listener} {queue rest : Queue} {now : Instant} {freshId : MessageId}
  {notices : List Notice}

theorem Move.gives_nothing (move : Move listener queue now freshId next rest notices)
    (still : queue.cancelled = true ∨ listener.isFinished = true) :
    notices.filterMap Notice.message? = [] := by
  cases move with
  | gives receiving registered taken calm =>
      rcases still with cancelled | finished
      · simp [calm] at cancelled
      · simp [isFinished, receiving] at finished
  | _ => rfl

theorem Move.isFinished (move : Move listener queue now freshId next rest notices)
    (finished : listener.isFinished = true) : next.isFinished = true := by
  have idle : listener.isReady queue now = false := by
    unfold Listener.isFinished at finished
    unfold isReady
    split at finished <;> simp_all
  cases move with
  | idles => exact finished
  | refused | stops => rfl
  | _ => simp_all [Listener.isFinished]

theorem Move.inCallback (move : Move listener queue now freshId next rest notices)
    (cancelled : queue.cancelled = true) (free : listener.inCallback = false) :
    next.inCallback = false := by
  cases move with
  | idles => exact free
  | gives receiving registered taken calm => simp [calm] at cancelled
  | acts handling => simp [Listener.inCallback, handling] at free
  | _ => rfl

end Moves

theorem Timed.waits {scene : Scene} {interval span : Duration} {latest : Instant}
    (timed : scene.listener.Timed interval latest) (waits : scene.waits span = true)
    (free : scene.listener.inCallback = false) (unended : scene.listener.isFinished = false) :
    scene.now + span ≤ latest + interval ∨ Instant.endOfClock ≤ (latest + interval).nanos := by
  obtain ⟨listener, queue, now⟩ := scene
  simp only [Scene.waits, Bool.and_eq_true, Bool.not_eq_true'] at waits
  obtain ⟨unready, wakes⟩ := waits
  unfold Timed at timed
  simp only at timed unready wakes free unended ⊢
  cases stage : listener.stage with
  | starting | betweenIterations | dispatched => simp [isReady, stage] at unready
  | handling => simp [inCallback, stage] at free
  | finished => simp [isFinished, stage] at unended
  | sleeping wakeAt =>
      rw [stage] at timed
      obtain ⟨iteration, before, rfl⟩ := timed
      simp only [wakeAt?, stage, Option.all_some, decide_eq_true_eq] at wakes
      simp only [Instant.le_iff, Instant.add_nanos] at before wakes ⊢
      omega
  | receiving iteration call =>
      rw [stage] at timed
      obtain ⟨before, timed⟩ := timed
      simp only [isReady, wakeAt?, stage] at unready wakes
      cases callStage : call.stage with
      | unstarted | looking | registered => simp [Reception.isReady, callStage] at unready
      | finished => simpa [Reception.isFinished, callStage] using timed.unfinished
      | parked arrivals wakeAt =>
          -- The call wakes at its deadline at the latest, which is an interval after the iteration
          -- began, unless the clock ends before that.
          simp only [Reception.wakeAt?, callStage, Option.all_some, decide_eq_true_eq] at wakes
          have bound := timed.wakes arrivals wakeAt callStage
          rw [timed.deadline_eq] at bound
          by_cases fits : (iteration + interval).nanos < Instant.endOfClock
          · rw [Instant.deadlineAfter_of_fits fits] at bound
            simp only [Instant.le_iff, Instant.add_nanos] at before wakes bound ⊢
            omega
          · simp only [Instant.le_iff, Instant.add_nanos] at before fits ⊢
            omega

end Listener

namespace Listening

variable {listening : Listening}

/-- In the event a stop is asked for on the queue of the listener, by whoever acts in it. -/
def asksToStop (listening : Listening) (event : System.Event) : Bool :=
  (listening.historyDuring [event]).any fun moment => moment.2.asksToStop

/-- Nothing in the events takes a request to stop back. -/
def keepsRequest (listening : Listening) (events : List System.Event) : Bool :=
  (listening.historyDuring events).all fun moment => !moment.2.takesBack

def inCallback (listening : Listening) : Bool :=
  listening.scene?.any fun scene => scene.listener.inCallback

def hasEnded (listening : Listening) : Bool :=
  listening.scene?.all fun scene => scene.listener.isFinished

theorem keepsRequest_append (first second : List System.Event) :
    listening.keepsRequest (first ++ second) =
      (listening.keepsRequest first && (listening.further first).keepsRequest second) := by
  rw [keepsRequest, historyDuring_append, List.all_append]
  rfl

theorem further_cancelled {more : List System.Event} (kept : listening.keepsRequest more = true)
    (asked : listening.whole.queue.cancelled = true ∨
      ∃ moment ∈ listening.historyDuring more, moment.2.asksToStop = true) :
    (listening.further more).whole.queue.cancelled = true := by
  have untouched : ∀ moment ∈ listening.historyDuring more, moment.2.takesBack = false := by
    simpa [keepsRequest] using kept
  rw [further_whole, Run.further_queue]
  exact Queue.after_cancelled untouched asked

theorem keepsRequest_before {early more : List System.Event}
    (kept : listening.keepsRequest more = true) (within : early <+: more) :
    listening.keepsRequest early = true := by
  obtain ⟨late, rfl⟩ := within
  rw [keepsRequest_append, Bool.and_eq_true] at kept
  exact kept.1

theorem cancelled_of_kept {more early : List System.Event}
    (cancelled : listening.whole.queue.cancelled = true)
    (kept : listening.keepsRequest more = true) (within : early <+: more) :
    (listening.further early).whole.queue.cancelled = true :=
  further_cancelled (keepsRequest_before kept within) (Or.inl cancelled)

theorem cancelled_of_asked {event : System.Event} {more : List System.Event}
    (asks : listening.asksToStop event = true) (kept : listening.keepsRequest (event :: more) = true) :
    (listening.further [event]).whole.queue.cancelled = true ∧
      (listening.further [event]).keepsRequest more = true := by
  rw [← List.singleton_append, keepsRequest_append, Bool.and_eq_true] at kept
  refine ⟨further_cancelled kept.1 (Or.inr ?_), kept.2⟩
  simpa [asksToStop] using asks

theorem now_of_asked {event : System.Event} (asks : listening.asksToStop event = true) :
    (listening.further [event]).now = listening.now := by
  rw [now, further_final]
  refine System.clock_after ?_
  rintro span rfl
  simp [asksToStop, historyDuring, System.history, System.operations] at asks

theorem givenDuring_append (first second : List System.Event) :
    listening.givenDuring (first ++ second) =
      listening.givenDuring first ++ (listening.further first).givenDuring second := by
  rw [givenDuring, turnsDuring_append, List.flatMap_append]
  rfl

theorem givenDuring_eq_nil {more : List System.Event}
    (still : ∀ early scene, early <+: more → (listening.further early).scene? = some scene →
      scene.queue.cancelled = true ∨ scene.listener.isFinished = true) :
    listening.givenDuring more = [] := by
  rw [givenDuring, List.flatMap_eq_nil_iff]
  intro turn member
  obtain ⟨early, within, present⟩ := scene_of_turn member
  exact turn.move.gives_nothing
    (still early _ ((List.prefix_append _ _).trans within) present)

theorem isFinished_further {more : List System.Event} {scene : Listener.Scene}
    (ended : listening.hasEnded = true) (found : (listening.further more).scene? = some scene) :
    scene.listener.isFinished = true := by
  refine carried (fun _ scene => scene.listener.isFinished = true) ?_ ?_ found
  · intro scene present
    simpa [hasEnded, present] using ended
  · intro early event before turns next _ _ moved held
    cases moved with
    | turn turn => exact turn.move.isFinished held
    | others | time => exact held

theorem timed_of_kept {more : List System.Event} {scene : Listener.Scene}
    (cancelled : listening.whole.queue.cancelled = true)
    (kept : listening.keepsRequest more = true)
    (found : (listening.further more).scene? = some scene) :
    scene.listener.Timed listening.interval listening.now := by
  refine carried (fun _ scene => scene.listener.Timed listening.interval listening.now) ?_ ?_ found
  · intro scene present
    rw [← now_of_scene present]
    exact timed present
  · intro early event before turns next within present moved held
    have asked : before.queue.cancelled = true := by
      rw [queue_of_scene present]
      exact cancelled_of_kept cancelled kept ((List.prefix_append _ _).trans within)
    cases moved with
    | turn turn =>
        have interval : listening.interval = turn.queue.settings.listenInterval :=
          (interval_of_scene present :)
        rw [interval] at held ⊢
        refine held.move turn.move ?_
        intro _ calm
        simp [asked] at calm
    | others | time => exact held

theorem isFinished_or_early {first second : List System.Event} {scene : Listener.Scene}
    (cancelled : listening.whole.queue.cancelled = true)
    (kept : listening.keepsRequest (first ++ second) = true)
    (attended : (listening.further first).attendedDuring second = true)
    (free : (listening.further first).inCallback = false)
    (onClock : (listening.further (first ++ second)).now.nanos < Instant.endOfClock)
    (found : (listening.further (first ++ second)).scene? = some scene) :
    scene.listener.isFinished = true ∨ scene.now ≤ listening.now + listening.interval ∨
      scene.now ≤ (listening.further first).now := by
  rw [← further_further] at found onClock
  have carried := carried (fun _ scene => scene.listener.inCallback = false ∧
    (scene.listener.isFinished = true ∨ scene.now ≤ listening.now + listening.interval ∨
      scene.now ≤ (listening.further first).now)) ?_ ?_ found
  · exact carried.2
  · intro scene present
    rw [inCallback, present] at free
    refine ⟨free, Or.inr (Or.inr ?_)⟩
    rw [now_of_scene present]
    exact Nat.le_refl _
  · intro early event before turns next within present moved held
    obtain ⟨free, bounded⟩ := held
    have sofar : first ++ early <+: first ++ second :=
      (List.prefix_append_right_inj first).mpr ((List.prefix_append _ _).trans within)
    have asked : before.queue.cancelled = true := by
      rw [queue_of_scene present, further_further]
      exact cancelled_of_kept cancelled kept sofar
    cases moved with
    | turn turn =>
        refine ⟨turn.move.inCallback asked free, ?_⟩
        rcases bounded with finished | bounded
        · exact Or.inl (turn.move.isFinished finished)
        · exact Or.inr bounded
    | others => exact ⟨free, bounded⟩
    | time _ span =>
        -- Only here the bound can be passed, and a listener that waits does so for a time within it.
        refine ⟨free, ?_⟩
        have passed : ((listening.further first).further (early ++ [.pass span])).now ≤
            ((listening.further first).further second).now := now_le_of_prefix within
        rw [← further_further, now_pass, ← now_of_scene present] at passed
        have waits := waits_of_attended attended within present
        rw [further_further] at present
        cases ended : before.listener.isFinished with
        | true => exact Or.inl rfl
        | false =>
            have held := timed_of_kept cancelled (keepsRequest_before kept sofar) present
            refine Or.inr (Or.inl ?_)
            rcases held.waits waits free ended with bound | beyond
            · exact bound
            · simp only [Instant.le_iff] at passed beyond ⊢
              omega

end Listening

/-- A clear takes the request back, and the listener calls its receiver with the next message. -/
theorem clear_takes_request_back :
    ¬ ∀ (listening : Listening) (event : System.Event) (more : List System.Event),
      listening.asksToStop event = true → (listening.further [event]).givenDuring more = [] := by
  intro stands
  let late : Message := { id := ⟨1⟩, correlationId := "c", kind := "job", payload := [108] }
  have silent := stands .waiting (.call 0 .endListen)
    [.call 0 .clear, .call 0 (.send late), .turn 0, .turn 0, .turn 0] (by decide)
  have called : (Listening.waiting.further [.call 0 .endListen]).givenDuring
      [.call 0 .clear, .call 0 (.send late), .turn 0, .turn 0, .turn 0] =
        [(late.stamped .origin).withToken ⟨0⟩] := by
    decide
  rw [called] at silent
  simp at silent

/-- Once a stop was asked for, and until the request is taken back, the listener calls its receiver
with nothing that it receives; and once it has ended it never does again, whatever comes then. -/
theorem stop_request_stands (listening : Listening) {event : System.Event}
    {more : List System.Event} (asks : listening.asksToStop event = true)
    (kept : listening.keepsRequest (event :: more) = true) :
    (listening.further [event]).givenDuring more = [] ∧
      ∀ late, (listening.further (event :: more)).hasEnded = true →
        (listening.further [event]).givenDuring (more ++ late) = [] := by
  obtain ⟨cancelled, kept⟩ := Listening.cancelled_of_asked asks kept
  have silent : (listening.further [event]).givenDuring more = [] := by
    apply Listening.givenDuring_eq_nil
    intro early scene within present
    rw [Listening.queue_of_scene present]
    exact Or.inl (Listening.cancelled_of_kept cancelled kept within)
  refine ⟨silent, ?_⟩
  intro late ended
  rw [Listening.givenDuring_append, silent, List.nil_append, Listening.further_further]
  apply Listening.givenDuring_eq_nil
  intro early scene _ present
  exact Or.inr (Listening.isFinished_further ended present)

theorem stop_request_stands_waiting :
    let late : Message := { id := ⟨1⟩, correlationId := "c", kind := "job", payload := [108] }
    let more : List System.Event := [.call 0 (.send late), .turn 0, .turn 0, .turn 0, .turn 0]
    (Listening.waiting.further [.call 0 .endListen]).givenDuring more = [] ∧
      (Listening.waiting.further [.call 0 .endListen]).givenDuring
        (more ++ [.call 0 .clear, .call 0 (.send late), .turn 0]) = [] := by
  intro late more
  have asks : Listening.waiting.asksToStop (.call 0 .endListen) = true := by decide
  have kept : Listening.waiting.keepsRequest (.call 0 .endListen :: more) = true := by decide
  obtain ⟨silent, ever⟩ := stop_request_stands .waiting asks kept
  exact ⟨silent, ever _ (by decide)⟩

/-- A listener comes to rest wherever it stands. Once a stop was asked for and nothing takes it back, a
listener that gets its turns in time has ended at any point later than an interval after the request
and later than the call of its receiver that was under way. -/
theorem stop_takes_effect_within_interval (listening : Listening) {event : System.Event}
    {first second : List System.Event}
    (polls : .ofMillis 1 ≤ listening.run.settings.pollInterval)
    (paces : .ofMillis 1 ≤ listening.interval) (asks : listening.asksToStop event = true)
    (kept : listening.keepsRequest (event :: (first ++ second)) = true)
    (free : (listening.further (event :: first)).inCallback = false)
    (attended : (listening.further (event :: first)).attendedDuring second = true)
    (late : listening.now + listening.interval <
      (listening.further (event :: (first ++ second))).now)
    (later : (listening.further (event :: first)).now <
      (listening.further (event :: (first ++ second))).now)
    (onClock : (listening.further (event :: (first ++ second))).now.nanos < Instant.endOfClock) :
    (∀ more, ∃ count, (listening.further
      (more ++ List.replicate count (.turn listening.id))).isReady = false) ∧
      (listening.further (event :: (first ++ second))).hasEnded = true := by
  refine ⟨?_, ?_⟩
  · intro more
    obtain ⟨count, still⟩ := (listening.further more).rests polls paces
    exact ⟨count, Listening.further_further more _ ▸ still⟩
  · obtain ⟨cancelled, kept⟩ := Listening.cancelled_of_asked asks kept
    have before : listening.further (event :: first) = (listening.further [event]).further first :=
      (Listening.further_further [event] first).symm
    have whole : listening.further (event :: (first ++ second)) =
        (listening.further [event]).further (first ++ second) :=
      (Listening.further_further [event] (first ++ second)).symm
    rw [before] at free attended later
    rw [whole] at late later onClock ⊢
    cases found : ((listening.further [event]).further (first ++ second)).scene? with
    | none => simp [Listening.hasEnded, found]
    | some scene =>
        rcases Listening.isFinished_or_early cancelled kept attended free onClock found
          with finished | early | early
        · simp [Listening.hasEnded, found, finished]
        · rw [Listening.now_of_scene found, Listening.now_of_asked asks] at early
          exact absurd late (Nat.not_lt.mpr early)
        · rw [Listening.now_of_scene found] at early
          exact absurd later (Nat.not_lt.mpr early)

def Listening.busy : Listening :=
  let message : Message := { id := ⟨1⟩, correlationId := "c", kind := "job", payload := [108] }
  Listening.waiting.further [.call 0 (.send message), .turn 0, .turn 0, .turn 0]

theorem stop_takes_effect_within_interval_busy :
    Listening.busy.inCallback = true ∧
      (∀ more, ∃ count, (Listening.busy.further
        (more ++ List.replicate count (.turn Listening.busy.id))).isReady = false) ∧
      (Listening.busy.further ([.call 0 .endListen, .turn 0, .turn 0] ++
        [.turn 0, .pass (.ofMillis 101)])).hasEnded = true := by
  have asks : Listening.busy.asksToStop (.call 0 .endListen) = true := by decide
  have kept : Listening.busy.keepsRequest
      ([.call 0 .endListen, .turn 0, .turn 0] ++ [.turn 0, .pass (.ofMillis 101)]) = true := by
    decide
  have free : (Listening.busy.further [.call 0 .endListen, .turn 0, .turn 0]).inCallback = false := by
    decide
  have attended : (Listening.busy.further [.call 0 .endListen, .turn 0, .turn 0]).attendedDuring
      [.turn 0, .pass (.ofMillis 101)] = true := by
    decide
  have late : Listening.busy.now + Listening.busy.interval < (Listening.busy.further
      ([.call 0 .endListen, .turn 0, .turn 0] ++ [.turn 0, .pass (.ofMillis 101)])).now := by
    decide
  have later : (Listening.busy.further [.call 0 .endListen, .turn 0, .turn 0]).now <
      (Listening.busy.further
        ([.call 0 .endListen, .turn 0, .turn 0] ++ [.turn 0, .pass (.ofMillis 101)])).now := by
    decide
  have onClock : (Listening.busy.further
      ([.call 0 .endListen, .turn 0, .turn 0] ++ [.turn 0, .pass (.ofMillis 101)])).now.nanos <
        Instant.endOfClock := by
    decide
  exact ⟨by decide, stop_takes_effect_within_interval .busy (by decide) (by decide) asks kept free
    attended late later onClock⟩

end LeaseQueue
