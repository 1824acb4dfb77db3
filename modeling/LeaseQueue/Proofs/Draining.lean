import LeaseQueue.Demo
import LeaseQueue.Proofs.Registration
import LeaseQueue.Proofs.Solo
import LeaseQueue.Proofs.Validation

/-!
What the demonstration comes to. Its listener handles one message in each interval, and the
demonstration waits for as long as its own option allows, so it ends with the messages handled that an
interval of that time began with.
-/

namespace LeaseQueue

namespace Demo

/-- What a queue has come to when its listener has handled some of the messages that were sent. -/
structure Tally (sent handled millis : Nat) (queue : Queue) : Prop where
  opened : queue.isOpen = true
  goesOn : queue.cancelled = false
  millis : queue.settings.listenMillis = millis
  pending : queue.store.pending.length = sent - handled
  leases : queue.store.leases = []
  counters : queue.counters =
    { sent := .ofNat sent, received := .ofNat handled, completed := .ofNat handled }

variable {sent handled millis : Nat} {queue : Queue}

theorem plan_call (number : Nat) : plan.call number = [.complete] := by
  cases number with
  | zero => rfl
  | succ number => rfl

theorem ofNat_succ (number : Nat) : UInt64.ofNat (number + 1) = UInt64.ofNat number + 1 := by
  rw [UInt64.ofNat_add]
  rfl

theorem Tally.next (before : Tally sent handled millis queue) (more : handled < sent)
    (timeout : Duration) (now : Instant) :
    ∃ message rest, queue.take? timeout now = some (message, rest) ∧
      rest.cancelled = false ∧ Tally sent (handled + 1) millis (rest.complete message).2 := by
  cases taken : queue.take? timeout now with
  | none =>
      have left := before.pending
      rw [Queue.take?_eq_none.mp taken, List.length_nil] at left
      omega
  | some found =>
      obtain ⟨message, rest⟩ := found
      obtain ⟨first, others, head, rfl, rfl⟩ := Queue.take?_eq_some taken
      have left := before.pending
      rw [head, List.length_cons] at left
      refine ⟨_, _, rfl, before.goesOn, ?_⟩
      let token := queue.store.nextToken
      let granted := queue.store.withGranted (first.withToken token) others timeout now
      let received : Queue :=
        { queue with store := granted, counters := queue.counters.countReceived }
      have found : received.leaseOf? (first.withToken token) =
          some ⟨token, first.withToken token, Term.grant timeout now⟩ := by
        rw [Queue.leaseOf?_of_token rfl]
        exact (Store.lease?_withGranted ..).trans (if_pos rfl)
      rw [Queue.complete, Queue.settle_of_some _ found]
      refine ⟨before.opened, before.goesOn, before.millis, ?_, ?_, ?_⟩
      · have fewer : others.length = sent - (handled + 1) := by omega
        exact fewer
      · simp [received, granted, Store.withoutLease, before.leases, token]
      · simp [received, before.counters, Counters.countReceived, Counters.countCompleted, ofNat_succ]

theorem Tally.round {listener : Listener} {now : Instant}
    (before : Tally sent handled millis queue) (more : handled < sent) (positive : 0 < millis)
    (wakes : listener.stage = .starting ∨ ∃ wakeAt ≤ now, listener.stage = .sleeping wakeAt)
    (planned : listener.plan = plan) :
    ∃ next left, Listener.Strides now 7 listener queue next left ∧
      next.stage = .sleeping (now + Duration.ofMillis millis) ∧ next.plan = plan ∧
      Tally sent (handled + 1) millis left := by
  obtain ⟨message, rest, taken, goesOn, after⟩ :=
    before.next more queue.settings.listenInterval now
  have here : now ≤ now := Nat.le_refl _
  have ahead : now < now + Duration.ofMillis millis :=
    Nat.lt_add_of_pos_right (Nat.mul_pos positive (by decide))
  let standing (stage : Listener.Stage) : Listener := { listener with stage }
  let giving (stage : Listener.Stage) : Listener :=
    { listener with calls := listener.calls + 1, stage }
  let call := Reception.start queue.settings.listenInterval now
  let registered : Reception := { call with stage := .registered queue.arrivals }
  have opens : Listener.Leads now listener queue (standing .betweenIterations) queue := by
    rcases wakes with starting | ⟨wakeAt, due, sleeping⟩
    · have opened : queue.descriptor.isOpen = true := before.opened
      simp [Listener.Leads, Listener.step, Listener.isReady, starting, Descriptor.checkOpen, opened,
        Listener.moveTo, standing]
    · simp [Listener.Leads, Listener.step, Listener.isReady, sleeping, due, Listener.moveTo, standing]
  have begins : Listener.Leads now (standing .betweenIterations) queue
      (standing (.receiving now call)) queue := by
    simp [Listener.Leads, Listener.step, Listener.isReady, standing, call, before.goesOn,
      Listener.moveTo]
  have registers : Listener.Leads now (standing (.receiving now call)) queue
      (standing (.receiving now registered)) queue := by
    simp [Listener.Leads, Listener.step, Listener.isReady, standing, call, registered,
      Reception.isReady, Listener.receive, Reception.step, Reception.start, Listener.moveTo]
  have gives : Listener.Leads now (standing (.receiving now registered)) queue
      (giving (.handling now message [.complete] now)) rest := by
    simp [Listener.Leads, Listener.step, Listener.isReady, standing, giving, call, registered,
      Reception.isReady, Listener.receive, Reception.step, Reception.look, Reception.start, taken,
      Listener.dispatch, goesOn, planned, plan_call]
  have completes : Listener.Leads now (giving (.handling now message [.complete] now)) rest
      (giving (.handling now (rest.complete message).1 [] now)) (rest.complete message).2 := by
    simp [Listener.Leads, Listener.step, Listener.isReady, giving, here, Listener.handle,
      Listener.moveTo]
  have ends : Listener.Leads now (giving (.handling now (rest.complete message).1 [] now))
      (rest.complete message).2 (giving (.dispatched now)) (rest.complete message).2 := by
    simp [Listener.Leads, Listener.step, Listener.isReady, giving, here, Listener.handle,
      Listener.moveTo]
  have sleeps : Listener.Leads now (giving (.dispatched now)) (rest.complete message).2
      (giving (.sleeping (now + Duration.ofMillis millis))) (rest.complete message).2 := by
    have interval : (rest.complete message).2.settings.listenInterval = .ofMillis millis :=
      congrArg Duration.ofMillis after.millis
    simp [Listener.Leads, Listener.step, Listener.isReady, giving, Listener.rest, after.goesOn,
      interval, ahead, Listener.moveTo]
  exact ⟨_, _, .turn opens (.turn begins (.turn registers (.turn gives (.turn completes
    (.turn ends (.turn sleeps (.still _ _))))))), rfl, planned, after⟩

/-- When the iterations begin, if each lasts for its interval. -/
def iterationAt (millis number : Nat) : Instant := ⟨number * (Duration.ofMillis millis).nanos⟩

theorem iterationAt_zero (millis : Nat) : iterationAt millis 0 = .origin :=
  congrArg Instant.mk (Nat.zero_mul _)

theorem iterationAt_succ (millis number : Nat) :
    iterationAt millis number + Duration.ofMillis millis = iterationAt millis (number + 1) :=
  congrArg Instant.mk (Nat.succ_mul _ _).symm

theorem iterationAt_mono (millis : Nat) {first second : Nat} (order : first ≤ second) :
    iterationAt millis first ≤ iterationAt millis second :=
  Nat.mul_le_mul_right _ order

/-- How far the listener has come at a point of time: an iteration for each message that it handled has
begun before, and the next one, if a message is left, does not begin before it. -/
structure Progress (sent handled millis : Nat) (now : Instant) (listener : Listener) (queue : Queue) :
    Prop where
  reached : Tally sent handled millis queue
  begun : ∀ earlier < handled, iterationAt millis earlier < now
  goesOn : handled = sent ∧ listener.stage.Calm queue ∨
    handled < sent ∧ now ≤ iterationAt millis handled ∧ listener.plan = plan ∧
      (handled = 0 ∧ listener.stage = .starting ∨
        listener.stage = .sleeping (iterationAt millis handled))

def UnderWay (id index sent millis : Nat) (system : System) : Prop :=
  ∃ handled listener queue, system.Hosts id index listener queue ∧
    Progress sent handled millis system.clock listener queue

variable {id index : Nat} {system : System} {listener : Listener} {limit : Instant}

theorem Tally.pending_eq_nil (reached : Tally sent sent millis queue) : queue.store.pending = [] :=
  List.length_eq_zero_iff.mp (reached.pending.trans (Nat.sub_self sent))

theorem Tally.count_eq (reached : Tally sent handled millis queue) (few : sent < UInt64.size)
    (bound : handled ≤ sent) (hosts : system.Hosts id index listener queue) :
    Demo.handled index system = handled := by
  rw [Demo.handled, System.queue, hosts.held, Option.getD_some, reached.counters]
  exact UInt64.toNat_ofNat_of_lt' (Nat.lt_of_le_of_lt bound few)

theorem UnderWay.passes (positive : 0 < millis) (underWay : UnderWay id index sent millis system)
    (early : system.clock < limit) : UnderWay id index sent millis (system.passed limit) := by
  obtain ⟨handled, listener, queue, hosts, reached, begun, goesOn⟩ := underWay
  obtain ⟨further, -⟩ := System.passed_clock early
  have stillBegun (earlier : Nat) (before : earlier < handled) :
      iterationAt millis earlier < (system.passed limit).clock :=
    Nat.lt_trans (begun earlier before) further
  rcases goesOn with ⟨rfl, calm⟩ | ⟨more, before, planned, waits⟩
  · have steady := System.lasting_calm id index (.inr reached.pending_eq_nil)
    obtain ⟨next, settled, calm⟩ := steady.settleUntil ⟨listener, hosts, calm⟩
    exact ⟨handled, next, queue, settled.with_clock _, reached, stillBegun, .inl ⟨rfl, calm⟩⟩
  · by_cases due : system.clock < iterationAt millis handled
    · have sleeping : listener.stage = .sleeping (iterationAt millis handled) := by
        rcases waits with ⟨rfl, -⟩ | sleeping
        · exact absurd (iterationAt_zero millis ▸ due) (Nat.not_lt_zero _)
        · exact sleeping
      have settled := hosts.settle_of_waits (Listener.isReady_of_sleeping queue sleeping due)
      obtain ⟨passed, within⟩ := settled.passed_of_sleeping sleeping due limit
      exact ⟨handled, listener, queue, passed, reached, stillBegun,
        .inr ⟨more, within, planned, .inr sleeping⟩⟩
    · -- The iteration of the next message begins now, and the one after it in an interval's time.
      have now : system.clock = iterationAt millis handled :=
        congrArg Instant.mk (Nat.le_antisymm before (Nat.not_lt.mp due))
      have wakes : listener.stage = .starting ∨
          ∃ wakeAt ≤ system.clock, listener.stage = .sleeping wakeAt := by
        rcases waits with ⟨-, starting⟩ | sleeping
        · exact .inl starting
        · exact .inr ⟨_, Nat.not_lt.mp due, sleeping⟩
      obtain ⟨next, left, strides, sleeping, planned, after⟩ :=
        reached.round more positive wakes planned
      rw [now, iterationAt_succ] at sleeping
      have later : system.clock < iterationAt millis (handled + 1) := by
        rw [now, ← iterationAt_succ]
        exact Nat.lt_add_of_pos_right (Nat.mul_pos positive (by decide))
      have settled := hosts.settle_of_strides strides (by decide)
        (Listener.isReady_of_sleeping left sleeping later)
      obtain ⟨passed, within⟩ := settled.passed_of_sleeping sleeping later limit
      have begun (earlier : Nat) (before : earlier < handled + 1) :
          iterationAt millis earlier < (system.passed limit).clock :=
        Nat.lt_of_le_of_lt (iterationAt_mono millis (Nat.le_of_lt_succ before)) (now ▸ further)
      refine ⟨handled + 1, next, left, passed, after, begun, ?_⟩
      rcases Nat.lt_or_ge (handled + 1) sent with more | all
      · exact .inr ⟨more, within, planned, .inr sleeping⟩
      · exact .inl ⟨by omega, sleeping ▸ .sleeping _⟩

theorem UnderWay.sleep (positive : 0 < millis) (underWay : UnderWay id index sent millis system)
    (span : Duration) :
    UnderWay id index sent millis (system.sleep span) ∧
      (system.sleep span).clock = system.clock + span :=
  System.runUntil_reaches (fun _ => UnderWay.passes positive) underWay (Nat.le_add_right _ _)

def pausesFor (budget : Nat) : Nat := (budget + pauseMillis - 1) / pauseMillis

theorem deadline_le_iff (budget passed : Nat) :
    Instant.origin + Duration.ofMillis budget ≤ iterationAt pauseMillis passed ↔
      pausesFor budget ≤ passed := by
  have nanos : Instant.origin + Duration.ofMillis budget ≤ iterationAt pauseMillis passed ↔
      0 + budget * 1000000 ≤ passed * (5 * 1000000) := Iff.rfl
  rw [nanos, pausesFor, pauseMillis]
  omega

theorem UnderWay.waitFor (positive : 0 < millis) (budget : Nat) {pauses passed : Nat}
    (underWay : UnderWay id index sent millis system)
    (time : system.clock = iterationAt pauseMillis passed) (bound : passed ≤ pausesFor budget)
    (enough : pausesFor budget ≤ passed + pauses) :
    let waited := Demo.waitFor index sent (Instant.origin + Duration.ofMillis budget) pauses system
    UnderWay id index sent millis waited ∧ ∃ passed ≤ pausesFor budget,
      waited.clock = iterationAt pauseMillis passed ∧
      (Demo.handled index waited < sent → passed = pausesFor budget) := by
  induction pauses generalizing system passed with
  | zero => exact ⟨underWay, passed, bound, time, fun _ => Nat.le_antisymm bound enough⟩
  | succ pauses ih =>
      unfold Demo.waitFor
      split
      · rename_i ended
        refine ⟨underWay, passed, bound, time, fun fewer => ?_⟩
        have late := ended.resolve_left (Nat.not_le.mpr fewer)
        exact Nat.le_antisymm bound ((deadline_le_iff budget passed).mp (time ▸ late))
      · rename_i goesOn
        have early : ¬ pausesFor budget ≤ passed := fun late =>
          goesOn (.inr (time ▸ (deadline_le_iff budget passed).mpr late))
        obtain ⟨later, clock⟩ := underWay.sleep positive (.ofMillis pauseMillis)
        rw [time, iterationAt_succ] at clock
        exact ih later clock (by omega) (by omega)

/-- How many iterations begin within a time, when each lasts for its interval. -/
def iterationsIn (millis span : Nat) : Nat := (span + millis - 1) / millis

theorem lt_iterationsIn_iff (positive : 0 < millis) (number span : Nat) :
    number < iterationsIn millis span ↔ number * millis < span := by
  rw [iterationsIn, Nat.lt_iff_add_one_le, Nat.le_div_iff_mul_le positive, Nat.succ_mul]
  omega

theorem iterationAt_lt_iff (first number second other : Nat) :
    iterationAt first number < iterationAt second other ↔ number * first < other * second := by
  have nanos : iterationAt first number < iterationAt second other ↔
      number * (first * 1000000) < other * (second * 1000000) := Iff.rfl
  rw [nanos, ← Nat.mul_assoc, ← Nat.mul_assoc, Nat.mul_lt_mul_right (by decide)]

theorem Progress.bounded {now : Instant} (progress : Progress sent handled millis now listener queue) :
    handled ≤ sent := by
  rcases progress.goesOn with ⟨rfl, -⟩ | ⟨more, -⟩
  · exact Nat.le_refl _
  · exact Nat.le_of_lt more

theorem Progress.handled_eq_min {pauses passed : Nat} (positive : 0 < millis)
    (progress : Progress sent handled millis (iterationAt pauseMillis passed) listener queue)
    (bound : passed ≤ pauses) (late : handled < sent → passed = pauses) :
    handled = min sent (iterationsIn millis (pauses * pauseMillis)) := by
  have within (earlier : Nat) (before : earlier < handled) :
      earlier < iterationsIn millis (pauses * pauseMillis) := by
    have begun := (iterationAt_lt_iff ..).mp (progress.begun earlier before)
    exact (lt_iterationsIn_iff positive ..).mpr
      (Nat.lt_of_lt_of_le begun (Nat.mul_le_mul_right _ bound))
  have least : handled ≤ iterationsIn millis (pauses * pauseMillis) := by
    by_contra fewer
    exact Nat.lt_irrefl _ (within _ (Nat.not_le.mp fewer))
  rcases progress.goesOn with ⟨rfl, -⟩ | ⟨more, before, -⟩
  · exact (Nat.min_eq_left least).symm
  · rw [late more] at before
    have most : iterationsIn millis (pauses * pauseMillis) ≤ handled := by
      by_contra further
      have begun := (lt_iterationsIn_iff positive ..).mp (Nat.not_le.mp further)
      exact Nat.not_lt.mpr before ((iterationAt_lt_iff ..).mpr begun)
    rw [Nat.le_antisymm most least]
    exact (Nat.min_eq_right (Nat.le_of_lt more)).symm

theorem Progress.calm {now : Instant} (progress : Progress sent handled millis now listener queue) :
    listener.stage.Calm queue := by
  rcases progress.goesOn with ⟨-, calm⟩ | ⟨-, -, -, ⟨-, starting⟩ | sleeping⟩
  · exact calm
  · exact starting ▸ .starting
  · exact sleeping ▸ .sleeping _

theorem finish_queue? (hosts : system.Hosts id index listener queue) (calm : listener.stage.Calm queue) :
    (finish index id system).queue? index = some queue.endListen.close := by
  have lasting := System.lasting_calm id index (.inl (Eq.refl queue.endListen.cancelled))
  have stopping := hosts.modifyQueue Queue.endListen
  rw [finish, System.modifyQueue_queue?, if_pos rfl, System.queue?_drop]
  obtain ⟨next, ended, -⟩ := lasting.runUntil none _ ⟨listener, stopping, calm.endListen⟩
  rw [ended.held, Option.map_some]

theorem Tally.send (before : Tally sent 0 millis queue) (message : Message) (now : Instant) :
    Tally (sent + 1) 0 millis (queue.send message now) := by
  refine ⟨before.opened, before.goesOn, before.millis, ?_, before.leases, ?_⟩
  · have pending := before.pending
    simp only [Queue.send, Queue.push, Queue.announce, Store.push, List.length_append,
      List.length_singleton]
    omega
  · simp [Queue.send, Queue.push, Queue.announce, before.counters, Counters.countSent, ofNat_succ]

theorem sendAll_hosts (hosts : system.Hosts id index listener queue) (fresh : Tally 0 0 millis queue)
    (number : Nat) :
    let sending := (List.range number).foldl (sendOne index) system
    sending.clock = system.clock ∧
      ∃ filled, sending.Hosts id index listener filled ∧ Tally number 0 millis filled := by
  induction number with
  | zero => exact ⟨rfl, queue, hosts, fresh⟩
  | succ number ih =>
      rw [List.range_succ, List.foldl_append, List.foldl_cons, List.foldl_nil]
      generalize (List.range number).foldl (sendOne index) system = sending at ih
      obtain ⟨time, filled, before, reached⟩ := ih
      have minted : ({ sending with minted := sending.minted + 1 } : System).Hosts id index listener
          filled := ⟨before.tasks, before.held⟩
      let message : Message :=
        { id := sending.freshId
          correlationId := queueName
          kind := "tick"
          payload := (payload number).bytes }
      exact ⟨time, _, minted.modifyQueue fun queue => queue.send message sending.clock,
        reached.send message sending.clock⟩

theorem play_queue? (positive : 0 < millis) (few : sent < UInt64.size) (listenMillis : Nat)
    (alone : system.tasks = []) (time : system.clock = .origin) (held : system.queue? index = some queue)
    (fresh : Tally 0 0 millis queue) :
    ∃ ended, (play index sent listenMillis system).queue? index = some ended.endListen.close ∧
      Tally sent
        (min sent (iterationsIn millis (pausesFor (budgetMillis sent listenMillis) * pauseMillis)))
        millis ended := by
  let listener : Listener := { correlationId := queueName, plan }
  let begun := (system.beginListen index queueName plan).2
  let sending := (List.range sent).foldl (sendOne index) begun
  let budget := budgetMillis sent listenMillis
  let waited := waitFor index sent (Instant.origin + Duration.ofMillis budget) (budget / pauseMillis + 1)
    sending
  have hosts : begun.Hosts system.spawned index listener queue.resume := by
    have resumed : (system.modifyQueue index Queue.resume).queue? index = some queue.resume := by
      rw [System.modifyQueue_queue?, if_pos rfl, held, Option.map_some]
    have only : begun.tasks = system.tasks ++ [⟨system.spawned, index, .listen listener⟩] := rfl
    exact ⟨by rw [only, alone, List.nil_append], resumed⟩
  have resumed : Tally 0 0 millis queue.resume :=
    ⟨fresh.opened, rfl, fresh.millis, fresh.pending, fresh.leases, fresh.counters⟩
  obtain ⟨still, filled, hosts, reached⟩ := sendAll_hosts hosts resumed sent
  have origin : sending.clock = .origin := still.trans time
  have underWay : UnderWay system.spawned index sent millis sending := by
    refine ⟨0, listener, filled, hosts, reached, fun _ before => absurd before (Nat.not_lt_zero _), ?_⟩
    rcases Nat.eq_zero_or_pos sent with rfl | some
    · exact .inl ⟨rfl, .starting⟩
    · have due : sending.clock ≤ iterationAt millis 0 := by
        rw [origin]
        exact Nat.zero_le _
      exact .inr ⟨some, due, rfl, .inl ⟨rfl, rfl⟩⟩
  have enough : pausesFor budget ≤ 0 + (budget / pauseMillis + 1) := by
    rw [pausesFor, pauseMillis]
    omega
  obtain ⟨⟨handled, next, ended, there, progress⟩, passed, bound, clock, late⟩ :=
    underWay.waitFor positive budget (origin.trans (iterationAt_zero _).symm) (Nat.zero_le _) enough
  refine ⟨ended, ?_, ?_⟩
  · have played : play index sent listenMillis system = finish index system.spawned waited := by
      simp only [waited, ← origin]
      rfl
    rw [played]
    exact finish_queue? there progress.calm
  · have counted := progress.reached.count_eq few progress.bounded there
    rw [counted] at late
    rw [clock] at progress
    rw [← progress.handled_eq_min positive bound late]
    exact progress.reached

/-- The interval that the demonstration's queue listens with: its own entry comes before the option. -/
def listenInterval (configuration : Configuration) (listenMillis : Nat) : Nat :=
  match configuration.entry? queueName with
  | some entry => entry.listenMillis.getD (intervalMillis listenMillis)
  | none => intervalMillis listenMillis

theorem intervalMillis_pos (listenMillis : Nat) : 0 < intervalMillis listenMillis :=
  Nat.le_max_right listenMillis 1

section Run

variable {configuration : Configuration}

theorem settingsFor_configure (configuration : Configuration) (listenMillis : Nat) :
    ((configure configuration listenMillis).settingsFor queueName).listenMillis =
      listenInterval configuration listenMillis := by
  have same : Configuration.entry? (configure configuration listenMillis) queueName =
      configuration.entry? queueName := rfl
  rw [Configuration.settingsFor, same, listenInterval]
  cases configuration.entry? queueName with
  | none => rfl
  | some entry => rfl

theorem valid_configure (valid : configuration.Valid) (listenMillis : Nat) :
    (configure configuration listenMillis).Valid := by
  have positive := intervalMillis_pos listenMillis
  refine ⟨⟨valid.defaults.1, positive⟩, valid.named, valid.distinct, fun entry member => ?_⟩
  obtain ⟨polls, listens⟩ := valid.resolved entry member
  refine ⟨polls, ?_⟩
  cases own : entry.listenMillis with
  | none => simpa [Entry.over, own, configure] using positive
  | some millis => simpa [Entry.over, own] using listens

theorem listenInterval_pos (valid : configuration.validate = .ok ()) (listenMillis : Nat) :
    0 < listenInterval configuration listenMillis := by
  have configured := valid_configure (configuration.validate_eq_ok_iff.mp valid) listenMillis
  exact settingsFor_configure configuration listenMillis ▸ (configured.settingsFor queueName).2

theorem listenInterval_of_unset (listenMillis : Nat)
    (unset : ∀ entry, configuration.entry? queueName = some entry → entry.listenMillis = none) :
    listenInterval configuration listenMillis = intervalMillis listenMillis := by
  unfold listenInterval
  split
  · rename_i entry found
    rw [unset entry found, Option.getD_none]
  · rfl

theorem run_eq (valid : configuration.validate = .ok ())
    (connected : ∀ entry, configuration.entry? queueName = some entry →
      entry.requireConnection = true → entry.connections ≠ [])
    (messages listenMillis : Nat) (system : System) :
    let queue := Queue.ofSettings queueName
      ((configure configuration listenMillis).settingsFor queueName)
    let index := system.queues.length
    run configuration messages listenMillis system =
      .ok (index, play index messages listenMillis
        ((system.addQueue queue).2.modifyQueue index Queue.openUp)) := by
  have accepted := (Configuration.validate_eq_ok_iff _).mpr
    (valid_configure (configuration.validate_eq_ok_iff.mp valid) listenMillis)
  have built := ({ configuration := configure configuration listenMillis } : Registry).build_of_connected
    connected
  have resolved := Registry.getOrCreate_of_new (configure configuration listenMillis) system queueName
  rw [built] at resolved
  simp only [run, accepted, resolved]
  rfl

theorem run_queue? (valid : configuration.validate = .ok ())
    (connected : ∀ entry, configuration.entry? queueName = some entry →
      entry.requireConnection = true → entry.connections ≠ [])
    {messages : Nat} (few : messages < UInt64.size) (listenMillis idBase : Nat) :
    let millis := listenInterval configuration listenMillis
    let span := pausesFor (budgetMillis messages listenMillis) * pauseMillis
    ∃ index ended queue, run configuration messages listenMillis { idBase } = .ok (index, ended) ∧
      ended.queue index = queue.endListen.close ∧
      Tally messages (min messages (iterationsIn millis span)) millis queue := by
  intro millis span
  have positive : 0 < millis := listenInterval_pos valid listenMillis
  let settings := (configure configuration listenMillis).settingsFor queueName
  let queue := (Queue.ofSettings queueName settings).openUp
  let system : System := { idBase, queues := [queue] }
  have fresh : Tally 0 0 millis queue :=
    ⟨rfl, rfl, settingsFor_configure configuration listenMillis, rfl, rfl, rfl⟩
  have held : system.queue? 0 = some queue := rfl
  obtain ⟨ended, last, reached⟩ := play_queue? positive few listenMillis rfl rfl held fresh
  refine ⟨0, _, ended, run_eq valid connected messages listenMillis { idBase }, ?_, reached⟩
  have final : (play 0 messages listenMillis system).queue 0 = ended.endListen.close := by
    rw [System.queue, last, Option.getD_some]
  exact final

theorem min_iterationsIn_eq_iff {millis : Nat} (positive : 0 < millis) (messages span : Nat) :
    min messages (iterationsIn millis span) = messages ↔ ∀ number < messages, number * millis < span := by
  have fits : min messages (iterationsIn millis span) = messages ↔
      ∀ number < messages, number < iterationsIn millis span := by
    have most : min messages (iterationsIn millis span) = messages ↔
        messages ≤ iterationsIn millis span := by omega
    exact most.trans ⟨fun all number less => Nat.lt_of_lt_of_le less all,
      fun each => Nat.le_of_not_lt fun short => Nat.lt_irrefl _ (each _ short)⟩
  simp only [fits, lt_iterationsIn_iff positive]

theorem budget_le_span (budget : Nat) : budget ≤ pausesFor budget * pauseMillis := by
  rw [pausesFor, pauseMillis]
  omega

theorem lt_budgetMillis {messages listenMillis number : Nat}
    (fits : intervalMillis listenMillis * (messages + 10) < UInt64.size) (less : number < messages) :
    number * intervalMillis listenMillis < budgetMillis messages listenMillis := by
  rw [budgetMillis, Nat.mod_eq_of_lt fits, Nat.mul_comm]
  exact Nat.mul_lt_mul_of_pos_left (by omega) (intervalMillis_pos listenMillis)

end Run

end Demo

/-- A demonstration handles as many of its messages as intervals begin while it waits. It handles all of
them where the queue's own entry sets no interval and the time to wait did not wrap around. -/
theorem demonstration_handles_what_fits {configuration : Configuration} {messages : Nat}
    (listenMillis idBase : Nat) (valid : configuration.validate = .ok ())
    (connected : ∀ entry, configuration.entry? Demo.queueName = some entry →
      entry.requireConnection = true → entry.connections ≠ [])
    (few : messages < UInt64.size) :
    let interval := Demo.listenInterval configuration listenMillis
    let budget := Demo.budgetMillis messages listenMillis
    let span := Demo.pausesFor budget * Demo.pauseMillis
    let handled := min messages (Demo.iterationsIn interval span)
    (∃ index ended, Demo.run configuration messages listenMillis { idBase } = .ok (index, ended) ∧
      let queue := ended.queue index
      queue.settings.listenMillis = interval ∧
      queue.counters =
        { sent := .ofNat messages, received := .ofNat handled, completed := .ofNat handled } ∧
      queue.pendingCount = messages - handled ∧ queue.lockedCount = 0) ∧
    (handled = messages ↔ ∀ number < messages, number * interval < span) ∧
    ((∀ entry, configuration.entry? Demo.queueName = some entry → entry.listenMillis = none) →
      Demo.intervalMillis listenMillis * (messages + 10) < UInt64.size →
      interval = Demo.intervalMillis listenMillis ∧ handled = messages ∧
        ∀ number < messages, number * interval < budget) := by
  intro interval budget span handled
  obtain ⟨index, ended, queue, ran, left, reached⟩ :=
    Demo.run_queue? valid connected few listenMillis idBase
  have positive := Demo.listenInterval_pos valid listenMillis
  have drained := Demo.min_iterationsIn_eq_iff positive messages span
  refine ⟨⟨index, ended, ran, ?_⟩, drained, fun unset fits => ?_⟩
  · rw [left]
    exact ⟨reached.millis, reached.counters, reached.pending, congrArg List.length reached.leases⟩
  · have same : interval = Demo.intervalMillis listenMillis :=
      Demo.listenInterval_of_unset listenMillis unset
    have within (number : Nat) (less : number < messages) : number * interval < budget :=
      same ▸ Demo.lt_budgetMillis fits less
    exact ⟨same, drained.mpr fun number less =>
      Nat.lt_of_lt_of_le (within number less) (Demo.budget_le_span budget), within⟩

theorem demonstration_handles_what_fits_usual :
    ({} : Configuration).validate = .ok () ∧
    ∃ index ended, Demo.run {} 3 0 {} = .ok (index, ended) ∧
      (ended.queue index).settings.listenMillis = 1 ∧
      (ended.queue index).counters = { sent := 3, received := 3, completed := 3 } ∧
      (ended.queue index).pendingCount = 0 ∧ (ended.queue index).lockedCount = 0 := by
  have valid : ({} : Configuration).validate = .ok () := by decide
  obtain ⟨⟨index, ended, ran, interval, counters, pending, locked⟩, -⟩ :=
    demonstration_handles_what_fits 0 0 valid (by decide) (by decide : 3 < UInt64.size)
  exact ⟨valid, index, ended, ran, interval, counters, pending, locked⟩

def Demo.entered : Configuration where
  entries := [{ name := "demo", listenMillis := some 300 }]

/-- The entry's interval is kept against the option's, so the time is up before two of three messages
are handled; and with an option that makes the time to wait wrap around, none is. -/
theorem demonstration_ends_early :
    (Demo.entered.validate = .ok () ∧
      ∃ index ended, Demo.run Demo.entered 3 1 {} = .ok (index, ended) ∧
        (ended.queue index).settings.listenMillis = 300 ∧
        (ended.queue index).counters = { sent := 3, received := 1, completed := 1 } ∧
        (ended.queue index).pendingCount = 2) ∧
    ∃ index ended, Demo.run {} 6 1152921504606846976 {} = .ok (index, ended) ∧
      (ended.queue index).counters = { sent := 6 } ∧ (ended.queue index).pendingCount = 6 := by
  have valid : Demo.entered.validate = .ok () := by decide
  have usual : ({} : Configuration).validate = .ok () := by decide
  obtain ⟨index, ended, queue, ran, left, reached⟩ :=
    Demo.run_queue? valid (by decide) (by decide : 3 < UInt64.size) 1 0
  obtain ⟨other, last, rest, wrapped, kept, none⟩ :=
    Demo.run_queue? usual (by decide) (by decide : 6 < UInt64.size) 1152921504606846976 0
  refine ⟨⟨valid, index, ended, ran, ?_⟩, other, last, wrapped, ?_⟩
  · rw [left]
    exact ⟨reached.millis, reached.counters, reached.pending⟩
  · rw [kept]
    exact ⟨none.counters, none.pending⟩

end LeaseQueue
