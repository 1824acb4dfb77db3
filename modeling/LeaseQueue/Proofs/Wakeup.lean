import LeaseQueue.Proofs.Scene

/-!
Receiving calls and senders, one step at a time. A call looks at the store in one step and parks in
another; a sender appends its message in one step and announces it in another; and anything can come in
between. Because a call registers before it looks, no message that it missed goes unannounced to it.
-/

namespace LeaseQueue

namespace Reception

def wait (call : Reception) (arrivals : Nat) (queue : Queue) (now : Instant) : Reception :=
  if call.deadline ≤ now then { call with stage := .finished none }
  else
    { call with
      stage := .parked arrivals (now + min (call.deadline - now) queue.settings.pollInterval) }

theorem look_of_empty {queue : Queue} (empty : queue.store.pending = []) (call : Reception)
    (arrivals : Nat) (now : Instant) :
    call.look arrivals queue now = (call.wait arrivals queue now, queue) := by
  simp only [look, Queue.take?_eq_none.mpr empty, wait]
  split <;> rfl

end Reception

/-- A call between two of its steps. One that `missed` has found the store empty since it registered at
a count of arrivals, and has not parked yet. -/
inductive Waiter where
  | calling (call : Reception)
  | missed (call : Reception) (arrivals : Nat)
deriving DecidableEq

namespace Waiter

def step (waiter : Waiter) (queue : Queue) (now : Instant) : Waiter × Queue :=
  match waiter with
  | .missed call arrivals => (.calling (call.wait arrivals queue now), queue)
  | .calling call =>
    match call.stage, queue.take? call.timeout now with
    | .registered arrivals, none => (.missed call arrivals, queue)
    | _, _ => (.calling (call.step queue now).1, (call.step queue now).2)

def registeredAt? : Waiter → Option Nat
  | .missed _ arrivals => some arrivals
  | .calling call =>
    match call.stage with
    | .registered arrivals | .parked arrivals _ => some arrivals
    | _ => none

def isParked : Waiter → Bool
  | .missed _ _ => false
  | .calling call =>
    match call.stage with
    | .parked _ _ => true
    | _ => false

def isEmptyHanded : Waiter → Bool
  | .missed _ _ => true
  | waiter => waiter.isParked

def isWoken (waiter : Waiter) (queue : Queue) : Bool :=
  waiter.registeredAt?.any fun arrivals => arrivals != queue.arrivals

def isReady (waiter : Waiter) (queue : Queue) (now : Instant) : Bool :=
  match waiter with
  | .missed _ _ => true
  | .calling call => call.isReady queue now

theorem step_alone (call : Reception) (queue : Queue) (now : Instant) :
    let once := (calling call).step queue now
    once = (.calling (call.step queue now).1, (call.step queue now).2) ∨
      once.1.step once.2 now = (.calling (call.step queue now).1, (call.step queue now).2) := by
  intro once
  cases stage : call.stage with
  | registered arrivals =>
      cases taken : queue.take? call.timeout now with
      | some found => exact Or.inl (by simp [once, step, stage, taken])
      | none =>
          have looked := Reception.look_of_empty (Queue.take?_eq_none.mp taken) call arrivals now
          refine Or.inr ?_
          simp [once, step, stage, taken, Reception.step, looked]
  | unstarted | looking | parked | finished => exact Or.inl (by simp [once, step, stage])

end Waiter

inductive Sender where
  | surrendering (message : Message)
  | pushing (message : Message)
  | announcing
  | finished
deriving DecidableEq

namespace Sender

def step (sender : Sender) (queue : Queue) (now : Instant) : Sender × Queue :=
  match sender with
  | .surrendering message =>
    match queue.surrender message now with
    | (_, some returned, freed) => (.pushing returned, freed)
    | (_, none, freed) => (.finished, freed)
  | .pushing message => (.announcing, queue.push message now)
  | .announcing => (.finished, queue.announce)
  | .finished => (.finished, queue)

theorem send_alone (message : Message) (queue : Queue) (now : Instant) :
    let once := (pushing message).step queue now
    once.1.step once.2 now = (.finished, queue.send message now) := rfl

theorem abandon_alone (message : Message) (queue : Queue) (now : Instant) :
    let once := (surrendering message).step queue now
    let twice := once.1.step once.2 now
    twice.1.step twice.2 now = (.finished, (queue.abandon message now).2) := by
  intro once twice
  rcases surrendered : queue.surrender message now with ⟨kept, returned?, freed⟩
  cases returned? with
  | none => simp [once, twice, step, Queue.abandon, surrendered]
  | some returned => simp [once, twice, step, Queue.abandon, surrendered, Queue.send]

end Sender

structure Traffic where
  queue : Queue
  clock : Instant
  waiters : List Waiter := []
  senders : List Sender := []
deriving DecidableEq

/-- Something that happens in between. Calls and senders have numbers, in the order in which they came;
`call` is an operation in one go. -/
inductive Traffic.Event where
  | receive (timeout : Duration)
  | send (message : Message)
  | abandon (message : Message)
  | waiter (number : Nat)
  | sender (number : Nat)
  | call (operation : Operation)
  | drop (number : Nat)
  | pass (span : Duration)
deriving DecidableEq

namespace Traffic

def after (traffic : Traffic) (event : Event) : Traffic :=
  match event with
  | .receive timeout =>
    { traffic with waiters := traffic.waiters ++ [.calling (Reception.later timeout)] }
  | .send message => { traffic with senders := traffic.senders ++ [.pushing message] }
  | .abandon message => { traffic with senders := traffic.senders ++ [.surrendering message] }
  | .waiter number =>
    match traffic.waiters[number]? with
    | none => traffic
    | some waiter =>
      let (next, queue) := waiter.step traffic.queue traffic.clock
      { traffic with queue, waiters := traffic.waiters.set number next }
  | .sender number =>
    match traffic.senders[number]? with
    | none => traffic
    | some sender =>
      let (next, queue) := sender.step traffic.queue traffic.clock
      { traffic with queue, senders := traffic.senders.set number next }
  | .call operation =>
    { traffic with queue := operation.perform traffic.queue traffic.clock }
  | .drop number => { traffic with waiters := traffic.waiters.eraseIdx number }
  | .pass span => { traffic with clock := traffic.clock + span }

def run (traffic : Traffic) (events : List Event) : Traffic := events.foldl after traffic

end Traffic

/-- A change of a queue after which nothing is pending that was not pending before, or announced. -/
structure Queue.Heralds (queue next : Queue) : Prop where
  arrivals_le : queue.arrivals ≤ next.arrivals
  announced : next.store.pending ≠ [] →
    queue.store.pending ≠ [] ∨ queue.arrivals < next.arrivals

theorem Queue.Heralds.of_same {queue next : Queue} (arrivals : next.arrivals = queue.arrivals)
    (fewer : next.store.pending ≠ [] → queue.store.pending ≠ []) : queue.Heralds next :=
  ⟨Nat.le_of_eq arrivals.symm, fun pending => Or.inl (fewer pending)⟩

theorem Queue.Heralds.of_announced {queue next : Queue}
    (arrivals : next.arrivals = queue.arrivals + 1) : queue.Heralds next := by
  have later : queue.arrivals < next.arrivals := by omega
  exact ⟨Nat.le_of_lt later, fun _ => Or.inr later⟩

theorem Store.Step.pending_of_quiet {policy : RenewPolicy} {now : Instant} {before after : Store}
    {deed : Deed} (step : before.Step policy now deed after) (quiet : deed.isAppending = false)
    (pending : after.pending ≠ []) : before.pending ≠ [] := by
  cases step with
  | sent | returned => simp [Deed.isAppending] at quiet
  | granted timeout head => simp [head]
  | cleared => exact absurd rfl pending
  | renewed | missed | ended => exact pending

theorem Operation.heralds (operation : Operation) (queue : Queue) (now : Instant) :
    queue.Heralds (operation.perform queue now) := by
  have arrivals := (operation.perform_signals queue now).arrivals
  have stored := (operation.perform_effect queue now).store
  cases done : operation.deed? queue now with
  | none =>
      rw [done] at arrivals stored
      have same : (operation.perform queue now).store = queue.store := stored
      exact .of_same arrivals (by rw [same]; exact id)
  | some deed =>
      rw [done] at arrivals stored
      cases appending : deed.isAppending with
      | true => exact .of_announced (by simpa [appending] using arrivals)
      | false =>
          have step : queue.store.Step queue.settings.renewPolicy now deed
            (operation.perform queue now).store := stored
          exact .of_same (by simpa [appending] using arrivals) (step.pending_of_quiet appending)

namespace Waiter

/-- A call that found nothing has word of what is pending now, unless that is about to be announced. -/
structure Informed (waiter : Waiter) (queue : Queue) (announcing : Prop) : Prop where
  counted : ∀ arrivals, waiter.registeredAt? = some arrivals → arrivals ≤ queue.arrivals
  alerted : waiter.isEmptyHanded = true → queue.store.pending ≠ [] →
    announcing ∨ waiter.isWoken queue = true

variable {waiter : Waiter} {queue next : Queue} {announcing soon : Prop}

theorem registeredAt?_of_emptyHanded (emptyHanded : waiter.isEmptyHanded = true) :
    ∃ arrivals, waiter.registeredAt? = some arrivals := by
  cases waiter with
  | missed call arrivals => exact ⟨arrivals, rfl⟩
  | calling call =>
      cases stage : call.stage with
      | parked arrivals wakeAt => exact ⟨arrivals, by simp [registeredAt?, stage]⟩
      | _ => simp [isEmptyHanded, isParked, stage] at emptyHanded

theorem isEmptyHanded_of_parked (parked : waiter.isParked = true) : waiter.isEmptyHanded = true := by
  cases waiter with
  | missed => rfl
  | calling => exact parked

theorem isReady_of_woken (parked : waiter.isParked = true) (woken : waiter.isWoken queue = true)
    (now : Instant) : waiter.isReady queue now = true := by
  cases waiter with
  | missed => rfl
  | calling call =>
      cases stage : call.stage with
      | parked arrivals wakeAt =>
          have different : arrivals ≠ queue.arrivals := by
            simpa [isWoken, registeredAt?, stage] using woken
          simp [isReady, Reception.isReady, stage, different]
      | _ => simp [isParked, stage] at parked

theorem isWoken_of_lt {arrivals : Nat} (registered : waiter.registeredAt? = some arrivals)
    (later : arrivals < queue.arrivals) : waiter.isWoken queue = true := by
  simp [isWoken, registered, Nat.ne_of_lt later]

theorem Informed.herald (informed : waiter.Informed queue announcing)
    (heralds : queue.Heralds next) (still : announcing → soon ∨ queue.arrivals < next.arrivals) :
    waiter.Informed next soon := by
  refine ⟨fun arrivals registered =>
    Nat.le_trans (informed.counted arrivals registered) heralds.arrivals_le, ?_⟩
  intro emptyHanded pending
  obtain ⟨arrivals, registered⟩ := registeredAt?_of_emptyHanded emptyHanded
  have counted := informed.counted arrivals registered
  have announced (later : queue.arrivals < next.arrivals) : waiter.isWoken next = true :=
    isWoken_of_lt registered (Nat.lt_of_le_of_lt counted later)
  -- What is pending was pending before, and then the call has word of it; or it was announced just
  -- now, after the call had registered.
  rcases heralds.announced pending with before | later
  · rcases informed.alerted emptyHanded before with announcing | woken
    · exact (still announcing).imp_right announced
    · refine Or.inr (isWoken_of_lt registered ?_)
      have different : arrivals ≠ queue.arrivals := by simpa [isWoken, registered] using woken
      have order := heralds.arrivals_le
      omega
  · exact Or.inr (announced later)

theorem Informed.appended (informed : waiter.Informed queue announcing)
    (arrivals : next.arrivals = queue.arrivals) (announced : soon) : waiter.Informed next soon :=
  ⟨arrivals ▸ informed.counted, fun _ _ => Or.inl announced⟩

theorem Informed.advance {call after : Reception} {now : Instant}
    (informed : (calling call).Informed queue announcing) (advanced : call.Advance queue now after next) :
    (calling after).Informed next announcing := by
  cases advanced with
  | begins | takes | givesUp | wakes =>
      exact ⟨by simp [registeredAt?, Reception.start],
        by simp [isEmptyHanded, isParked, Reception.start]⟩
  | registers => exact ⟨by simp [registeredAt?], by simp [isEmptyHanded, isParked]⟩
  | parks registered empty =>
      refine ⟨?_, fun _ pending => absurd empty pending⟩
      exact fun _ named => informed.counted _ (by simpa [registeredAt?, registered] using named)
  | idles => exact informed

theorem advance_heralds {call after : Reception} {now : Instant}
    (advanced : call.Advance queue now after next) : queue.Heralds next := by
  cases advanced with
  | takes registered taken =>
      obtain ⟨first, others, head, _, rfl⟩ := Queue.take?_eq_some taken
      exact .of_same rfl fun _ => by simp [head]
  | _ => exact .of_same rfl id

theorem step_heralds (waiter : Waiter) (queue : Queue) (now : Instant) :
    queue.Heralds (waiter.step queue now).2 := by
  cases waiter with
  | missed call arrivals => exact .of_same rfl id
  | calling call =>
      simp only [step]
      split
      · exact .of_same rfl id
      · exact advance_heralds (call.step_advance queue now)

theorem Informed.step (informed : waiter.Informed queue announcing) (now : Instant) :
    (waiter.step queue now).1.Informed (waiter.step queue now).2 announcing := by
  cases waiter with
  | missed call arrivals =>
      simp only [Waiter.step, Reception.wait]
      split
      · exact ⟨by simp [registeredAt?], by simp [isEmptyHanded, isParked]⟩
      · exact ⟨informed.counted, fun _ => informed.alerted rfl⟩
  | calling call =>
      simp only [Waiter.step]
      split
      · rename_i arrivals registered taken
        refine ⟨?_, fun _ pending => absurd (Queue.take?_eq_none.mp taken) pending⟩
        exact fun _ named => informed.counted _ (by simpa [registeredAt?, registered] using named)
      · exact informed.advance (call.step_advance queue now)

end Waiter

theorem Queue.surrender_heralds (queue : Queue) (message : Message) (now : Instant) :
    queue.Heralds (queue.surrender message now).2.2 := by
  unfold surrender
  split
  · exact .of_same rfl id
  · simp only []
    split
    · exact .of_same rfl id
    · exact .of_same rfl id

theorem Sender.step_cases (sender : Sender) (queue : Queue) (now : Instant) :
    (sender ≠ .announcing ∧ queue.Heralds (sender.step queue now).2) ∨
      ((sender.step queue now).1 = .announcing ∧
        (sender.step queue now).2.arrivals = queue.arrivals) ∨
      (sender.step queue now).2.arrivals = queue.arrivals + 1 := by
  cases sender with
  | surrendering message =>
      refine Or.inl ⟨by simp, ?_⟩
      have heralds := queue.surrender_heralds message now
      simp only [step]
      split <;> simp_all
  | pushing message => exact Or.inr (Or.inl ⟨rfl, rfl⟩)
  | announcing => exact Or.inr (Or.inr rfl)
  | finished => exact Or.inl ⟨by simp, .of_same rfl id⟩

namespace Traffic

def Sound (traffic : Traffic) : Prop :=
  ∀ waiter ∈ traffic.waiters, waiter.Informed traffic.queue (.announcing ∈ traffic.senders)

variable {traffic : Traffic}

theorem Sound.herald (sound : traffic.Sound) {queue : Queue} {senders : List Sender}
    (heralds : traffic.queue.Heralds queue)
    (still : .announcing ∈ traffic.senders →
      .announcing ∈ senders ∨ traffic.queue.arrivals < queue.arrivals) :
    ({ traffic with queue, senders } : Traffic).Sound :=
  fun waiter member => (sound waiter member).herald heralds still

theorem Sound.after (sound : traffic.Sound) (event : Event) : (traffic.after event).Sound := by
  cases event with
  | receive timeout =>
      intro waiter member
      rcases List.mem_append.mp member with old | new
      · exact sound waiter old
      · rw [List.mem_singleton.mp new]
        exact ⟨by simp [Waiter.registeredAt?, Reception.later],
          by simp [Waiter.isEmptyHanded, Waiter.isParked, Reception.later]⟩
  | send message | abandon message =>
      exact sound.herald (.of_same rfl id) fun announcing => Or.inl (List.mem_append_left _ announcing)
  | waiter number =>
      simp only [Traffic.after]
      split
      · exact sound
      · rename_i waiter present
        intro other member
        rcases List.mem_or_eq_of_mem_set member with old | rfl
        · exact (sound other old).herald (waiter.step_heralds _ _) Or.inl
        · exact (sound waiter (List.mem_of_getElem? present)).step traffic.clock
  | sender number =>
      simp only [Traffic.after]
      split
      · exact sound
      · rename_i sender present
        rcases sender.step_cases traffic.queue traffic.clock with
          ⟨quiet, heralds⟩ | ⟨appended, arrivals⟩ | arrivals
        · refine sound.herald heralds fun announcing => Or.inl ?_
          obtain ⟨other, held⟩ := List.mem_iff_getElem?.mp announcing
          refine List.mem_iff_getElem?.mpr ⟨other, ?_⟩
          rw [List.getElem?_set_ne, held]
          rintro rfl
          exact quiet (Option.some.inj (present.symm.trans held))
        · have announcing : Sender.announcing ∈
              traffic.senders.set number (sender.step traffic.queue traffic.clock).1 := by
            rw [appended]
            exact List.mem_set (List.getElem?_eq_some_iff.mp present).1 _
          exact fun waiter member => (sound waiter member).appended arrivals announcing
        · exact sound.herald (.of_announced arrivals) fun _ => Or.inr (by omega)
  | call operation =>
      exact sound.herald (operation.heralds _ _) Or.inl
  | drop number => exact fun waiter member => sound waiter (List.mem_of_mem_eraseIdx member)
  | pass span => exact sound

theorem Sound.run (sound : traffic.Sound) (events : List Event) : (traffic.run events).Sound := by
  induction events generalizing traffic with
  | nil => exact sound
  | cons event rest ih => exact ih (sound.after event)

end Traffic

/-- Whatever calls, senders and clients do and in whatever order their steps come, a call that is parked
has been woken when something is pending, but while a sender is about to announce its message. So when
every sender has finished and every call waits, nothing is pending or no call is parked. -/
theorem parked_call_is_woken (queue : Queue) (clock : Instant) (events : List Traffic.Event) :
    let traffic := Traffic.run { queue, clock } events
    (∀ waiter ∈ traffic.waiters, waiter.isParked = true → traffic.queue.store.pending ≠ [] →
      Sender.announcing ∈ traffic.senders ∨ waiter.isWoken traffic.queue = true) ∧
    ((∀ sender ∈ traffic.senders, sender = .finished) →
      (∀ waiter ∈ traffic.waiters, waiter.isReady traffic.queue traffic.clock = false) →
      traffic.queue.store.pending = [] ∨ ∀ waiter ∈ traffic.waiters, waiter.isParked = false) := by
  intro traffic
  have sound : traffic.Sound := Traffic.Sound.run (by simp [Traffic.Sound]) events
  have woken : ∀ waiter ∈ traffic.waiters, waiter.isParked = true →
      traffic.queue.store.pending ≠ [] →
      Sender.announcing ∈ traffic.senders ∨ waiter.isWoken traffic.queue = true := by
    intro waiter member parked pending
    exact (sound waiter member).alerted (Waiter.isEmptyHanded_of_parked parked) pending
  refine ⟨woken, ?_⟩
  intro finished waiting
  by_cases pending : traffic.queue.store.pending = []
  · exact Or.inl pending
  · refine Or.inr ?_
    intro waiter member
    cases parked : waiter.isParked with
    | false => rfl
    | true =>
        rcases woken waiter member parked pending with announcing | woken
        · simpa using finished _ announcing
        · have ready := Waiter.isReady_of_woken parked woken traffic.clock
          simp [waiting waiter member] at ready

def Traffic.racing : List Traffic.Event :=
  [.receive (.ofMillis 500), .waiter 0, .waiter 0, .waiter 0,
    .send { id := ⟨1⟩, correlationId := "c", kind := "job", payload := [108] }, .sender 0, .waiter 0,
    .sender 0]

theorem parked_call_is_woken_racing :
    let raced := Traffic.run { queue := .ofSettings "orders" {}, clock := .origin } Traffic.racing
    let rested := Traffic.run { queue := .ofSettings "orders" {}, clock := .origin }
      (Traffic.racing ++ [.waiter 0, .waiter 0, .waiter 0])
    (∀ waiter ∈ raced.waiters, waiter.isParked = true ∧
      (Sender.announcing ∈ raced.senders ∨ waiter.isWoken raced.queue = true)) ∧
    (rested.queue.store.pending = [] ∨ ∀ waiter ∈ rested.waiters, waiter.isParked = false) := by
  obtain ⟨woken, _⟩ := parked_call_is_woken (.ofSettings "orders" {}) .origin Traffic.racing
  obtain ⟨_, rests⟩ := parked_call_is_woken (.ofSettings "orders" {}) .origin
    (Traffic.racing ++ [.waiter 0, .waiter 0, .waiter 0])
  refine ⟨?_, rests (by decide) (by decide)⟩
  intro waiter member
  have parked : waiter.isParked = true := by
    revert waiter
    decide
  exact ⟨parked, woken waiter member parked (by decide)⟩

def Job.call? : Job → Option Reception
  | .receive call => some call
  | .listen listener =>
    match listener.stage with
    | .receiving _ call => some call
    | _ => none

def Job.Informed (job : Job) (queue : Queue) : Prop :=
  ∀ call, job.call? = some call → (Waiter.calling call).Informed queue False

theorem Queue.Heralds.trans {first second third : Queue} (before : first.Heralds second)
    (after : second.Heralds third) : first.Heralds third := by
  refine ⟨Nat.le_trans before.arrivals_le after.arrivals_le, ?_⟩
  intro pending
  have later := after.arrivals_le
  have earlier := before.arrivals_le
  rcases after.announced pending with held | announced
  · exact (before.announced held).imp_right fun announced => by omega
  · exact Or.inr (by omega)

theorem Queue.performAll_heralds (queue : Queue) (now : Instant) (operations : List Operation) :
    queue.Heralds (queue.performAll now operations) := by
  induction operations generalizing queue with
  | nil => exact .of_same rfl id
  | cons operation rest ih => exact (operation.heralds queue now).trans (ih _)

namespace Job

variable {job : Job} {queue next : Queue}

theorem Informed.herald (informed : job.Informed queue) (heralds : queue.Heralds next) :
    job.Informed next :=
  fun call waits => (informed call waits).herald heralds False.elim

theorem informed_later (timeout : Duration) : (Job.receive (.later timeout)).Informed queue := by
  rintro call waits
  obtain rfl := Option.some.inj waits
  exact ⟨by simp [Waiter.registeredAt?, Reception.later],
    by simp [Waiter.isEmptyHanded, Waiter.isParked, Reception.later]⟩

theorem Informed.after (informed : job.Informed queue) (now : Instant) (freshId : MessageId) :
    (job.after queue now freshId).Informed
      (queue.performAll now (job.operations queue now freshId)) := by
  cases job with
  | receive call =>
      rintro next waits
      obtain rfl := Option.some.inj waits
      rw [Job.operations, ← call.step_queue]
      exact (informed call rfl).advance (call.step_advance queue now)
  | listen listener =>
      have move := listener.step_move queue now freshId
      rw [Job.operations, ← listener.step_queue]
      simp only [Job.after]
      generalize (listener.step queue now freshId).listener = next,
        (listener.step queue now freshId).queue = rest at move ⊢
      generalize (listener.step queue now freshId).notices = notices at move
      cases move with
      | idles => exact informed
      | begins =>
          rintro call waits
          obtain rfl := Option.some.inj waits
          exact ⟨by simp [Waiter.registeredAt?, Reception.start],
            by simp [Waiter.isEmptyHanded, Waiter.isParked, Reception.start]⟩
      | waits receiving advanced =>
          rintro call waits
          obtain rfl := Option.some.inj waits
          exact (informed _ (by simp [call?, receiving])).advance advanced
      | _ => simp [Job.Informed, call?]

end Job

theorem System.informed_after {system : System} {index : Nat} {queue : Queue}
    (held : system.queue? index = some queue)
    (informed : ∀ task ∈ system.tasks, task.queue = index → task.job.Informed queue)
    (event : Event) :
    ∀ task ∈ (system.after event).tasks, task.queue = index →
      task.job.Informed (queue.performAll system.clock (system.operations event index)) := by
  have others : ∀ task ∈ system.tasks, task.queue = index →
      task.job.Informed (queue.performAll system.clock (system.operations event index)) :=
    fun task member own => (informed task member own).herald (queue.performAll_heralds _ _)
  intro task member own
  cases event with
  | call | pass => exact others task member own
  | drop id => exact others task (List.mem_filter.mp member).1 own
  | receive target timeout =>
      rcases List.mem_append.mp member with old | new
      · exact others task old own
      · rw [List.mem_singleton.mp new]
        exact Job.informed_later timeout
  | listen target correlationId plan =>
      rcases List.mem_append.mp member with old | new
      · exact others task old own
      · rw [List.mem_singleton.mp new]
        simp [Job.Informed, Job.call?]
  | turn id =>
      simp only [System.after] at member
      cases found : system.task? id with
      | none =>
          rw [found] at member
          exact others task member own
      | some stepped =>
          rw [found] at member
          cases owner : system.queue? stepped.queue with
          | none =>
              have idle : system.stepTask stepped = system := by simp [stepTask, owner]
              exact others task (idle ▸ member) own
          | some home =>
              rw [tasks_stepTask owner] at member
              obtain ⟨before, listed, rfl⟩ := List.mem_map.mp member
              by_cases same : before.id = stepped.id
              · simp only [same, if_true] at own ⊢
                obtain rfl : home = queue := Option.some.inj (owner.symm.trans (own ▸ held))
                have moved := (informed stepped (List.mem_of_find?_eq_some found) own).after
                  system.clock system.freshId
                have operations : system.operations (.turn id) index =
                    stepped.job.operations home system.clock system.freshId := by
                  simp [System.operations, found, own, System.queue, held]
                rw [operations]
                exact moved
              · simp only [same, if_false] at own ⊢
                exact others before listed own

theorem System.informed_run {system : System} {index : Nat} {queue : Queue}
    (held : system.queue? index = some queue)
    (informed : ∀ task ∈ system.tasks, task.queue = index → task.job.Informed queue)
    (events : List Event) :
    ∀ task ∈ (system.run events).tasks, task.queue = index →
      task.job.Informed (queue.after (system.history index events)) := by
  induction events generalizing system queue with
  | nil => exact informed
  | cons event rest ih =>
      have changed : (system.after event).queue? index =
          some (queue.performAll system.clock (system.operations event index)) := by
        rw [System.after_queue?, held, Option.map_some]
      rw [System.history, Queue.after_append, Queue.after_map]
      exact ih changed (informed_after held informed event)

/-- In every run a call that is parked can go on when something is pending, whether it is a task or
what a listener receives with. -/
theorem Run.parked_call_is_ready (run : Run)
    (unclaimed : ∀ task ∈ run.system.tasks, task.queue ≠ run.index) :
    ∀ task ∈ run.final.tasks, task.queue = run.index → ∀ call, task.job.call? = some call →
      (Waiter.calling call).isParked = true → run.queue.store.pending ≠ [] →
        call.isReady run.queue run.now = true := by
  have made : run.start.queue? run.index = some run.fresh := by
    simp [start, index, System.addQueue, System.queue?]
  have unmoved : ∀ task ∈ run.start.tasks, task.queue = run.index → task.job.Informed run.fresh :=
    fun task member own => absurd own (unclaimed task member)
  intro task member own call waits parked pending
  have informed := System.informed_run made unmoved run.events task member own call waits
  rw [queue_eq] at pending ⊢
  rcases informed.alerted (Waiter.isEmptyHanded_of_parked parked) pending with never | woken
  · exact never.elim
  · exact Waiter.isReady_of_woken parked woken run.now

end LeaseQueue
