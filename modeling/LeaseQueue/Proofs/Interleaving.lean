import LeaseQueue.Proofs.Clearing

/-!
Calls that overlap, in steps that nothing can come between. Every call changes the pending messages and
the leases in one such step, but a call that gives a message back does so in two: it ends the lease, and
it appends the message. Every interleaving is a sequence of these changes; it need not be a sequence of
whole calls.
-/

namespace LeaseQueue

inductive Errand where
  | act (operation : Operation)
  | countPending
  | countLocked
deriving DecidableEq

inductive Errand.Reply where
  | answer (answer : Operation.Answer)
  | count (number : Nat)
deriving DecidableEq

namespace Errand

def reply (errand : Errand) (queue : Queue) (now : Instant) : Reply :=
  match errand with
  | .act operation => .answer (operation.answer queue now)
  | .countPending => .count queue.pendingCount
  | .countLocked => .count queue.lockedCount

def perform (errand : Errand) (queue : Queue) (now : Instant) : Queue :=
  match errand with
  | .act operation => operation.perform queue now
  | .countPending | .countLocked => queue

def isSingle : Errand → Bool
  | .act (.send _) | .act (.abandon _) => false
  | _ => true

end Errand

/-- A change of a queue, or a look at it, that nothing can come between. -/
inductive Part where
  | once (errand : Errand) (now : Instant)
  | removal (message : Message)
  | append (message : Message)
deriving DecidableEq

def Part.perform (part : Part) (queue : Queue) : Queue :=
  match part with
  | .once errand now => errand.perform queue now
  | .removal message =>
    match queue.leaseOf? message with
    | none => queue
    | some lease => { queue with store := queue.store.withoutLease lease.token }
  | .append message => { queue with store := queue.store.push message }

/-- Where a call stands. A message that is `sending` gets its time of sending next, and is `stamped`
then; a lease that is `removed` is still to be compared with the clock. -/
inductive Errand.Stage where
  | begun (errand : Errand)
  | removed (lease : Lease) (reply : Reply)
  | sending (message : Message) (reply : Reply)
  | stamped (message : Message) (reply : Reply)
  | finished (reply : Reply)
deriving DecidableEq

def Errand.Stage.step (stage : Errand.Stage) (queue : Queue) (now : Instant) :
    Errand.Stage × Option Part :=
  match stage with
  | .begun (.act (.send message)) => (.sending message (.answer .done), none)
  | .begun (.act (.abandon message)) =>
    match queue.leaseOf? message with
    | none => (.finished (.answer (.kept message)), some (.removal message))
    | some lease =>
      (.removed lease (.answer (.kept message.withoutToken)), some (.removal message))
  | .begun errand => (.finished (errand.reply queue now), some (.once errand now))
  | .removed lease reply =>
    if lease.term.isExpired now then (.finished reply, none)
    else (.sending lease.message.withoutToken reply, none)
  | .sending message reply => (.stamped (message.stamped now) reply, none)
  | .stamped message reply => (.finished reply, some (.append message))
  | .finished reply => (.finished reply, none)

structure Call where
  errand : Errand
  stage : Errand.Stage
deriving DecidableEq

structure Change where
  call : Nat
  part : Part
  before : Queue
deriving DecidableEq

/-- Calls on one queue, numbered as they began, and all changes so far in their order. -/
structure Crowd where
  queue : Queue
  clock : Instant
  calls : List Call := []
  changes : List Change := []
deriving DecidableEq

inductive Crowd.Event where
  | begin (errand : Errand)
  | step (number : Nat)
  | pass (span : Duration)
deriving DecidableEq

namespace Crowd

def stepCall (crowd : Crowd) (number : Nat) (call : Call) : Crowd :=
  let (stage, part?) := call.stage.step crowd.queue crowd.clock
  { crowd with
    queue := part?.elim crowd.queue fun part => part.perform crowd.queue
    calls := crowd.calls.set number { call with stage }
    changes := crowd.changes ++ part?.toList.map fun part => ⟨number, part, crowd.queue⟩ }

def after (crowd : Crowd) (event : Event) : Crowd :=
  match event with
  | .begin errand => { crowd with calls := crowd.calls ++ [⟨errand, .begun errand⟩] }
  | .step number => (crowd.calls[number]?.map fun call => crowd.stepCall number call).getD crowd
  | .pass span => { crowd with clock := crowd.clock + span }

def run (crowd : Crowd) (events : List Event) : Crowd := events.foldl after crowd

end Crowd

inductive Errand.Course : Errand → Errand.Stage → List (Part × Queue) → Prop
  | begun (errand : Errand) : Course errand (.begun errand) []
  | once {errand : Errand} (single : errand.isSingle = true) (before : Queue) (now : Instant) :
      Course errand (.finished (errand.reply before now)) [(.once errand now, before)]
  | sending (message : Message) : Course (.act (.send message)) (.sending message (.answer .done)) []
  | stamped (message : Message) (now : Instant) :
      Course (.act (.send message)) (.stamped (message.stamped now) (.answer .done)) []
  | sent (message : Message) (now : Instant) (before : Queue) :
      Course (.act (.send message)) (.finished (.answer .done))
        [(.append (message.stamped now), before)]
  | missed {message : Message} {before : Queue} (missing : before.leaseOf? message = none) :
      Course (.act (.abandon message)) (.finished (.answer (.kept message)))
        [(.removal message, before)]
  | removed {message : Message} {before : Queue} {lease : Lease}
      (found : before.leaseOf? message = some lease) :
      Course (.act (.abandon message)) (.removed lease (.answer (.kept message.withoutToken)))
        [(.removal message, before)]
  | lapsed {message : Message} {before : Queue} {lease : Lease} {now : Instant}
      (found : before.leaseOf? message = some lease) (expired : lease.term.isExpired now = true) :
      Course (.act (.abandon message)) (.finished (.answer (.kept message.withoutToken)))
        [(.removal message, before)]
  | returning {message : Message} {before : Queue} {lease : Lease} {now : Instant}
      (found : before.leaseOf? message = some lease) (running : lease.term.isExpired now = false) :
      Course (.act (.abandon message))
        (.sending lease.message.withoutToken (.answer (.kept message.withoutToken)))
        [(.removal message, before)]
  | restamped {message : Message} {before : Queue} {lease : Lease} {now : Instant}
      (found : before.leaseOf? message = some lease) (running : lease.term.isExpired now = false)
      (sentAt : Instant) :
      Course (.act (.abandon message))
        (.stamped (lease.message.withoutToken.stamped sentAt) (.answer (.kept message.withoutToken)))
        [(.removal message, before)]
  | returned {message : Message} {before : Queue} {lease : Lease} {now : Instant}
      (found : before.leaseOf? message = some lease) (running : lease.term.isExpired now = false)
      (sentAt : Instant) (after : Queue) :
      Course (.act (.abandon message)) (.finished (.answer (.kept message.withoutToken)))
        [(.removal message, before), (.append (lease.message.withoutToken.stamped sentAt), after)]

namespace Errand

theorem step_of_single {errand : Errand} (single : errand.isSingle = true) (queue : Queue)
    (now : Instant) :
    (Stage.begun errand).step queue now =
      (.finished (errand.reply queue now), some (.once errand now)) := by
  cases errand with
  | act operation => cases operation <;> first | rfl | simp [isSingle] at single
  | countPending | countLocked => rfl

theorem Course.step {errand : Errand} {stage : Stage} {own : List (Part × Queue)}
    (course : errand.Course stage own) (queue : Queue) (now : Instant) :
    errand.Course (stage.step queue now).1
      (own ++ (stage.step queue now).2.toList.map fun part => (part, queue)) := by
  cases course with
  | begun =>
      cases single : errand.isSingle with
      | true =>
          rw [step_of_single single]
          exact .once single queue now
      | false =>
          cases errand with
          | countPending | countLocked => simp [isSingle] at single
          | act operation =>
              cases operation with
              | send message => exact .sending message
              | abandon message =>
                  simp only [Stage.step]
                  cases found : queue.leaseOf? message with
                  | none => exact .missed found
                  | some lease => exact .removed found
              | _ => simp [isSingle] at single
  | once single before time => exact .once single before time
  | sending message => exact .stamped message now
  | stamped message time => exact .sent message time queue
  | sent message time before => exact .sent message time before
  | missed missing => exact .missed missing
  | @removed message before lease found =>
      simp only [Stage.step]
      cases expired : lease.term.isExpired now with
      | true => exact .lapsed found expired
      | false => exact .returning found expired
  | lapsed found expired => exact .lapsed found expired
  | returning found running => exact .restamped found running now
  | restamped found running sentAt => exact .returned found running sentAt queue
  | returned found running sentAt after => exact .returned found running sentAt after

end Errand

/-- What a call that is over did. It was one whole call at a point in the sequence, as far as messages,
leases and its reply go; or it gave a message back, in two parts. -/
inductive Errand.Effect : Errand → Errand.Reply → List (Part × Queue) → Prop
  | whole {errand : Errand} {part : Part} {before : Queue} {now : Instant}
      (store : (part.perform before).store = (errand.perform before now).store) :
      Effect errand (errand.reply before now) [(part, before)]
  | split {message : Message} {before : Queue} {lease : Lease} {now : Instant}
      (found : before.leaseOf? message = some lease) (running : lease.term.isExpired now = false)
      (sentAt : Instant) (after : Queue) :
      Effect (.act (.abandon message)) (.answer (.kept message.withoutToken))
        [(.removal message, before), (.append (lease.message.withoutToken.stamped sentAt), after)]

theorem Errand.Course.effect {errand : Errand} {reply : Reply} {own : List (Part × Queue)}
    (course : errand.Course (.finished reply) own) : errand.Effect reply own := by
  cases course with
  | once single before now => exact .whole rfl
  | sent message now before =>
      have store : ((Part.append (message.stamped now)).perform before).store =
          ((Errand.act (.send message)).perform before now).store := rfl
      exact Errand.Effect.whole store
  | @missed message before missing =>
      have alone : before.abandon message .origin = (message, before) := Queue.abandon_of_none missing
      have store : ((Part.removal message).perform before).store =
          ((Errand.act (.abandon message)).perform before .origin).store := by
        simp [Part.perform, Errand.perform, Operation.perform, missing, alone]
      have whole := Errand.Effect.whole store
      rw [Errand.reply, Operation.answer, alone] at whole
      exact whole
  | @lapsed message before lease now found expired =>
      have alone := Queue.abandon_of_lapsed found expired
      have store : ((Part.removal message).perform before).store =
          ((Errand.act (.abandon message)).perform before now).store := by
        simp [Part.perform, Errand.perform, Operation.perform, found, alone]
      have whole := Errand.Effect.whole store
      rw [Errand.reply, Operation.answer, alone] at whole
      exact whole
  | returned found running sentAt after => exact .split found running sentAt after

def Queue.replay (queue : Queue) (changes : List Change) : Queue :=
  changes.foldl (fun queue change => change.part.perform queue) queue

theorem Queue.replay_concat (queue : Queue) (changes : List Change) (change : Change) :
    queue.replay (changes ++ [change]) = change.part.perform (queue.replay changes) := by
  simp [replay]

namespace Crowd

def own (crowd : Crowd) (number : Nat) : List (Part × Queue) :=
  crowd.changes.filterMap fun change =>
    if change.call = number then some (change.part, change.before) else none

/-- Calls on a queue have changed it one after another. -/
structure Sequential (queue : Queue) (crowd : Crowd) : Prop where
  final : crowd.queue = queue.replay crowd.changes
  each : ∀ earlier change later, crowd.changes = earlier ++ change :: later →
    change.before = queue.replay earlier

structure Sound (queue : Queue) (crowd : Crowd) : Prop where
  sequential : crowd.Sequential queue
  courses : ∀ number (call : Call), crowd.calls[number]? = some call →
    call.errand.Course call.stage (crowd.own number)
  numbered : ∀ change ∈ crowd.changes, change.call < crowd.calls.length

variable {queue : Queue} {crowd : Crowd}

theorem Sequential.concat (sequential : crowd.Sequential queue) (number : Nat) (part : Part)
    (clock : Instant) (calls : List Call) :
    Sequential queue
      { queue := part.perform crowd.queue, clock, calls
        changes := crowd.changes ++ [⟨number, part, crowd.queue⟩] } := by
  refine ⟨?_, ?_⟩
  · rw [Queue.replay_concat, ← sequential.final]
  · intro earlier change later split
    rcases List.eq_nil_or_concat later with rfl | ⟨others, last, rfl⟩
    · obtain ⟨rfl, same⟩ := List.append_inj' split rfl
      rw [← List.singleton_inj.mp same]
      exact sequential.final
    · have joined : crowd.changes ++ [⟨number, part, crowd.queue⟩] =
          (earlier ++ change :: others) ++ [last] := by simpa using split
      exact sequential.each earlier change others (List.append_inj' joined rfl).1

theorem own_stepCall (number other : Nat) (call : Call) :
    (crowd.stepCall number call).own other =
      crowd.own other ++ if number = other then
        (call.stage.step crowd.queue crowd.clock).2.toList.map fun part => (part, crowd.queue)
      else [] := by
  simp only [own, stepCall, List.filterMap_append]
  congr 1
  cases (call.stage.step crowd.queue crowd.clock).2 with
  | none => simp
  | some part => by_cases same : number = other <;> simp [same]

theorem Sound.stepCall (sound : crowd.Sound queue) {number : Nat} {call : Call}
    (present : crowd.calls[number]? = some call) : (crowd.stepCall number call).Sound queue := by
  obtain ⟨sequential, courses, numbered⟩ := sound
  obtain ⟨bound, _⟩ := List.getElem?_eq_some_iff.mp present
  refine ⟨?_, ?_, ?_⟩
  · simp only [Crowd.stepCall]
    cases (call.stage.step crowd.queue crowd.clock).2 with
    | none =>
        refine ⟨sequential.final.trans ?_, ?_⟩
        · simp
        · intro earlier change later split
          exact sequential.each earlier change later (by simpa using split)
    | some part => exact sequential.concat number part _ _
  · intro other found held
    rw [own_stepCall]
    simp only [Crowd.stepCall, List.getElem?_set] at held
    by_cases same : number = other
    · subst same
      rw [if_pos rfl, if_pos bound] at held
      rw [if_pos rfl, ← Option.some.inj held]
      exact (courses number call present).step crowd.queue crowd.clock
    · rw [if_neg same] at held
      rw [if_neg same, List.append_nil]
      exact courses other found held
  · intro change member
    simp only [Crowd.stepCall, List.length_set] at member ⊢
    rcases List.mem_append.mp member with old | new
    · exact numbered change old
    · obtain ⟨part, _, rfl⟩ := List.mem_map.mp new
      exact bound

theorem Sound.after (sound : crowd.Sound queue) (event : Event) : (crowd.after event).Sound queue := by
  cases event with
  | pass span => exact ⟨⟨sound.sequential.final, sound.sequential.each⟩, sound.courses, sound.numbered⟩
  | begin errand =>
      refine ⟨⟨sound.sequential.final, sound.sequential.each⟩, ?_, ?_⟩
      · intro number call held
        simp only [Crowd.after] at held
        by_cases known : number < crowd.calls.length
        · rw [List.getElem?_append_left known] at held
          exact sound.courses number call held
        · -- The call has just begun, so none of the changes is its own.
          have silent : crowd.own number = [] := by
            rw [own, List.filterMap_eq_nil_iff]
            intro change member
            have bound := sound.numbered change member
            rw [if_neg (by omega)]
          rw [List.getElem?_append_right (by omega), List.getElem?_singleton] at held
          split at held
          · rw [← Option.some.inj held]
            change Errand.Course errand _ (crowd.own number)
            rw [silent]
            exact .begun errand
          · simp at held
      · intro change member
        have bound := sound.numbered change member
        simp only [Crowd.after, List.length_append, List.length_singleton]
        omega
  | step number =>
      simp only [Crowd.after]
      cases present : crowd.calls[number]? with
      | none => exact sound
      | some call => exact sound.stepCall present

theorem Sound.run (sound : crowd.Sound queue) (events : List Event) : (crowd.run events).Sound queue := by
  induction events generalizing crowd with
  | nil => exact sound
  | cons event rest ih => exact ih (sound.after event)

theorem sound_run (queue : Queue) (clock : Instant) (events : List Event) :
    (Crowd.run { queue, clock } events).Sound queue := by
  refine Sound.run ⟨⟨rfl, ?_⟩, ?_, ?_⟩ events
  · simp
  · simp
  · simp

theorem after_later (crowd : Crowd) (event : Event) :
    ∃ later, (crowd.after event).changes = crowd.changes ++ later ∧
      ∀ number errand reply, crowd.calls[number]? = some ⟨errand, .finished reply⟩ →
        (crowd.after event).calls[number]? = some ⟨errand, .finished reply⟩ ∧
        ∀ change ∈ later, change.call ≠ number := by
  cases event with
  | pass span => exact ⟨[], (List.append_nil _).symm, fun _ _ _ ended => ⟨ended, by simp⟩⟩
  | begin errand =>
      refine ⟨[], (List.append_nil _).symm, ?_⟩
      intro number errand reply ended
      obtain ⟨bound, _⟩ := List.getElem?_eq_some_iff.mp ended
      exact ⟨(List.getElem?_append_left bound).trans ended, by simp⟩
  | step number =>
      simp only [Crowd.after]
      cases present : crowd.calls[number]? with
      | none => exact ⟨[], (List.append_nil _).symm, fun _ _ _ ended => ⟨ended, by simp⟩⟩
      | some call =>
          rw [Option.map_some, Option.getD_some]
          refine ⟨_, rfl, ?_⟩
          intro other errand reply ended
          simp only [stepCall, List.getElem?_set]
          by_cases same : number = other
          · subst same
            obtain rfl : call = ⟨errand, .finished reply⟩ := Option.some.inj (present.symm.trans ended)
            rw [if_pos rfl, if_pos (List.getElem?_eq_some_iff.mp ended).1]
            exact ⟨rfl, by simp⟩
          · rw [if_neg same]
            refine ⟨ended, ?_⟩
            intro change member
            obtain ⟨part, _, rfl⟩ := List.mem_map.mp member
            exact same

theorem run_later (crowd : Crowd) (events : List Event) :
    ∃ later, (crowd.run events).changes = crowd.changes ++ later ∧
      ∀ number errand reply, crowd.calls[number]? = some ⟨errand, .finished reply⟩ →
        ∀ change ∈ later, change.call ≠ number := by
  induction events generalizing crowd with
  | nil => exact ⟨[], (List.append_nil _).symm, by simp⟩
  | cons event rest ih =>
      obtain ⟨first, changes, kept⟩ := crowd.after_later event
      obtain ⟨second, more, silent⟩ := ih (crowd.after event)
      refine ⟨first ++ second, ?_, ?_⟩
      · rw [← List.append_assoc, ← changes]
        exact more
      · intro number errand reply ended change member
        obtain ⟨still, others⟩ := kept number errand reply ended
        rcases List.mem_append.mp member with early | late
        · exact others change early
        · exact silent number errand reply still change late

end Crowd

theorem Operation.deed?_of_single {operation : Operation}
    (single : (Errand.act operation).isSingle = true) (queue : Queue) (now : Instant)
    (message : Message) : operation.deed? queue now ≠ some (.sent message) := by
  cases operation <;> simp [deed?, Errand.isSingle] at single ⊢

theorem Part.holds {part : Part} {queue : Queue} {known : Message → Prop}
    (holds : queue.store.Holds known)
    (single : ∀ errand now, part = .once errand now → errand.isSingle = true)
    (appended : ∀ message, part = .append message → known message.bare) :
    (part.perform queue).store.Holds known := by
  cases part with
  | append message => exact holds.push (appended message rfl)
  | removal message =>
      simp only [perform]
      cases queue.leaseOf? message with
      | none => exact holds
      | some lease => exact holds.withoutLease lease.token
  | once errand now =>
      have once := single errand now rfl
      cases errand with
      | countPending | countLocked => exact holds
      | act operation =>
          have stored := (operation.perform_effect queue now).store
          cases deedEq : operation.deed? queue now with
          | none =>
              rw [deedEq] at stored
              have unchanged : (operation.perform queue now).store = queue.store := stored
              rw [perform, Errand.perform, unchanged]
              exact holds
          | some deed =>
              rw [deedEq] at stored
              refine (Store.Step.holds stored holds ?_).1
              rintro message rfl
              exact absurd deedEq (operation.deed?_of_single once queue now message)

theorem Errand.Course.part {errand : Errand} {stage : Stage} {own : List (Part × Queue)}
    (course : errand.Course stage own) {part : Part} {before : Queue}
    (member : (part, before) ∈ own) :
    (∃ now, part = .once errand now ∧ errand.isSingle = true) ∨
      (∃ message now, errand = .act (.send message) ∧ part = .append (message.stamped now)) ∨
      (∃ message, errand = .act (.abandon message) ∧ part = .removal message) ∨
      ∃ message earlier lease sentAt, errand = .act (.abandon message) ∧
        earlier.leaseOf? message = some lease ∧
        part = .append (lease.message.withoutToken.stamped sentAt) ∧
        own = [(.removal message, earlier), (part, before)] := by
  cases course with
  | begun | sending | stamped => simp at member
  | once single _ now =>
      obtain ⟨rfl, rfl⟩ := Prod.mk.inj (List.mem_singleton.mp member)
      exact Or.inl ⟨now, rfl, single⟩
  | sent message now =>
      obtain ⟨rfl, rfl⟩ := Prod.mk.inj (List.mem_singleton.mp member)
      exact Or.inr (Or.inl ⟨message, now, rfl, rfl⟩)
  | @missed message | @removed message | @lapsed message | @returning message | @restamped message =>
      obtain ⟨rfl, rfl⟩ := Prod.mk.inj (List.mem_singleton.mp member)
      exact Or.inr (Or.inr (Or.inl ⟨message, rfl, rfl⟩))
  | @returned message earlier lease now found running sentAt after =>
      rcases List.mem_cons.mp member with first | second
      · obtain ⟨rfl, rfl⟩ := Prod.mk.inj first
        exact Or.inr (Or.inr (Or.inl ⟨message, rfl, rfl⟩))
      · obtain ⟨rfl, rfl⟩ := Prod.mk.inj (List.mem_singleton.mp second)
        exact Or.inr (Or.inr (Or.inr ⟨message, earlier, lease, sentAt, rfl, found, rfl, rfl⟩))

namespace Crowd

/-- Where a message can come from that is on the queue after a clear: a call to send it appended it
since, or a call gave it back whose removal came before the clear and whose append came since. -/
inductive Source (crowd : Crowd) (earlier later : List Change) (bare : Message) : Prop
  | sent {change : Change} {message : Message} {stage : Errand.Stage} (listed : change ∈ later)
      (call : crowd.calls[change.call]? = some ⟨.act (.send message), stage⟩)
      (same : message.bare = bare)
  | returned {removal append : Change} {message : Message} {lease : Lease}
      (removed : removal ∈ earlier) (part : removal.part = .removal message)
      (found : removal.before.leaseOf? message = some lease) (appended : append ∈ later)
      (own : append.call = removal.call) (same : lease.message.bare = bare)

variable {queue : Queue} {crowd : Crowd}

theorem mem_own {number : Nat} {part : Part} {before : Queue} :
    (part, before) ∈ crowd.own number ↔ ⟨number, part, before⟩ ∈ crowd.changes := by
  simp only [own, List.mem_filterMap]
  constructor
  · rintro ⟨⟨call, part, before⟩, listed, found⟩
    split at found
    · rename_i same
      obtain ⟨rfl, rfl⟩ := Prod.mk.inj (Option.some.inj found)
      exact same ▸ listed
    · simp at found
  · intro listed
    exact ⟨_, listed, if_pos rfl⟩

theorem removal_before {front todo : List Change} {change : Change} {message : Message}
    {earlier : Queue} (split : crowd.changes = front ++ change :: todo)
    (own : crowd.own change.call = [(.removal message, earlier), (change.part, change.before)])
    (append : change.part ≠ .removal message) :
    ⟨change.call, .removal message, earlier⟩ ∈ front := by
  simp only [Crowd.own, split, List.filterMap_append, List.filterMap_cons, if_true] at own
  generalize made : front.filterMap _ = first at own
  cases first with
  | nil =>
      obtain ⟨same, _⟩ := Prod.mk.inj (List.cons.inj own).1
      exact absurd same append
  | cons found rest =>
      rw [(List.cons.inj own).1] at made
      have member := List.mem_filterMap.mp (made ▸ List.mem_cons_self)
      obtain ⟨⟨call, part, before⟩, listed, kept⟩ := member
      split at kept
      · rename_i same
        obtain ⟨rfl, rfl⟩ := Prod.mk.inj (Option.some.inj kept)
        exact same ▸ listed
      · simp at kept

theorem Sound.course (sound : crowd.Sound queue) {change : Change} (listed : change ∈ crowd.changes) :
    ∃ call, crowd.calls[change.call]? = some call ∧
      call.errand.Course call.stage (crowd.own change.call) :=
  have present := List.getElem?_eq_getElem (sound.numbered change listed)
  ⟨_, present, sound.courses _ _ present⟩

theorem Sound.isSingle_of_once (sound : crowd.Sound queue) {change : Change} {errand : Errand}
    {now : Instant} (listed : change ∈ crowd.changes) (once : change.part = .once errand now) :
    errand.isSingle = true := by
  obtain ⟨call, _, course⟩ := sound.course listed
  rcases course.part (mem_own.mpr listed) with ⟨_, whole, single⟩ | ⟨_, _, _, append⟩ |
    ⟨_, _, removal⟩ | ⟨_, _, _, _, _, _, append, _⟩
  · obtain ⟨rfl, _⟩ := Part.once.inj (once.symm.trans whole)
    exact single
  · simp [once] at append
  · simp [once] at removal
  · simp [once] at append

theorem Sound.origin_of_append (sound : crowd.Sound queue) {front todo : List Change}
    {change : Change} {message : Message} (split : crowd.changes = front ++ change :: todo)
    (append : change.part = .append message) :
    (∃ sent stage, crowd.calls[change.call]? = some ⟨.act (.send sent), stage⟩ ∧
        sent.bare = message.bare) ∨
      ∃ handed held lease, ⟨change.call, .removal handed, held⟩ ∈ front ∧
        held.leaseOf? handed = some lease ∧ lease.message.bare = message.bare := by
  have listed : change ∈ crowd.changes := by simp [split]
  obtain ⟨⟨errand, stage⟩, present, course⟩ := sound.course listed
  rcases course.part (mem_own.mpr listed) with ⟨_, whole, _⟩ | ⟨sent, time, rfl, made⟩ |
    ⟨_, _, removal⟩ | ⟨handed, held, lease, sentAt, _, found, made, both⟩
  · simp [append] at whole
  · rw [Part.append.inj (append.symm.trans made)]
    exact Or.inl ⟨sent, stage, present, rfl⟩
  · simp [append] at removal
  · rw [Part.append.inj (append.symm.trans made)]
    exact Or.inr ⟨handed, held, lease, removal_before split both (by simp [append]), found, rfl⟩

theorem Sound.holds_since (sound : crowd.Sound queue) {earlier done todo : List Change}
    {number : Nat} {now : Instant} {before : Queue}
    (split : crowd.changes =
      earlier ++ ⟨number, .once (.act .clear) now, before⟩ :: (done ++ todo)) :
    (queue.replay (earlier ++ ⟨number, .once (.act .clear) now, before⟩ :: done)).store.Holds
        (crowd.Source earlier (done ++ todo)) ∧
      ∀ change ∈ done, change.before.store.Holds (crowd.Source earlier (done ++ todo)) := by
  induction done using List.reverseRecOn generalizing todo with
  | nil =>
      refine ⟨?_, by simp⟩
      rw [Queue.replay_concat]
      simp [Part.perform, Errand.perform, Operation.perform, Queue.clear, Store.Holds]
  | append_singleton done change ih =>
      rw [List.append_assoc, List.singleton_append] at split ⊢
      obtain ⟨holds, known⟩ := ih split
      have whole : crowd.changes =
          (earlier ++ ⟨number, .once (.act .clear) now, before⟩ :: done) ++ change :: todo := by
        simp [split]
      rw [← sound.sequential.each _ change todo whole] at holds
      refine ⟨?_, ?_⟩
      · rw [← List.cons_append, ← List.append_assoc, Queue.replay_concat,
          ← sound.sequential.each _ change todo whole]
        refine Part.holds holds ?_ ?_
        · intro errand time once
          exact sound.isSingle_of_once (by simp [split]) once
        · intro message append
          have listed : change ∈ done ++ change :: todo := by simp
          rcases sound.origin_of_append whole append with ⟨sent, stage, present, same⟩ |
            ⟨handed, held, lease, removed, found, same⟩
          · exact .sent listed present same
          · rcases List.mem_append.mp removed with past | since
            · exact .returned past rfl found listed rfl same
            · -- The lease was granted since, so its message is known by the time of the removal.
              have late : (⟨change.call, .removal handed, held⟩ : Change) ∈ done := by
                simpa using since
              obtain ⟨_, leased⟩ := Queue.leaseOf?_eq_some found
              rw [← same]
              exact (known _ late).leased leased
      · intro other member
        rcases List.mem_append.mp member with old | new
        · exact known other old
        · rw [List.mem_singleton.mp new]
          exact holds

end Crowd

/-- Calls that overlap take effect in one sequence. It begins with the queue as it was and ends with the
queue as it is; each call that is over is one whole call at a point of the sequence, with the reply that
it gets there, or it gave a message back in two parts; and what a call does that is over comes before
all that later calls do. After a clear in the sequence there are only messages that a call to send
them appended later, or that a call gave back which had taken out their lease before the clear. -/
theorem calls_take_effect_in_sequence (queue : Queue) (clock : Instant) (events : List Crowd.Event) :
    let crowd := Crowd.run { queue, clock } events
    crowd.Sequential queue ∧
    (∀ number (errand : Errand) (reply : Errand.Reply),
      crowd.calls[number]? = some ⟨errand, .finished reply⟩ →
        errand.Effect reply (crowd.own number)) ∧
    (∀ first rest, events = first ++ rest →
      let past := Crowd.run { queue, clock } first
      (∀ change ∈ past.changes, change.call < past.calls.length) ∧
      ∃ later, crowd.changes = past.changes ++ later ∧
        ∀ number errand reply, past.calls[number]? = some ⟨errand, .finished reply⟩ →
          ∀ change ∈ later, change.call ≠ number) ∧
    ∀ earlier number now before later,
      crowd.changes = earlier ++ ⟨number, .once (.act .clear) now, before⟩ :: later →
      ∀ message ∈ crowd.queue.store.pending ++ crowd.queue.store.leases.map Lease.message,
        crowd.Source earlier later message.bare := by
  intro crowd
  have sound : crowd.Sound queue := Crowd.sound_run queue clock events
  refine ⟨sound.sequential, ?_, ?_, ?_⟩
  · intro number errand reply ended
    have course := sound.courses number _ ended
    exact course.effect
  · intro first rest split past
    refine ⟨(Crowd.sound_run queue clock first).numbered, ?_⟩
    have continued : crowd = past.run rest := by
      simp only [crowd, past, split, Crowd.run, List.foldl_append]
    rw [continued]
    exact past.run_later rest
  · intro earlier number now before later split
    have whole : crowd.changes =
        earlier ++ ⟨number, .once (.act .clear) now, before⟩ :: (later ++ []) := by
      rw [List.append_nil]
      exact split
    have holds := (sound.holds_since whole).1
    rw [List.append_nil, ← split, ← sound.sequential.final] at holds
    exact holds

/-- How much time passes before each step of a call. -/
structure Pauses where
  first : Duration := ⟨0⟩
  second : Duration := ⟨0⟩
  third : Duration := ⟨0⟩
  fourth : Duration := ⟨0⟩

structure Errand.Progress where
  stage : Errand.Stage
  queue : Queue
  now : Instant

def Errand.Progress.after (progress : Errand.Progress) (pause : Duration) : Errand.Progress :=
  let now := progress.now + pause
  let (stage, part?) := progress.stage.step progress.queue now
  { stage, queue := part?.elim progress.queue fun part => part.perform progress.queue, now }

def Errand.alone (errand : Errand) (queue : Queue) (now : Instant) (pauses : Pauses) :
    Errand.Progress :=
  [pauses.first, pauses.second, pauses.third, pauses.fourth].foldl Errand.Progress.after
    ⟨.begun errand, queue, now⟩

def Queue.inTurn (queue : Queue) (now : Instant) (calls : List (Errand × Pauses)) : Queue × Instant :=
  calls.foldl (fun (queue, now) (errand, pauses) =>
    let ended := errand.alone queue now pauses
    (ended.queue, ended.now)) (queue, now)

theorem Errand.alone_at_once (errand : Errand) (queue : Queue) (now : Instant) :
    (errand.alone queue now {}).stage = .finished (errand.reply queue now) ∧
      (errand.alone queue now {}).queue.store = (errand.perform queue now).store := by
  have still : now + (⟨0⟩ : Duration) = now := rfl
  cases single : errand.isSingle with
  | true =>
      simp only [alone, List.foldl_cons, List.foldl_nil, Progress.after, still,
        step_of_single single]
      exact ⟨rfl, rfl⟩
  | false =>
      cases errand with
      | countPending | countLocked => simp [isSingle] at single
      | act operation =>
          cases operation with
          | send message => exact ⟨rfl, rfl⟩
          | abandon message =>
              simp only [alone, List.foldl_cons, List.foldl_nil, Progress.after, still, Stage.step,
                reply, perform, Operation.answer, Operation.perform]
              cases found : queue.leaseOf? message with
              | none =>
                  have once : queue.abandon message now = (message, queue) :=
                    Queue.abandon_of_none found
                  simp [Part.perform, found, once]
              | some lease =>
                  cases expired : lease.term.isExpired now with
                  | true =>
                      simp [Part.perform, found, expired, Queue.abandon_of_lapsed found expired]
                  | false =>
                      simp [Part.perform, found, expired, Queue.abandon_of_running found expired]
          | _ => simp [isSingle] at single

theorem Errand.alone_clear (queue : Queue) (now : Instant) (pauses : Pauses) :
    ((Errand.act .clear).alone queue now pauses).queue = queue.clear := rfl

theorem Errand.alone_abandon {queue : Queue} {message : Message}
    (missing : queue.leaseOf? message = none) (now : Instant) (pauses : Pauses) :
    ((Errand.act (.abandon message)).alone queue now pauses).queue = queue := by
  simp [alone, Progress.after, Stage.step, Part.perform, missing]

/-- A message is given back while a clear runs, and is pending in the end. One after the other, in either
order and however much time they take, the two calls leave nothing. -/
theorem abandon_around_clear :
    let message : Message := { id := ⟨1⟩, correlationId := "c", kind := "job", payload := [1] }
    let queue := (Queue.ofSettings "orders" {}).performAll .origin
      [.send message, .take (.ofMillis 50)]
    let abandoning := Errand.act (.abandon (message.withToken ⟨0⟩))
    let clearing := Errand.act .clear
    let crowd := Crowd.run { queue, clock := .origin }
      [.begin abandoning, .begin clearing, .step 0, .step 1, .step 0, .step 0, .step 0]
    crowd.calls = [⟨abandoning, .finished (.answer (.kept message))⟩,
      ⟨clearing, .finished (.answer .done)⟩] ∧
    crowd.queue.store.pending = [message.stamped .origin] ∧
    ∀ calls : List (Errand × Pauses), (calls.map Prod.fst).Perm [abandoning, clearing] →
      (queue.inTurn .origin calls).1.store.pending = [] := by
  intro message queue abandoning clearing crowd
  refine ⟨by decide, by decide, ?_⟩
  intro calls order
  obtain ⟨⟨first, pauses⟩, ⟨second, others⟩, rfl⟩ :=
    List.length_eq_two.mp ((List.length_map _).symm.trans order.length_eq)
  have clears : clearing ∈ [first, second] := order.mem_iff.mpr (by simp)
  have abandons : abandoning ∈ [first, second] := order.mem_iff.mpr (by simp)
  simp only [List.mem_cons, List.not_mem_nil, or_false] at clears abandons
  rcases clears with rfl | rfl
  · -- The lease is gone when the message is given back.
    obtain rfl : abandoning = second := abandons.resolve_left (by simp [abandoning, clearing])
    have missing : queue.clear.leaseOf? (message.withToken ⟨0⟩) = none := rfl
    simp only [Queue.inTurn, List.foldl_cons, List.foldl_nil, clearing, abandoning,
      Errand.alone_clear, Errand.alone_abandon missing]
    rfl
  · simp only [Queue.inTurn, List.foldl_cons, List.foldl_nil, clearing, Errand.alone_clear]
    rfl

end LeaseQueue
