import LeaseQueue.Proofs.Deadline
import LeaseQueue.Proofs.Listening

/-!
The pace of a listener. The times that a listener waits for are tied to the beginning of its iteration,
however often it is woken in between; and an iteration begins one interval after the one before, or
when that is over, whichever comes later.
-/

namespace LeaseQueue

/-- A call that began at a time, with all its waits tied to that time. -/
structure Reception.Timed (call : Reception) (begun : Instant) (timeout : Duration) : Prop where
  timeout_eq : call.timeout = timeout
  deadline_eq : call.deadline = begun.deadlineAfter timeout
  started : call.stage ≠ .unstarted
  unfinished : call.isFinished = false
  wakes : ∀ arrivals wakeAt, call.stage = .parked arrivals wakeAt → wakeAt ≤ call.deadline

theorem Reception.timed_start (timeout : Duration) (now : Instant) :
    (Reception.start timeout now).Timed now timeout :=
  ⟨rfl, rfl, by simp [start], rfl, by simp [start]⟩

theorem Reception.Timed.advance {call next : Reception} {queue rest : Queue}
    {begun now : Instant} {timeout : Duration} (timed : call.Timed begun timeout)
    (advanced : call.Advance queue now next rest) (unfinished : next.isFinished = false) :
    next.Timed begun timeout := by
  obtain ⟨sameTimeout, sameDeadline, started, _, wakes⟩ := timed
  cases advanced with
  | begins fresh => exact absurd fresh started
  | takes | givesUp => simp [isFinished] at unfinished
  | registers | wakes => exact ⟨sameTimeout, sameDeadline, by simp, unfinished, by simp⟩
  | parks registered empty early =>
      refine ⟨sameTimeout, sameDeadline, by simp, unfinished, ?_⟩
      rintro arrivals wakeAt same
      obtain ⟨_, rfl⟩ := Stage.parked.inj same
      simp only [Instant.le_iff, Instant.lt_iff, Instant.add_nanos, Duration.min_nanos,
        Instant.sub_nanos] at early ⊢
      omega
  | idles => exact ⟨sameTimeout, sameDeadline, started, unfinished, wakes⟩

namespace Listener

/-- What a listener waits for, in terms of an iteration that began at the latest at a given time. -/
def Timed (listener : Listener) (interval : Duration) (latest : Instant) : Prop :=
  match listener.stage with
  | .receiving iteration call => iteration ≤ latest ∧ call.Timed iteration interval
  | .handling iteration _ _ _ | .dispatched iteration => iteration ≤ latest
  | .sleeping wakeAt => ∃ iteration, iteration ≤ latest ∧ wakeAt = iteration + interval
  | .starting | .betweenIterations | .finished _ => True

theorem Timed.mono {listener : Listener} {interval : Duration} {first second : Instant}
    (timed : listener.Timed interval first) (order : first ≤ second) :
    listener.Timed interval second := by
  unfold Timed at timed ⊢
  split at timed
  · exact ⟨Nat.le_trans timed.1 order, timed.2⟩
  · exact Nat.le_trans timed order
  · exact Nat.le_trans timed order
  · obtain ⟨iteration, before, same⟩ := timed
    exact ⟨iteration, Nat.le_trans before order, same⟩
  all_goals trivial

theorem Timed.move {listener next : Listener} {queue rest : Queue} {latest now : Instant}
    {freshId : MessageId} {notices : List Notice}
    (timed : listener.Timed queue.settings.listenInterval latest)
    (move : Move listener queue now freshId next rest notices)
    (begun : listener.stage = .betweenIterations → queue.cancelled = false → now ≤ latest) :
    next.Timed queue.settings.listenInterval latest := by
  unfold Timed at timed
  cases move with
  | idles => exact timed
  | begins between calm => exact ⟨begun between calm, Reception.timed_start _ now⟩
  | waits receiving advanced unfinished =>
      rw [receiving] at timed
      exact ⟨timed.1, timed.2.advance advanced unfinished⟩
  | misses receiving | gives receiving | handsBack receiving =>
      rw [receiving] at timed
      exact timed.1
  | acts handling | ends handling =>
      rw [handling] at timed
      exact timed
  | sleeps dispatched =>
      rw [dispatched] at timed
      exact ⟨_, timed, rfl⟩
  | refused | opens | stops | restarts | wakes => trivial

end Listener

theorem Listening.timed {listening : Listening} {scene : Listener.Scene}
    (found : listening.scene? = some scene) :
    scene.listener.Timed listening.interval scene.now := by
  rw [← listening.begun_further] at found
  refine carried (fun _ scene => scene.listener.Timed listening.interval scene.now) ?_ ?_ found
  · intro scene first
    rw [begun_scene] at first
    obtain rfl := Option.some.inj first
    trivial
  · intro early event before turns next _ present moved held
    cases moved with
    | turn turn =>
        have interval : listening.interval = turn.queue.settings.listenInterval :=
          (interval_of_scene present :)
        rw [interval] at held ⊢
        exact held.move turn.move fun _ _ => Nat.le_refl _
    | others => exact held
    | time => exact held.mono (Nat.le_add_right _ _)

namespace Listener

def starts? (listener next : Listener) (now : Instant) : Option Instant :=
  match listener.stage, next.stage with
  | .betweenIterations, .receiving _ _ => some now
  | _, _ => none

def dealt? (listener next : Listener) (now : Instant) : Option Instant :=
  match listener.stage, next.stage with
  | .receiving _ _, .dispatched _ => some now
  | .handling _ _ _ _, .dispatched _ => some now
  | _, _ => none

def Turn.starts? (turn : Turn) : Option Instant :=
  turn.listener.starts? turn.outcome.listener turn.now

def Turn.dealt? (turn : Turn) : Option Instant :=
  turn.listener.dealt? turn.outcome.listener turn.now

/-- The times at which iterations began and were dealt with. An iteration begins one interval after the
one before it began, or when that was dealt with, whichever is later: never earlier, and just then when
the listener gets its turns in time. -/
def Paced (interval : Duration) (prompt : Prop) (starts dealt : List Instant) : Prop :=
  ∀ number first second, starts[number]? = some first → starts[number + 1]? = some second →
    ∃ settled, dealt[number]? = some settled ∧ max (first + interval) settled ≤ second ∧
      (prompt → second = max (first + interval) settled)

structure Over (starts dealt : List Instant) (begun settled : Instant) : Prop where
  starts_eq : ∃ earlier, starts = earlier ++ [begun]
  dealt_eq : ∃ earlier, dealt = earlier ++ [settled]
  length_eq : starts.length = dealt.length

def Stage.Keeps (stage : Stage) (interval : Duration) (prompt : Prop) (now : Instant)
    (starts dealt : List Instant) : Prop :=
  match stage with
  | .starting => starts = [] ∧ dealt = []
  | .betweenIterations =>
    (starts = [] ∧ dealt = []) ∨
      ∃ begun settled, Over starts dealt begun settled ∧ max (begun + interval) settled ≤ now ∧
        (prompt → now = max (begun + interval) settled)
  | .receiving iteration _ | .handling iteration _ _ _ =>
    ∃ earlier, starts = earlier ++ [iteration] ∧ earlier.length = dealt.length
  | .dispatched iteration =>
    ∃ settled, Over starts dealt iteration settled ∧ settled ≤ now ∧ (prompt → settled = now)
  | .sleeping wakeAt =>
    ∃ begun settled, Over starts dealt begun settled ∧ wakeAt = begun + interval ∧ settled ≤ wakeAt ∧
      (prompt → now ≤ wakeAt)
  | .finished _ => True

variable {interval : Duration} {prompt : Prop} {starts dealt : List Instant}

theorem Paced.deal (paced : Paced interval prompt starts dealt) (now : Instant) :
    Paced interval prompt starts (dealt ++ [now]) := by
  intro number first second begun next
  obtain ⟨settled, known, later, exactly⟩ := paced number first second begun next
  have bound := (List.getElem?_eq_some_iff.mp known).1
  exact ⟨settled, by rw [List.getElem?_append_left bound, known], later, exactly⟩

theorem Paced.start (paced : Paced interval prompt starts dealt) {begun settled now : Instant}
    (last : Over starts dealt begun settled) (later : max (begun + interval) settled ≤ now)
    (exactly : prompt → now = max (begun + interval) settled) :
    Paced interval prompt (starts ++ [now]) dealt := by
  obtain ⟨⟨earlier, rfl⟩, ⟨past, rfl⟩, sameLength⟩ := last
  have known : earlier.length = past.length := by simpa using sameLength
  intro number first second start next
  have bound := (List.getElem?_eq_some_iff.mp next).1
  by_cases final : number = earlier.length
  · subst final
    rw [List.append_assoc, List.getElem?_append_right (Nat.le_refl _)] at start
    rw [List.append_assoc, List.getElem?_append_right (Nat.le_succ _)] at next
    obtain rfl : begun = first := by simpa using start
    obtain rfl : now = second := by simpa using next
    exact ⟨settled, by rw [known]; simp, later, exactly⟩
  · have inside : number + 1 < (earlier ++ [begun]).length := by
      simp only [List.length_append, List.length_singleton] at bound ⊢
      omega
    rw [List.getElem?_append_left (Nat.lt_of_succ_lt inside)] at start
    rw [List.getElem?_append_left inside] at next
    exact paced number first second start next

theorem Paced.of_first (now : Instant) : Paced interval prompt [now] [] := by
  intro number first second _ next
  simp at next

structure Keeps (listener : Listener) (interval : Duration) (prompt : Prop) (now : Instant)
    (starts dealt : List Instant) : Prop where
  paced : Paced interval prompt starts dealt
  stands : listener.stage.Keeps interval prompt now starts dealt

section Moves

variable {listener next : Listener} {queue rest : Queue} {now : Instant} {freshId : MessageId}
  {notices : List Notice}

theorem Paced.unseen (paced : Paced interval prompt starts dealt)
    (goesOn : listener.starts? next now = none) (stays : listener.dealt? next now = none)
    (stands : next.stage.Keeps interval prompt now starts dealt) :
    next.Keeps interval prompt now (starts ++ (listener.starts? next now).toList)
      (dealt ++ (listener.dealt? next now).toList) := by
  rw [goesOn, stays, Option.toList_none, List.append_nil, List.append_nil]
  exact ⟨paced, stands⟩

theorem Paced.concludes (paced : Paced interval prompt starts dealt) {iteration : Instant}
    (goesOn : listener.starts? next now = none) (deals : listener.dealt? next now = some now)
    (underWay : ∃ earlier, starts = earlier ++ [iteration] ∧ earlier.length = dealt.length)
    (stage : next.stage = .dispatched iteration) :
    next.Keeps interval prompt now (starts ++ (listener.starts? next now).toList)
      (dealt ++ (listener.dealt? next now).toList) := by
  obtain ⟨earlier, rfl, sameLength⟩ := underWay
  rw [goesOn, deals, Option.toList_none, List.append_nil, Option.toList_some]
  refine ⟨paced.deal now, ?_⟩
  rw [stage]
  exact ⟨now, ⟨⟨earlier, rfl⟩, ⟨dealt, rfl⟩, by simp [sameLength]⟩, Nat.le_refl _, fun _ => rfl⟩

theorem Move.keeps (move : Move listener queue now freshId next rest notices)
    (keeps : listener.Keeps queue.settings.listenInterval prompt now starts dealt) :
    next.Keeps queue.settings.listenInterval prompt now
      (starts ++ (listener.starts? next now).toList)
      (dealt ++ (listener.dealt? next now).toList) := by
  obtain ⟨paced, stands⟩ := keeps
  cases move with
  | idles =>
      refine paced.unseen ?_ ?_ stands
      · unfold starts?
        split <;> simp_all
      · unfold dealt?
        split <;> simp_all
  | refused starting => exact paced.unseen (by simp [starts?]) (by simp [dealt?]) trivial
  | opens starting =>
      rw [starting] at stands
      exact paced.unseen (by simp [starts?]) (by simp [dealt?]) (Or.inl stands)
  | begins between calm =>
      have starts : listener.starts? { listener with
          stage := .receiving now (Reception.start queue.settings.listenInterval now) } now =
            some now := by
        simp [starts?, between]
      have deals : listener.dealt? { listener with
          stage := .receiving now (Reception.start queue.settings.listenInterval now) } now =
            none := by
        simp [dealt?]
      rw [between] at stands
      rw [starts, deals, Option.toList_none, List.append_nil, Option.toList_some]
      rcases stands with ⟨rfl, rfl⟩ | ⟨begun, settled, last, later, exactly⟩
      · exact ⟨Paced.of_first now, [], rfl, rfl⟩
      · exact ⟨paced.start last later exactly, _, rfl, last.length_eq⟩
  | stops unbusy => exact paced.unseen (by simp [starts?]) (by simp [dealt?]) trivial
  | waits receiving advanced unfinished =>
      rw [receiving] at stands
      exact paced.unseen (by simp [starts?, receiving]) (by simp [dealt?]) stands
  | gives receiving =>
      rw [receiving] at stands
      exact paced.unseen (by simp [starts?]) (by simp [dealt?]) stands
  | misses receiving | handsBack receiving =>
      rw [receiving] at stands
      exact paced.concludes (by simp [starts?]) (by simp [dealt?, receiving]) stands rfl
  | acts handling =>
      rw [handling] at stands
      exact paced.unseen (by simp [starts?]) (by simp [dealt?]) stands
  | ends handling =>
      rw [handling] at stands
      exact paced.concludes (by simp [starts?]) (by simp [dealt?, handling]) stands rfl
  | sleeps dispatched calm early =>
      rw [dispatched] at stands
      obtain ⟨settled, last, before, exactly⟩ := stands
      refine paced.unseen (by simp [starts?]) (by simp [dealt?]) ⟨_, settled, last, rfl, ?_, ?_⟩
      · exact Nat.le_trans before (Nat.le_of_lt early)
      · exact fun _ => Nat.le_of_lt early
  | restarts dispatched calm late =>
      rw [dispatched] at stands
      obtain ⟨settled, last, before, exactly⟩ := stands
      refine paced.unseen (by simp [starts?]) (by simp [dealt?])
        (Or.inr ⟨_, settled, last, ?_, ?_⟩)
      · simp only [Instant.le_iff, Instant.max_nanos] at before late ⊢
        omega
      · intro timely
        obtain rfl := exactly timely
        simp only [Instant.le_iff, Instant.eq_iff, Instant.max_nanos] at late ⊢
        omega
  | wakes sleeping due =>
      rw [sleeping] at stands
      obtain ⟨begun, settled, last, rfl, before, exactly⟩ := stands
      refine paced.unseen (by simp [starts?]) (by simp [dealt?])
        (Or.inr ⟨begun, settled, last, ?_, ?_⟩)
      · simp only [Instant.le_iff, Instant.max_nanos] at before due ⊢
        omega
      · intro timely
        have early := exactly timely
        simp only [Instant.le_iff, Instant.eq_iff, Instant.max_nanos] at before due early ⊢
        omega

theorem Stage.Keeps.pass {scene : Scene} {span : Duration}
    (stands : scene.listener.stage.Keeps interval prompt scene.now starts dealt)
    (waits : prompt → scene.waits span = true) :
    scene.listener.stage.Keeps interval prompt (scene.now + span) starts dealt := by
  obtain ⟨listener, queue, now⟩ := scene
  simp only [Scene.waits, Bool.and_eq_true, Bool.not_eq_true'] at stands waits ⊢
  have later {time : Instant} (before : time ≤ now) : time ≤ now + span :=
    Nat.le_trans before (Nat.le_add_right _ _)
  cases stage : listener.stage with
  | starting | receiving | handling | finished =>
      rw [stage] at stands
      exact stands
  | betweenIterations =>
      rw [stage] at stands
      have busy : ¬ prompt := fun timely => by simpa [isReady, stage] using (waits timely).1
      rcases stands with first | ⟨begun, settled, last, before, _⟩
      · exact Or.inl first
      · exact Or.inr ⟨begun, settled, last, later before, fun timely => absurd timely busy⟩
  | dispatched iteration =>
      rw [stage] at stands
      have busy : ¬ prompt := fun timely => by simpa [isReady, stage] using (waits timely).1
      obtain ⟨settled, last, before, _⟩ := stands
      exact ⟨settled, last, later before, fun timely => absurd timely busy⟩
  | sleeping wakeAt =>
      rw [stage] at stands
      obtain ⟨begun, settled, last, same, before, _⟩ := stands
      refine ⟨begun, settled, last, same, before, ?_⟩
      intro timely
      simpa [wakeAt?, stage] using (waits timely).2

end Moves

end Listener

namespace Listening

variable {listening : Listening}

def turns (listening : Listening) : List Listener.Turn :=
  listening.begun.turnsDuring listening.events

def starts (listening : Listening) : List Instant := listening.turns.filterMap Listener.Turn.starts?

def dealt (listening : Listening) : List Instant := listening.turns.filterMap Listener.Turn.dealt?

theorem iterations_paced (listening : Listening) :
    Listener.Paced listening.interval (listening.begun.attendedDuring listening.events = true)
      listening.starts listening.dealt := by
  obtain ⟨early, scene, within, sameTurns, present⟩ :=
    last_scene listening.begun_scene listening.events
  have kept := carried (fun turns scene => scene.listener.Keeps listening.interval
    (listening.begun.attendedDuring listening.events = true) scene.now
    (turns.filterMap Listener.Turn.starts?) (turns.filterMap Listener.Turn.dealt?)) ?_ ?_ present
  · rw [sameTurns] at kept
    exact kept.paced
  · intro first begins
    rw [begun_scene] at begins
    obtain rfl := Option.some.inj begins
    exact ⟨by simp [Listener.Paced], rfl, rfl⟩
  · intro sofar event before turns next reached found moved kept
    rw [List.filterMap_append, List.filterMap_append]
    cases moved with
    | turn turn =>
        have single (view : Listener.Turn → Option Instant) :
            [turn].filterMap view = (view turn).toList := by
          cases seen : view turn <;> simp [seen]
        have interval : listening.interval = turn.queue.settings.listenInterval :=
          (interval_of_scene found :)
        rw [interval] at kept ⊢
        rw [single, single]
        exact turn.move.keeps kept
    | others => simpa using kept
    | time _ span =>
        simp only [List.filterMap_nil, List.append_nil]
        refine ⟨kept.paced, kept.stands.pass ?_⟩
        intro attended
        exact waits_of_attended attended (reached.trans within) found

end Listening

end LeaseQueue
