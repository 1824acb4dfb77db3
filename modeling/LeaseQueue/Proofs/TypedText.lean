import LeaseQueue.Proofs.Encoding
import LeaseQueue.Proofs.Registration
import LeaseQueue.Proofs.Spacing
import LeaseQueue.Proofs.Waiting
import LeaseQueue.Shell.Session

/-!
Messages typed into the shell. The line is cut into words, so the payload that is sent has the words of
the text that was typed, with one space between each two.
-/

namespace LeaseQueue

namespace Shell

namespace Session

/-- The states of a session: it starts, answers commands, and time passes between them. -/
inductive Reached (configuration : Configuration) (name : String) : Session → Prop
  | started {system : System} {session : Session}
      (started : Session.start configuration name system = .ok session) :
      Reached configuration name session
  | answered {session : Session} (before : Reached configuration name session) (command : Command) :
      Reached configuration name (session.answer command).1
  | caughtUp {session : Session} (before : Reached configuration name session) (now : Instant) :
      Reached configuration name (session.catchUp now).1

def HasQueue (session : Session) : Prop := session.queue < session.system.queues.length

end Session

end Shell

theorem System.lasting_bound (index : Nat) : System.Lasting fun system => index < system.queues.length where
  running _ bound := bound
  clock _ bound := bound
  step := by
    intro system task _ bound
    cases held : system.queue? task.queue with
    | none => rwa [System.stepTask, held]
    | some queue => rwa [System.stepTask_queues held, List.length_set]

namespace Shell

namespace Session

theorem hasQueue_start {configuration : Configuration} {name : String} {system : System}
    {session : Session} (started : Session.start configuration name system = .ok session) :
    session.HasQueue := by
  rw [start, Registry.getOrCreate_of_new] at started
  cases built : ({ configuration } : Registry).build name with
  | error fault => simp [built, Except.map, bind, Except.bind] at started
  | ok queue =>
      rw [built] at started
      obtain rfl := Except.ok.inj started
      simp [HasQueue, System.modifyQueue, System.setQueue, System.addQueue]

variable {session : Session}

theorem HasQueue.modifyQueue (has : session.HasQueue) (change : Queue → Queue) :
    (session.modifyQueue change).HasQueue := by
  rwa [HasQueue, Session.modifyQueue, System.modifyQueue, System.setQueue, List.length_set]

theorem HasQueue.heard (has : session.HasQueue) : session.heard.1.HasQueue := has

theorem HasQueue.newMessage (has : session.HasQueue) (correlationId kind : String) (payload : List UInt8) :
    ({ session with system := (session.system.newMessage correlationId kind payload).2 } : Session).HasQueue :=
  has

theorem HasQueue.spawnFirst (has : session.HasQueue) (job : Job) :
    ({ session with system := (session.system.spawnFirst session.queue job).2 } : Session).HasQueue :=
  has

theorem HasQueue.runUntil (has : session.HasQueue) (done : System → Bool) (own : Option Nat)
    (limit : Instant) :
    ({ session with system := session.system.runUntil done own limit } : Session).HasQueue :=
  (System.lasting_bound session.queue).runUntil own limit has

theorem HasQueue.settled (has : session.HasQueue) :
    ({ session with system := session.system.settle } : Session).HasQueue :=
  (System.lasting_bound session.queue).settleUntil has

theorem HasQueue.drop (has : session.HasQueue) (id : Nat) (current : Option Message)
    (listener : Option Nat) :
    ({ session with system := session.system.drop id, current, listener } : Session).HasQueue :=
  has

theorem HasQueue.join (has : session.HasQueue) (id : Nat) : (session.join id).HasQueue :=
  (has.runUntil (·.isFinished id) none _).drop id session.current none

theorem HasQueue.received (has : session.HasQueue) (timeout : Duration) (current : Option Message) :
    ({ session with system := (session.system.receive session.queue timeout).2, current } :
      Session).HasQueue := by
  let call := Reception.start timeout session.system.clock
  let id := session.system.spawned
  have began := has.spawnFirst (.receive call)
  exact (began.runUntil (·.isFinished id) (some id) call.deadline).drop id current session.listener

theorem received_fst (session : Session) (result : Option Message × System) :
    (session.received result).1 =
      { session with system := result.2, current := result.1.or session.current } := by
  obtain ⟨found, system⟩ := result
  cases found <;> rfl

theorem HasQueue.settle (has : session.HasQueue) (change : Message → Queue → Instant → Queue) :
    (session.settle change).1.HasQueue := by
  unfold Session.settle
  split
  · exact has
  · exact has.modifyQueue _

theorem HasQueue.perform (has : session.HasQueue) (command : Command) :
    (session.perform command).1.HasQueue := by
  cases command with
  | help | leave | count | stats | unknown => exact has
  | peek =>
      simp only [Session.perform]
      split <;> exact has
  | peekBatch count => cases count <;> exact has
  | send kind text =>
      exact (has.newMessage correlationId kind (Text.Utf8.encode text)).modifyQueue _
  | receive millis =>
      rw [Session.perform, Session.receive, Session.received_fst]
      exact has.received _ _
  | complete | abandon | deadLetter => exact has.settle _
  | renew millis =>
      simp only [Session.perform, Session.renew]
      split
      · exact has
      · exact has
      · exact has.modifyQueue _
  | clear => exact has.modifyQueue _
  | listen =>
      simp only [Session.perform, Session.listen]
      split
      · exact has
      · exact has.modifyQueue _
  | unlisten =>
      simp only [Session.perform, Session.unlisten]
      split
      · exact has
      · exact (has.modifyQueue _).join _

theorem Reached.hasQueue {configuration : Configuration} {name : String}
    (reached : Reached configuration name session) : session.HasQueue := by
  induction reached with
  | started started => exact hasQueue_start started
  | answered _ command ih =>
      exact (ih.perform command).heard.settled.heard
  | caughtUp _ now ih => exact (ih.runUntil _ _ _).heard

end Session

theorem Command.ofLine_send {line : String} {kind text : List Char}
    (typed : Text.Backspace.apply line.toList = "send ".toList ++ kind ++ ' ' :: text)
    (word : Text.IsWord kind) :
    Command.ofLine line =
      .send (String.ofList kind) (String.ofList (Text.joinWords (Text.words text))) := by
  have name : Text.IsWord "send".toList := by decide
  have space (rest : List Char) : ∀ c ∈ (' ' :: rest).head?, Text.isBlank c = true := by
    simp [Text.isBlank_space]
  have cut : Text.words ("send ".toList ++ kind ++ ' ' :: text) =
      "send".toList :: kind :: Text.words text := by
    have parts : "send ".toList ++ kind ++ ' ' :: text = "send".toList ++ ' ' :: (kind ++ ' ' :: text) := by
      simp
    rw [parts, Text.words_append name (space _), Text.words_blank Text.isBlank_space,
      Text.words_append word (space _), Text.words_blank Text.isBlank_space]
  rw [Command.ofLine, typed, cut]
  rfl

theorem Session.theQueue_modifyQueue {session : Session} (has : session.HasQueue)
    (change : Queue → Queue) :
    (session.modifyQueue change).theQueue = change session.theQueue := by
  have held : session.system.queue? session.queue = some session.theQueue := by
    rw [theQueue, System.queue, System.queue?, List.getElem?_eq_getElem has]
    rfl
  rw [theQueue, Session.modifyQueue, System.queue, System.modifyQueue_queue?, if_pos rfl, held]
  rfl

theorem Session.send_store {session : Session} (has : session.HasQueue) (kind text : String) :
    (session.send kind text).1.theQueue.store =
      session.theQueue.store.push
        { id := session.system.freshId
          correlationId := correlationId
          kind
          payload := Text.Utf8.encode text
          sentAt := some session.system.clock } :=
  congrArg Queue.store
    (theQueue_modifyQueue (has.newMessage correlationId kind (Text.Utf8.encode text)) _)

/-- What the shell sends for a line: the message has the type that was typed, and for its payload the
words of the text with one space between each two, which are the text exactly if it was spaced so. -/
theorem sends_text_respaced {configuration : Configuration} {name : String} {session : Session}
    (reached : Session.Reached configuration name session) {line : String} {kind text : List Char}
    (typed : Text.Backspace.apply line.toList = "send ".toList ++ kind ++ ' ' :: text)
    (word : Text.IsWord kind) (trimmed : Text.Trimmed text) :
    ∃ kept, Text.Respaced text kept ∧
      let message : Message :=
        { id := session.system.freshId
          correlationId := Session.correlationId
          kind := String.ofList kind
          payload := Text.Utf8.encode (String.ofList kept)
          sentAt := some session.system.clock }
      let performed := session.perform (Command.ofLine line)
      performed.2 = "> sent\n" ∧
      performed.1.theQueue.store = session.theQueue.store.push message ∧
      (message.payload = Text.Utf8.encode (String.ofList text) ↔ Text.SinglySpaced text) ∧
      ∀ token, (message.withToken token).document? = Json.Node.read? (kept.map Text.Piece.char) := by
  have respaced := Text.respaced_iff.mpr (Eq.refl (Text.joinWords (Text.words text)))
  refine ⟨_, respaced, ?_⟩
  rw [Command.ofLine_send typed word]
  refine ⟨rfl, Session.send_store reached.hasQueue _ _, ?_, fun token => ?_⟩
  · rw [Text.Utf8.encode_inj, String.ofList_inj, respaced.eq_iff trimmed]
  · rw [Message.document?, Message.withToken, Text.Utf8.pieces_encode, Text.Piece.ofString,
      String.toList_ofList]

def Session.begun : Session where
  system := { queues := [(Queue.ofSettings "default" {}).openUp] }
  queue := 0

theorem Session.reached_begun : Session.Reached {} "default" Session.begun := by
  have started : Session.start {} "default" {} = .ok Session.begun := rfl
  exact .started started

def gapped : String := "send note \"a  b\""

theorem apply_gapped :
    Text.Backspace.apply gapped.toList =
      "send ".toList ++ "note".toList ++ ' ' :: "\"a  b\"".toList :=
  Text.Backspace.apply_of_not_mem _ (by decide)

theorem sends_text_respaced_gapped :
    Session.Reached {} "default" .begun ∧ Text.IsWord "note".toList ∧
    Text.Trimmed "\"a  b\"".toList ∧ ¬ Text.SinglySpaced "\"a  b\"".toList ∧
    (Session.begun.perform (Command.ofLine gapped)).1.theQueue.store.pending =
      [{ id := ⟨0⟩
         correlationId := "shell"
         kind := "note"
         payload := Text.Utf8.encode "\"a b\""
         sentAt := some .origin }] := by
  have word : Text.IsWord "note".toList := by decide
  have trimmed : Text.Trimmed "\"a  b\"".toList := by decide
  obtain ⟨kept, respaced, -, sent, same, -⟩ :=
    sends_text_respaced Session.reached_begun apply_gapped word trimmed
  have text : kept = "\"a b\"".toList := (Text.respaced_iff.mp respaced).trans (by decide)
  subst text
  refine ⟨Session.reached_begun, word, trimmed, ?_, ?_⟩
  · rw [← same]
    decide
  · exact congrArg Store.pending sent

/-- The text arrives with one space for two. -/
theorem gap_is_lost :
    Session.Reached {} "default" .begun ∧
    Text.Backspace.apply gapped.toList =
      "send ".toList ++ "note".toList ++ ' ' :: "\"a  b\"".toList ∧
    Text.IsWord "note".toList ∧ Text.Trimmed "\"a  b\"".toList ∧
    (Session.begun.perform (Command.ofLine gapped)).1.theQueue.store.pending.map Message.payload ≠
      Session.begun.theQueue.store.pending.map Message.payload ++ [Text.Utf8.encode "\"a  b\""] := by
  have word : Text.IsWord "note".toList := by decide
  refine ⟨Session.reached_begun, apply_gapped, word, by decide, ?_⟩
  rw [Command.ofLine_send apply_gapped word]
  decide

end Shell

end LeaseQueue
