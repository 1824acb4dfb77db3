import LeaseQueue.Proofs.Tokens

/-!
A queue is a line: messages are received in the order in which they were appended, whether by a send
or by a return, and nothing but a clear takes others out.
-/

namespace LeaseQueue

namespace Chronicle

/-- The line after one more deed. A clear takes out as many messages as were pending, from the end. -/
def lineAfter (line : List Message) : Deed → List Message
  | .sent message => line ++ [message]
  | .returned _ message => line ++ [message]
  | .cleared pending _ => line.take (line.length - pending.length)
  | .granted _ _ _ | .renewed _ _ | .ended _ _ => line

def line (chronicle : Chronicle) : List Message :=
  chronicle.foldl (fun line entry => lineAfter line entry.2) []

theorem line_concat (past : Chronicle) (now : Instant) (deed : Deed) :
    (past ++ [(now, deed)]).line = lineAfter past.line deed := by
  simp [line, List.foldl_append]

end Chronicle

/-- Where a line is divided: the messages in front were received, the others are pending. -/
structure Divided (chronicle : Chronicle) (store : Store) (front : List Message) : Prop where
  line_eq : chronicle.line = front ++ store.pending
  delivered_eq :
    chronicle.delivered = front.mapIdx fun number message => message.withToken (Token.nth number)

namespace Divided

variable {chronicle : Chronicle} {store : Store} {front : List Message}

theorem length_eq (divided : Divided chronicle store front) :
    chronicle.delivered.length = front.length := by
  rw [divided.delivered_eq, List.length_mapIdx]

theorem drop_eq (divided : Divided chronicle store front) :
    chronicle.line.drop front.length = store.pending := by
  rw [divided.line_eq, List.drop_left]

end Divided

namespace Recorded

variable {policy : RenewPolicy} {chronicle : Chronicle} {store : Store}

theorem divided (recorded : Recorded policy chronicle store) :
    ∃ front, Divided chronicle store front := by
  induction recorded with
  | empty => exact ⟨[], rfl, rfl⟩
  | @next past store next now deed before step ih =>
      obtain ⟨front, divided⟩ := ih
      have line := Chronicle.line_concat past now deed
      have delivered := Chronicle.delivered_append past [(now, deed)]
      rw [divided.line_eq] at line
      cases step with
      | sent | returned =>
          refine ⟨front, line.trans (List.append_assoc _ _ _), ?_⟩
          exact delivered.trans ((List.append_nil _).trans divided.delivered_eq)
      | @granted first rest timeout head =>
          refine ⟨front ++ [first], ?_, ?_⟩
          · rw [line, head]
            simp [Chronicle.lineAfter]
          · rw [delivered, List.mapIdx_concat, ← divided.delivered_eq, before.nextToken_eq,
              divided.length_eq]
            rfl
      | renewed | missed | ended =>
          exact ⟨front, line, delivered.trans ((List.append_nil _).trans divided.delivered_eq)⟩
      | cleared =>
          refine ⟨front, ?_, delivered.trans ((List.append_nil _).trans divided.delivered_eq)⟩
          rw [line]
          simp [Chronicle.lineAfter]

theorem line_before_clear {earlier later : Chronicle} {now : Instant} {pending : List Message}
    {leases : List Lease}
    (recorded : Recorded policy (earlier ++ (now, .cleared pending leases) :: later) store) :
    earlier.line = (earlier ++ [(now, Deed.cleared pending leases)]).line ++ pending := by
  obtain ⟨before, after, recordedBefore, step, _⟩ := recorded.split
  obtain ⟨front, divided⟩ := recordedBefore.divided
  rw [Chronicle.line_concat, divided.line_eq]
  cases step with
  | cleared => simp [Chronicle.lineAfter]

theorem sentAt_of_mem_line (recorded : Recorded policy chronicle store) :
    ∀ message ∈ chronicle.line, message.sentAt.isSome = true := by
  induction recorded with
  | empty => simp [Chronicle.line]
  | @next past store next now deed _ step dated =>
      intro message member
      rw [Chronicle.line_concat] at member
      cases step with
      | sent added =>
          rcases List.mem_append.mp member with old | new
          · exact dated message old
          · rw [List.mem_singleton.mp new]
            rfl
      | returned =>
          rcases List.mem_append.mp member with old | new
          · exact dated message old
          · rw [List.mem_singleton.mp new]
            rfl
      | granted | renewed | missed | ended => exact dated message member
      | cleared => exact dated message (List.mem_of_mem_take member)

theorem lease_delivered (recorded : Recorded policy chronicle store) :
    ∀ message ∈ store.leases.map Lease.message, message ∈ chronicle.delivered := by
  induction recorded with
  | empty => simp
  | @next past store next now deed _ step known =>
      intro message member
      rw [Chronicle.delivered_append, List.mem_append]
      have kept (token : Token) (left : message ∈ (store.withoutLease token).leases.map Lease.message) :
          message ∈ past.delivered :=
        known message ((List.filter_sublist.map Lease.message).subset left)
      cases step with
      | sent | missed => exact Or.inl (known message member)
      | granted timeout head =>
          rw [Store.withGranted_leases, List.map_append, List.mem_append] at member
          rcases member with old | new
          · exact Or.inl (kept _ old)
          · exact Or.inr new
      | renewed timeout found =>
          rw [Store.withRenewed_map] at member
          · exact Or.inl (known message member)
          · exact fun _ _ => rfl
      | returned | ended => exact Or.inl (kept _ member)
      | cleared => simp at member

theorem returned_message {earlier later : Chronicle} {now : Instant} {lease : Lease}
    {message : Message}
    (recorded : Recorded policy (earlier ++ (now, .returned lease message) :: later) store) :
    message = lease.message.withoutToken.stamped now ∧ lease.message ∈ earlier.delivered := by
  obtain ⟨before, after, recordedBefore, step, _⟩ := recorded.split
  cases step with
  | returned found running =>
      refine ⟨rfl, recordedBefore.lease_delivered _ ?_⟩
      exact List.mem_map_of_mem (Store.lease?_eq_some found).1

end Recorded

/-- In every run the line is what was received, in the order of the receives, and then what is
pending. The receive of each number carries the token of that number and changes nothing else of the
message; what is peeked at is the line itself. A clear takes out of the line exactly what was pending,
a return appends the message of the lease as it was received, and each call returns the message that
the chronicle says was granted. -/
theorem line_is_delivered_then_pending (run : Run) :
    ∃ front, run.chronicle.line = front ++ run.queue.store.pending ∧
      run.chronicle.delivered =
        front.mapIdx (fun number message => message.withToken (Token.nth number)) ∧
      (∀ number < UInt64.size, (Token.nth number).number.toNat = number) ∧
      (∀ message ∈ run.chronicle.line, message.sentAt.isSome = true) ∧
      run.queue.peek = run.chronicle.line[front.length]? ∧
      (∀ count, run.queue.peekBatch count <+: run.chronicle.line.drop front.length) ∧
      (∀ (earlier later : Chronicle) now pending leases,
        run.chronicle = earlier ++ (now, .cleared pending leases) :: later →
        earlier.line = (earlier ++ [(now, Deed.cleared pending leases)]).line ++ pending) ∧
      (∀ (earlier later : Chronicle) now lease message,
        run.chronicle = earlier ++ (now, .returned lease message) :: later →
        message = lease.message.withoutToken.stamped now ∧
          lease.message ∈ earlier.delivered) ∧
      ∀ (call : Reception) (message : Message), call.isFinished = false →
        (call.step run.queue run.now).1.message? = some message →
        call.operations = [.take call.timeout] ∧
          ∃ displaced, (Operation.take call.timeout).deed? run.queue run.now =
            some (.granted message call.timeout displaced) := by
  obtain ⟨front, divided⟩ := run.recorded.divided
  refine ⟨front, divided.line_eq, divided.delivered_eq, fun _ => Token.nth_toNat,
    run.recorded.sentAt_of_mem_line, ?_, ?_, ?_, ?_, ?_⟩
  · rw [divided.line_eq, List.getElem?_append_right (Nat.le_refl _), Nat.sub_self]
    exact List.head?_eq_getElem?
  · intro count
    rw [divided.drop_eq]
    exact List.take_prefix _ _
  · intro earlier later now pending leases split
    have recorded := run.recorded
    rw [split] at recorded
    exact recorded.line_before_clear
  · intro earlier later now lease message split
    have recorded := run.recorded
    rw [split] at recorded
    exact recorded.returned_message
  · intro call message waiting returned
    obtain ⟨operations, deed⟩ := Reception.step_returns waiting returned
    exact ⟨operations, _, deed⟩

end LeaseQueue
