import LeaseQueue.Proofs.Rounds
import LeaseQueue.Proofs.Settlement
import Mathlib.Data.List.Induction

/-!
What the counters of a queue say of its store. Each message that was appended has been received, is
pending or was dropped by a clear. Each lease that was granted has been settled or returned, was found
lapsed, was dropped by a clear or displaced, or is still there.
-/

namespace LeaseQueue

/-- Exact counts of the deeds done to a queue. The last four have no counter. -/
structure Ledger where
  sent : Nat := 0
  received : Nat := 0
  completed : Nat := 0
  abandoned : Nat := 0
  deadLettered : Nat := 0
  lapsed : Nat := 0
  clearedMessages : Nat := 0
  clearedLeases : Nat := 0
  displaced : Nat := 0
deriving DecidableEq

namespace Ledger

def enter (ledger : Ledger) : Deed → Ledger
  | .sent _ => { ledger with sent := ledger.sent + 1 }
  | .granted _ _ displaced =>
    { ledger with
      received := ledger.received + 1
      displaced := ledger.displaced + displaced.toList.length }
  | .renewed _ _ => ledger
  | .returned _ _ => { ledger with sent := ledger.sent + 1, abandoned := ledger.abandoned + 1 }
  | .ended _ .completed => { ledger with completed := ledger.completed + 1 }
  | .ended _ .deadLettered => { ledger with deadLettered := ledger.deadLettered + 1 }
  | .ended _ .lapsed => { ledger with lapsed := ledger.lapsed + 1 }
  | .cleared pending leases =>
    { ledger with
      clearedMessages := ledger.clearedMessages + pending.length
      clearedLeases := ledger.clearedLeases + leases.length }

def counters (ledger : Ledger) : Counters :=
  { sent := .ofNat ledger.sent
    received := .ofNat ledger.received
    completed := .ofNat ledger.completed
    abandoned := .ofNat ledger.abandoned
    deadLettered := .ofNat ledger.deadLettered }

theorem counters_enter (ledger : Ledger) (deed : Deed) :
    (ledger.enter deed).counters = deed.count ledger.counters := by
  cases deed with
  | ended lease ending =>
      cases ending <;> simp [enter, counters, Deed.count, Counters.countCompleted,
        Counters.countDeadLettered, UInt64.ofNat_add]
  | sent | granted | renewed | returned | cleared =>
      simp [enter, counters, Deed.count, Counters.countSent, Counters.countReceived,
        Counters.countAbandoned, UInt64.ofNat_add]

end Ledger

namespace Chronicle

def ledger (chronicle : Chronicle) : Ledger :=
  chronicle.foldl (fun ledger entry => ledger.enter entry.2) {}

theorem ledger_concat (past : Chronicle) (now : Instant) (deed : Deed) :
    (past ++ [(now, deed)]).ledger = past.ledger.enter deed := by
  simp [ledger, List.foldl_append]

theorem tally_eq_counters (chronicle : Chronicle) :
    chronicle.tally {} = chronicle.ledger.counters := by
  induction chronicle using List.reverseRecOn with
  | nil => rfl
  | append_singleton past entry ih =>
      obtain ⟨now, deed⟩ := entry
      rw [ledger_concat, Ledger.counters_enter, ← ih, tally, List.foldl_append]
      rfl

end Chronicle

theorem Store.length_withoutLease {store : Store} (keyed : store.tokens.Nodup) (token : Token) :
    (store.withoutLease token).leases.length + (store.lease? token).toList.length =
      store.leases.length := by
  have counted (other : Store) : other.leases.length = other.tokens.length := by
    rw [tokens, List.length_map]
  rw [counted, counted]
  cases found : store.lease? token with
  | none =>
      have absent := lease?_eq_none_iff.mp found
      have kept : store.tokens.filter (fun other => other != token) = store.tokens := by
        rw [List.filter_eq_self]
        intro other member
        simp only [bne_iff_ne, ne_eq]
        rintro rfl
        exact absent member
      rw [withoutLease_tokens, kept]
      rfl
  | some lease =>
      obtain rfl := (lease?_eq_some found).2
      have account := (tokens_perm keyed found).length_eq
      rw [List.length_cons] at account
      exact account

structure Ledger.Balances (ledger : Ledger) (store : Store) : Prop where
  messages : ledger.sent = ledger.received + store.pending.length + ledger.clearedMessages
  leases : ledger.received =
    ledger.completed + ledger.abandoned + ledger.deadLettered + store.leases.length +
      ledger.clearedLeases + ledger.lapsed + ledger.displaced

namespace Recorded

variable {policy : RenewPolicy} {chronicle : Chronicle} {store : Store}

theorem balances (recorded : Recorded policy chronicle store) : chronicle.ledger.Balances store := by
  induction recorded with
  | empty => exact ⟨rfl, rfl⟩
  | @next past store next now deed before step ih =>
      obtain ⟨messages, leases⟩ := ih
      have removal {lease : Lease} (found : store.lease? lease.token = some lease) :
          (store.withoutLease lease.token).leases.length + 1 = store.leases.length := by
        have account := Store.length_withoutLease before.keyed lease.token
        rw [found] at account
        exact account
      rw [Chronicle.ledger_concat]
      cases step with
      | sent message =>
          constructor
          · simp only [Ledger.enter, Store.push_pending, List.length_append, List.length_singleton]
            omega
          · simpa [Ledger.enter] using leases
      | granted timeout head =>
          have account := Store.length_withoutLease before.keyed store.nextToken
          rw [head, List.length_cons] at messages
          constructor
          · simp only [Ledger.enter, Store.withGranted_pending]
            omega
          · simp only [Ledger.enter, Store.withGranted_leases, List.length_append,
              List.length_singleton]
            omega
      | renewed timeout found =>
          constructor
          · exact messages
          · simpa [Ledger.enter, Store.withRenewed] using leases
      | missed timeout missing => exact ⟨messages, leases⟩
      | returned found running =>
          have account := removal found
          constructor
          · simp only [Ledger.enter, Store.push_pending, Store.withoutLease_pending,
              List.length_append, List.length_singleton]
            omega
          · simp only [Ledger.enter, Store.push_leases]
            omega
      | @ended lease ending found overdue =>
          have account := removal found
          constructor
          · cases ending <;> exact messages
          · cases ending <;> simp only [Ledger.enter] <;> omega
      | cleared =>
          constructor
          · simp only [Ledger.enter, Store.clear_pending, List.length_nil]
            omega
          · simp only [Ledger.enter, Store.clear_leases, List.length_nil]
            omega

theorem displaced_eq_zero (recorded : Recorded policy chronicle store)
    (short : chronicle.delivered.length ≤ UInt64.size) : chronicle.ledger.displaced = 0 := by
  induction recorded with
  | empty => rfl
  | @next past store next now deed before step ih =>
      rw [Chronicle.delivered_append, List.length_append] at short
      have none : past.ledger.displaced = 0 := ih (by omega)
      rw [Chronicle.ledger_concat]
      cases step with
      | granted timeout head =>
          change past.delivered.length + 1 ≤ UInt64.size at short
          have fresh := Store.lease?_eq_none_iff.mpr (before.nextToken_fresh (by omega))
          simp [Ledger.enter, none, fresh]
      | @ended lease ending => cases ending <;> exact none
      | sent | renewed | missed | returned | cleared => exact none

end Recorded

/-- Whether a deed takes something out of the store that no counter tells of. -/
def Deed.drops : Deed → Bool
  | .cleared _ _ | .ended _ .lapsed => true
  | .ended _ .completed | .ended _ .deadLettered => false
  | .sent _ | .granted _ _ _ | .renewed _ _ | .returned _ _ => false

theorem Chronicle.ledger_of_kept {chronicle : Chronicle}
    (kept : ∀ entry ∈ chronicle, entry.2.drops = false) :
    chronicle.ledger.clearedMessages = 0 ∧ chronicle.ledger.clearedLeases = 0 ∧
      chronicle.ledger.lapsed = 0 := by
  induction chronicle using List.reverseRecOn with
  | nil => exact ⟨rfl, rfl, rfl⟩
  | append_singleton past entry ih =>
      obtain ⟨now, deed⟩ := entry
      have before := ih fun other member => kept other (List.mem_append_left _ member)
      have last : deed.drops = false := kept (now, deed) (by simp)
      rw [ledger_concat]
      cases deed with
      | cleared => simp [Deed.drops] at last
      | ended lease ending =>
          cases ending with
          | lapsed => simp [Deed.drops] at last
          | completed | deadLettered => exact before
      | sent | granted | renewed | returned => exact before

/-- In every run the counters balance, modulo `2 ^ 64`. What was sent has been received, is pending or
was cleared away. What was received has been completed, abandoned or dead-lettered, is leased, was
cleared away or was found lapsed by an abandon; up to `2 ^ 64` receives nothing was displaced. So as
long as there is no clear and no abandon comes late, the counters tell what is pending and leased. -/
theorem counters_balance (run : Run) :
    let counters := run.queue.counters
    let ledger := run.chronicle.ledger
    counters.sent =
      counters.received + .ofNat run.queue.pendingCount + .ofNat ledger.clearedMessages ∧
    counters.received =
      counters.completed + counters.abandoned + counters.deadLettered +
        .ofNat run.queue.lockedCount + .ofNat ledger.clearedLeases + .ofNat ledger.lapsed +
        .ofNat ledger.displaced ∧
    (run.chronicle.delivered.length ≤ UInt64.size → ledger.displaced = 0) ∧
    ((∀ entry ∈ run.chronicle, entry.2.drops = false) →
      run.chronicle.delivered.length ≤ UInt64.size →
      run.queue.pendingCount % UInt64.size = (counters.sent - counters.received).toNat ∧
      run.queue.lockedCount % UInt64.size =
        (counters.received - counters.completed - counters.abandoned -
          counters.deadLettered).toNat) := by
  intro counters ledger
  have counted : counters = ledger.counters := by
    rw [← Chronicle.tally_eq_counters, ← run.counters_eq]
  obtain ⟨messages, leases⟩ := run.recorded.balances
  have sent : counters.sent =
      counters.received + .ofNat run.queue.pendingCount + .ofNat ledger.clearedMessages := by
    rw [counted]
    simp only [Ledger.counters, ← UInt64.ofNat_add]
    exact congrArg UInt64.ofNat messages
  have received : counters.received =
      counters.completed + counters.abandoned + counters.deadLettered +
        .ofNat run.queue.lockedCount + .ofNat ledger.clearedLeases + .ofNat ledger.lapsed +
        .ofNat ledger.displaced := by
    rw [counted]
    simp only [Ledger.counters, ← UInt64.ofNat_add]
    exact congrArg UInt64.ofNat leases
  refine ⟨sent, received, run.recorded.displaced_eq_zero, ?_⟩
  intro kept short
  obtain ⟨noMessages, noLeases, noneLapsed⟩ := Chronicle.ledger_of_kept kept
  have noneDisplaced : ledger.displaced = 0 := run.recorded.displaced_eq_zero short
  rw [show ledger.clearedMessages = 0 from noMessages] at sent
  rw [show ledger.clearedLeases = 0 from noLeases, show ledger.lapsed = 0 from noneLapsed,
    noneDisplaced] at received
  constructor
  · have pending : counters.sent - counters.received = .ofNat run.queue.pendingCount := by
      rw [sent]
      grind
    rw [pending]
    exact (UInt64.toNat_ofNat' ..).symm
  · have locked : counters.received - counters.completed - counters.abandoned -
        counters.deadLettered = .ofNat run.queue.lockedCount := by
      rw [received]
      grind
    rw [locked]
    exact (UInt64.toNat_ofNat' ..).symm

def Run.counting : Run where
  system := {}
  name := "orders"
  settings := {}
  events :=
    let message : Message := { id := ⟨1⟩, correlationId := "c", kind := "job", payload := [1] }
    [.call 0 (.send message), .call 0 (.send { message with id := ⟨2⟩ }),
      .call 0 (.send { message with id := ⟨3⟩ }), .call 0 (.take (.ofMillis 50)),
      .call 0 (.take (.ofMillis 50)), .call 0 (.take (.ofMillis 50)),
      .call 0 (.complete (message.withToken ⟨0⟩)), .call 0 (.complete (message.withToken ⟨0⟩)),
      .call 0 (.abandon (message.withToken ⟨1⟩))]

theorem counters_balance_counting :
    (∀ entry ∈ Run.counting.chronicle, entry.2.drops = false) ∧
      Run.counting.chronicle.delivered.length ≤ UInt64.size ∧
      Run.counting.queue.pendingCount = 1 ∧ Run.counting.queue.lockedCount = 1 ∧
      (Run.counting.queue.counters.sent - Run.counting.queue.counters.received).toNat = 1 := by
  have kept : ∀ entry ∈ Run.counting.chronicle, entry.2.drops = false := by decide
  have short : Run.counting.chronicle.delivered.length ≤ UInt64.size := by decide
  have pending : Run.counting.queue.pendingCount = 1 := by decide
  obtain ⟨_, _, _, determined⟩ := counters_balance Run.counting
  obtain ⟨told, _⟩ := determined kept short
  refine ⟨kept, short, pending, by decide, ?_⟩
  rw [← told, pending]
  rfl

theorem Run.lapping_drops {rounds : Nat} (short : rounds < UInt64.size) :
    ∀ entry ∈ (Run.lapping rounds).chronicle, entry.2.drops = false := by
  intro entry member
  rcases Run.lapping_deeds short entry member with ⟨_, same⟩ | ⟨_, _, _, same⟩ | ⟨_, _, same⟩
  all_goals
    rw [same]
    rfl

/-- After `2 ^ 64 + 1` receives, with no clear and no late abandon, the counters do not account for all
leases, and do not tell how many there are. -/
theorem lease_is_unaccounted :
    let run := Run.lapping (UInt64.size - 1)
    let counters := run.queue.counters
    let ledger := run.chronicle.ledger
    (∀ entry ∈ run.chronicle, entry.2.drops = false) ∧
      counters.received ≠
        counters.completed + counters.abandoned + counters.deadLettered +
          .ofNat run.queue.lockedCount + .ofNat ledger.clearedLeases + .ofNat ledger.lapsed ∧
      run.queue.lockedCount % UInt64.size ≠
        (counters.received - counters.completed - counters.abandoned -
          counters.deadLettered).toNat := by
  have full : UInt64.size - 1 + 1 = UInt64.size := rfl
  obtain ⟨_, leased, counted⟩ := Run.lapping_full full
  have kept := Run.lapping_drops (Nat.lt_of_succ_le (Nat.le_of_eq full))
  generalize Run.lapping (UInt64.size - 1) = run at leased counted kept
  obtain ⟨_, noLeases, noneLapsed⟩ := Chronicle.ledger_of_kept kept
  have locked : run.queue.lockedCount = 1 := by
    have length := congrArg List.length leased
    rwa [List.length_map] at length
  refine ⟨kept, ?_, ?_⟩
  · rw [counted, locked, noLeases, noneLapsed]
    decide
  · rw [counted, locked]
    decide

end LeaseQueue
