import LeaseQueue.Proofs.Tokens
import Mathlib.Data.List.Nodup

/-!
Every token that was issued is either the key of a lease or was taken out of the table, once. A copy
of a message with a token that was taken out has no effect on the queue any more.
-/

namespace LeaseQueue

def Deed.removed : Deed → List Token
  | .returned lease _ => [lease.token]
  | .ended lease _ => [lease.token]
  | .cleared _ leases => leases.map Lease.token
  | .sent _ | .granted _ _ _ | .renewed _ _ => []

namespace Chronicle

def removed (chronicle : Chronicle) : List Token :=
  chronicle.flatMap fun entry => entry.2.removed

def issued (chronicle : Chronicle) : List Token :=
  (List.range chronicle.delivered.length).map Token.nth

theorem removed_concat (past : Chronicle) (now : Instant) (deed : Deed) :
    (past ++ [(now, deed)]).removed = past.removed ++ deed.removed := by
  simp [removed]

theorem issued_granted (past : Chronicle) (now : Instant) (message : Message) (timeout : Duration)
    (displaced : Option Lease) :
    Chronicle.issued (past ++ [(now, .granted message timeout displaced)]) =
      past.issued ++ [Token.nth past.delivered.length] := by
  rw [issued, delivered_append, List.length_append]
  exact (congrArg (List.map Token.nth) List.range_succ).trans List.map_append

theorem issued_nodup {chronicle : Chronicle} (short : chronicle.delivered.length ≤ UInt64.size) :
    chronicle.issued.Nodup := by
  refine List.Nodup.map_on ?_ List.nodup_range
  intro first firstIn second secondIn same
  rw [List.mem_range] at firstIn secondIn
  rw [← Token.nth_toNat (show first < UInt64.size by omega), same, Token.nth_toNat (by omega)]

end Chronicle

theorem Store.tokens_perm {store : Store} (keyed : store.tokens.Nodup) {lease : Lease}
    (found : store.lease? lease.token = some lease) :
    (lease.token :: (store.withoutLease lease.token).tokens).Perm store.tokens := by
  rw [withoutLease_tokens, ← keyed.erase_eq_filter]
  exact (List.perm_cons_erase (mem_tokens found)).symm

namespace Recorded

variable {policy : RenewPolicy} {chronicle : Chronicle} {store : Store}

theorem removed_append_tokens_perm (recorded : Recorded policy chronicle store)
    (short : chronicle.delivered.length ≤ UInt64.size) :
    (chronicle.removed ++ store.tokens).Perm chronicle.issued := by
  induction recorded with
  | empty => exact List.Perm.nil
  | @next past store next now deed before step ih =>
      rw [Chronicle.removed_concat]
      rw [Chronicle.delivered_append, List.length_append] at short
      have known := ih (by omega)
      have removal {lease : Lease} (found : store.lease? lease.token = some lease) :
          (past.removed ++ [lease.token] ++ (store.withoutLease lease.token).tokens).Perm
            past.issued := by
        rw [List.append_assoc]
        exact ((Store.tokens_perm before.keyed found).append_left past.removed).trans known
      have sameIssued (quiet : Chronicle.delivered [(now, deed)] = []) :
          Chronicle.issued (past ++ [(now, deed)]) = past.issued := by
        rw [Chronicle.issued, Chronicle.delivered_append, quiet, List.append_nil]
        rfl
      cases step with
      | sent | renewed | missed =>
          rw [sameIssued rfl]
          simpa [Deed.removed] using known
      | granted timeout head =>
          change past.delivered.length + 1 ≤ UInt64.size at short
          rw [Chronicle.issued_granted, ← before.nextToken_eq,
            Store.withGranted_tokens_of_fresh (before.nextToken_fresh (by omega)), Deed.removed,
            List.append_nil, ← List.append_assoc]
          exact known.append_right _
      | returned found running =>
          rw [sameIssued rfl, Store.push_tokens]
          exact removal found
      | ended found overdue =>
          rw [sameIssued rfl]
          exact removal found
      | cleared =>
          rw [sameIssued rfl, Store.clear_tokens, List.append_nil]
          exact known

theorem not_displaced {now : Instant} {message : Message} {timeout : Duration}
    {displaced : Option Lease} {earlier later : Chronicle}
    (recorded : Recorded policy (earlier ++ (now, .granted message timeout displaced) :: later) store)
    (short : earlier.delivered.length < UInt64.size) : displaced = none := by
  obtain ⟨before, after, recordedBefore, step, _⟩ := recorded.split
  cases step with
  | granted timeout head => exact Store.lease?_eq_none_iff.mpr (recordedBefore.nextToken_fresh short)

end Recorded

namespace Queue

variable {queue : Queue} {message : Message} {token : Token}

theorem leaseOf?_stale (named : message.token = some token) (gone : token ∉ queue.store.tokens) :
    queue.leaseOf? message = none := by
  rw [leaseOf?_of_token named]
  exact Store.lease?_eq_none_iff.mpr gone

theorem stale_calls (named : message.token = some token) (gone : token ∉ queue.store.tokens)
    (timeout : Duration) (now : Instant) :
    queue.complete message = (message.withoutToken, queue) ∧
      queue.deadLetter message = (message.withoutToken, queue) ∧
      queue.abandon message now = (message, queue) ∧
      queue.renew message timeout now = queue :=
  calls_of_none (leaseOf?_stale named gone) timeout now

end Queue

/-- In every run of less than `2 ^ 64` receives no lease is put in the place of another, each token in
the table comes before the next one to be issued, and every token that was issued is in the table or
was taken out by exactly one deed. The counters count the deeds. Once a token was taken out, no call
on any copy of its message, at any time, changes the queue. -/
theorem token_removed_once (run : Run) (short : run.chronicle.delivered.length < UInt64.size) :
    (∀ time message timeout displaced,
      (time, Deed.granted message timeout displaced) ∈ run.chronicle → displaced = none) ∧
    (∀ lease ∈ run.queue.store.leases,
      lease.token.number.toNat < run.queue.store.nextToken.number.toNat) ∧
    (run.chronicle.removed ++ run.queue.store.tokens).Perm run.chronicle.issued ∧
    (run.chronicle.removed ++ run.queue.store.tokens).Nodup ∧
    run.queue.counters = run.chronicle.tally {} ∧
    ∀ token ∈ run.chronicle.removed, ∀ message : Message, message.token = some token →
      ∀ timeout now,
        run.queue.complete message = (message.withoutToken, run.queue) ∧
        run.queue.deadLetter message = (message.withoutToken, run.queue) ∧
        run.queue.abandon message now = (message, run.queue) ∧
        run.queue.renew message timeout now = run.queue := by
  have recorded := run.recorded
  have account := recorded.removed_append_tokens_perm (Nat.le_of_lt short)
  have distinct := account.nodup_iff.mpr (Chronicle.issued_nodup (Nat.le_of_lt short))
  refine ⟨?_, ?_, account, distinct, run.counters_eq, ?_⟩
  · intro time message timeout displaced member
    obtain ⟨earlier, later, split⟩ := List.append_of_mem member
    rw [split] at recorded short
    refine recorded.not_displaced ?_
    rw [Chronicle.delivered_append, List.length_append] at short
    omega
  · intro lease member
    rw [recorded.nextToken_eq, Token.nth_toNat short]
    exact recorded.token_lt (Nat.le_of_lt short) _ (List.mem_map_of_mem member)
  · intro token taken message named timeout now
    have gone : token ∉ run.queue.store.tokens :=
      fun held => (List.nodup_append.mp distinct).2.2 token taken token held rfl
    exact Queue.stale_calls named gone timeout now

def Run.settling : Run where
  system := {}
  name := "orders"
  settings := {}
  events :=
    let message : Message := { id := ⟨1⟩, correlationId := "c", kind := "job", payload := [1] }
    [.call 0 (.send message), .call 0 (.send { message with id := ⟨2⟩ }),
      .call 0 (.take (.ofMillis 50)), .call 0 (.complete (message.withToken ⟨0⟩)),
      .call 0 (.take (.ofMillis 50)), .call 0 .clear, .call 0 (.send { message with id := ⟨3⟩ })]

theorem token_removed_once_settling :
    Run.settling.chronicle.delivered.length < UInt64.size ∧
      Run.settling.chronicle.removed = [⟨0⟩, ⟨1⟩] ∧
      ∀ message : Message, message.token = some ⟨1⟩ → ∀ now,
        Run.settling.queue.abandon message now = (message, Run.settling.queue) := by
  have short : Run.settling.chronicle.delivered.length < UInt64.size := by decide
  have removed : Run.settling.chronicle.removed = [⟨0⟩, ⟨1⟩] := by decide
  obtain ⟨_, _, _, _, _, stale⟩ := token_removed_once Run.settling short
  refine ⟨short, removed, fun message named now => ?_⟩
  have taken : (⟨1⟩ : Token) ∈ Run.settling.chronicle.removed := by
    rw [removed]
    decide
  exact (stale ⟨1⟩ taken message named (.ofMillis 50) now).2.2.1

end LeaseQueue
