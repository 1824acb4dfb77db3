import LeaseQueue.Proofs.Run

/-!
Tokens are numbered in the order of the leases, so up to `2 ^ 64` leases no token is given out twice.
After that the numbers start again, and a new lease takes the place of one that still has its token.
-/

namespace LeaseQueue

def Chronicle.delivered (chronicle : Chronicle) : List Message :=
  chronicle.filterMap fun entry =>
    match entry.2 with
    | .granted message _ _ => some message
    | _ => none

/-- The token of the receive of a number, counted from zero. -/
def Token.nth (number : Nat) : Token := ⟨.ofNat number⟩

theorem Token.nth_next (number : Nat) : (Token.nth number).next = Token.nth (number + 1) := by
  simp [nth, next]

theorem Token.nth_toNat {number : Nat} (bound : number < UInt64.size) :
    (Token.nth number).number.toNat = number :=
  UInt64.toNat_ofNat_of_lt' bound

theorem Chronicle.delivered_append (first second : Chronicle) :
    (first ++ second).delivered = first.delivered ++ second.delivered :=
  List.filterMap_append

namespace Store

def tokens (store : Store) : List Token := store.leases.map Lease.token

theorem withRenewed_map {α : Type} (store : Store) (lease : Lease) (span : Duration) (now : Instant)
    {view : Lease → α} (blind : ∀ lease term, view { lease with term } = view lease) :
    (store.withRenewed lease span now).leases.map view = store.leases.map view := by
  simp only [withRenewed, List.map_map]
  apply List.map_congr_left
  intro other _
  simp only [Function.comp_apply]
  split
  · exact blind other _
  · rfl

@[simp] theorem withRenewed_tokens (store : Store) (lease : Lease) (span : Duration)
    (now : Instant) : (store.withRenewed lease span now).tokens = store.tokens :=
  withRenewed_map store lease span now fun _ _ => rfl

@[simp] theorem push_tokens (store : Store) (message : Message) :
    (store.push message).tokens = store.tokens := rfl

@[simp] theorem clear_tokens (store : Store) : store.clear.tokens = [] := rfl

@[simp] theorem withoutLease_tokens (store : Store) (token : Token) :
    (store.withoutLease token).tokens = store.tokens.filter fun other => other != token := by
  simp only [tokens, withoutLease, List.filter_map]
  rfl

@[simp] theorem withGranted_tokens (store : Store) (message : Message) (rest : List Message)
    (timeout : Duration) (now : Instant) :
    (store.withGranted message rest timeout now).tokens =
      (store.tokens.filter fun other => other != store.nextToken) ++ [store.nextToken] := by
  rw [tokens, withGranted_leases, List.map_append, ← withoutLease_tokens]
  rfl

theorem withGranted_tokens_of_fresh {store : Store} {message : Message} {rest : List Message}
    {timeout : Duration} {now : Instant} (fresh : store.nextToken ∉ store.tokens) :
    (store.withGranted message rest timeout now).tokens = store.tokens ++ [store.nextToken] := by
  rw [withGranted_tokens]
  congr 1
  rw [List.filter_eq_self]
  intro token member
  simp only [bne_iff_ne, ne_eq]
  rintro rfl
  exact fresh member

theorem lease?_eq_none_iff {store : Store} {token : Token} :
    store.lease? token = none ↔ token ∉ store.tokens := by
  simp [lease?, tokens]

theorem mem_tokens {store : Store} {token : Token} {lease : Lease}
    (found : store.lease? token = some lease) : token ∈ store.tokens := by
  obtain ⟨member, same⟩ := lease?_eq_some found
  exact List.mem_map.mpr ⟨lease, member, same⟩

end Store

namespace Recorded

variable {policy : RenewPolicy} {chronicle : Chronicle} {store : Store}

theorem keyed (recorded : Recorded policy chronicle store) : store.tokens.Nodup := by
  induction recorded with
  | empty => exact List.nodup_nil
  | @next past store next now deed _ step keyed =>
      cases step with
      | sent | missed => exact keyed
      | granted timeout head =>
          rw [Store.withGranted_tokens, List.nodup_append]
          refine ⟨keyed.filter _, by simp, ?_⟩
          intro token held other added
          simp only [List.mem_filter, bne_iff_ne, List.mem_singleton] at held added
          rw [added]
          exact held.2
      | renewed timeout found => simpa using keyed
      | returned =>
          rw [Store.push_tokens, Store.withoutLease_tokens]
          exact keyed.filter _
      | ended =>
          rw [Store.withoutLease_tokens]
          exact keyed.filter _
      | cleared => exact List.nodup_nil

theorem nextToken_eq (recorded : Recorded policy chronicle store) :
    store.nextToken = Token.nth chronicle.delivered.length := by
  induction recorded with
  | empty => rfl
  | @next past store next now deed _ step numbered =>
      rw [Chronicle.delivered_append, List.length_append]
      cases step with
      | granted timeout head =>
          rw [Store.withGranted_nextToken, numbered, Token.nth_next]
          rfl
      | sent | renewed | missed | returned | ended | cleared => exact numbered

theorem token_lt (recorded : Recorded policy chronicle store)
    (short : chronicle.delivered.length ≤ UInt64.size) :
    ∀ token ∈ store.tokens, token.number.toNat < chronicle.delivered.length := by
  induction recorded with
  | empty => simp [Store.tokens]
  | @next past store next now deed before step bounded =>
      rw [Chronicle.delivered_append, List.length_append] at short ⊢
      have old (token : Token) (member : token ∈ store.tokens) :
          token.number.toNat < past.delivered.length := bounded (by omega) token member
      intro token member
      cases step with
      | sent | missed => exact Nat.lt_add_right _ (old token member)
      | granted timeout head =>
          change past.delivered.length + 1 ≤ UInt64.size at short
          change _ < past.delivered.length + 1
          rw [Store.withGranted_tokens, List.mem_append, List.mem_singleton] at member
          rcases member with kept | added
          · have known := old token (List.mem_filter.mp kept).1
            omega
          · rw [added, before.nextToken_eq, Token.nth_toNat (by omega)]
            omega
      | renewed timeout found =>
          rw [Store.withRenewed_tokens] at member
          exact Nat.lt_add_right _ (old token member)
      | returned | ended =>
          simp only [Store.push_tokens, Store.withoutLease_tokens, List.mem_filter] at member
          exact Nat.lt_add_right _ (old token member.1)
      | cleared => simp at member

theorem nextToken_fresh (recorded : Recorded policy chronicle store)
    (short : chronicle.delivered.length < UInt64.size) : store.nextToken ∉ store.tokens := by
  intro member
  have bound := recorded.token_lt (Nat.le_of_lt short) _ member
  rw [recorded.nextToken_eq, Token.nth_toNat short] at bound
  omega

end Recorded

end LeaseQueue
