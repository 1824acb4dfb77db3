import LeaseQueue.Proofs.Tokens
import Mathlib.Data.List.Induction
import Mathlib.Data.List.Nodup

/-!
When a lease lapses. The chronicle gives for each token the grant of its lease and the calls to renew
it since then; a renewal takes effect when it comes before the lease lapses, and the last one that
took effect decides. An abandon returns the message just when the lease has not lapsed.
-/

namespace LeaseQueue

theorem Instant.not_le {first second : Instant} : ¬ first ≤ second ↔ second < first := Nat.not_le

/-- How the lease with a token was granted, and the calls to renew it since then. -/
structure Tenure where
  grantedAt : Instant
  timeout : Duration
  message : Message
  renewals : List (Instant × Duration) := []
deriving DecidableEq

namespace Tenure

/-- The renewals that take effect on a lease which runs by a grant or renewal already, each with the
span that it makes the lease run for. -/
def effective (policy : RenewPolicy) (granted : Duration) :
    (current : Instant × Duration) → (renewals : List (Instant × Duration)) →
      List (Instant × Duration)
  | _, [] => []
  | current, (now, asked) :: rest =>
    if now < current.1.deadlineAfter current.2 then
      (now, policy.span asked granted) ::
        effective policy granted (now, policy.span asked granted) rest
    else effective policy granted current rest

/-- What a lease runs by: the last renewal that took effect, or else its grant. -/
def runsBy (policy : RenewPolicy) (tenure : Tenure) : Instant × Duration :=
  (effective policy tenure.timeout (tenure.grantedAt, tenure.timeout) tenure.renewals).getLastD
    (tenure.grantedAt, tenure.timeout)

def expiresAt (policy : RenewPolicy) (tenure : Tenure) : Instant :=
  (tenure.runsBy policy).1.deadlineAfter (tenure.runsBy policy).2

def lease (policy : RenewPolicy) (token : Token) (tenure : Tenure) : Lease :=
  { token
    message := tenure.message
    term := { timeout := (tenure.runsBy policy).2, expiresAt := tenure.expiresAt policy } }

def extended (tenure : Tenure) (renewals : List (Instant × Duration)) : Tenure :=
  { tenure with renewals := tenure.renewals ++ renewals }

def renewed (tenure : Tenure) (now : Instant) (asked : Duration) : Tenure :=
  tenure.extended [(now, asked)]

end Tenure

def Deed.replaces (token : Token) : Deed → Bool
  | .granted message _ _ => message.token = some token
  | .returned lease _ => lease.token = token
  | .ended lease _ => lease.token = token
  | .cleared _ _ => true
  | .sent _ | .renewed _ _ => false

namespace Chronicle

def renewals (chronicle : Chronicle) (token : Token) : List (Instant × Duration) :=
  chronicle.filterMap fun entry =>
    match entry.2 with
    | .renewed named asked => if named = token then some (entry.1, asked) else none
    | _ => none

def Holds (chronicle : Chronicle) (token : Token) (tenure : Tenure) : Prop :=
  ∃ (earlier later : Chronicle) (displaced : Option Lease),
    chronicle =
      earlier ++ (tenure.grantedAt, .granted tenure.message tenure.timeout displaced) :: later ∧
    tenure.message.token = some token ∧
    (∀ entry ∈ later, entry.2.replaces token = false) ∧
    tenure.renewals = later.renewals token

def tenureAfter (token : Token) (tenure? : Option Tenure) (entry : Instant × Deed) : Option Tenure :=
  match entry.2 with
  | .granted message timeout _ =>
    if message.token = some token then some { grantedAt := entry.1, timeout, message } else tenure?
  | .renewed named asked =>
    if named = token then tenure?.map fun tenure => tenure.renewed entry.1 asked else tenure?
  | deed => if deed.replaces token then none else tenure?

def tenure? (chronicle : Chronicle) (token : Token) : Option Tenure :=
  chronicle.foldl (tenureAfter token) none

theorem tenure?_concat (past : Chronicle) (entry : Instant × Deed) (token : Token) :
    tenure? (past ++ [entry]) token = tenureAfter token (past.tenure? token) entry := by
  simp [tenure?, List.foldl_append]

theorem renewals_append (first second : Chronicle) (token : Token) :
    (first ++ second).renewals token = first.renewals token ++ second.renewals token :=
  List.filterMap_append

theorem time_of_mem_renewals {chronicle : Chronicle} {token : Token} {renewal : Instant × Duration}
    (member : renewal ∈ chronicle.renewals token) : ∃ entry ∈ chronicle, entry.1 = renewal.1 := by
  obtain ⟨entry, listed, asked⟩ := List.mem_filterMap.mp member
  refine ⟨entry, listed, ?_⟩
  split at asked
  · split at asked
    · exact congrArg Prod.fst (Option.some.inj asked)
    · simp at asked
  · simp at asked

theorem tenureAfter_of_kept {entry : Instant × Deed} {token : Token}
    (kept : entry.2.replaces token = false) (tenure : Tenure) :
    tenureAfter token (some tenure) entry = some (tenure.extended (renewals [entry] token)) := by
  obtain ⟨now, deed⟩ := entry
  have unchanged : tenure.extended [] = tenure := by simp [Tenure.extended]
  cases deed with
  | granted message timeout displaced =>
      have other : ¬ message.token = some token := by simpa [Deed.replaces] using kept
      simp [tenureAfter, renewals, other, unchanged]
  | renewed named asked =>
      by_cases same : named = token
      · simp [tenureAfter, renewals, same, Tenure.renewed]
      · simp [tenureAfter, renewals, same, unchanged]
  | sent | returned | ended | cleared => simp [tenureAfter, renewals, kept, unchanged]

theorem foldl_of_kept {later : Chronicle} {token : Token}
    (kept : ∀ entry ∈ later, entry.2.replaces token = false) (tenure : Tenure) :
    later.foldl (tenureAfter token) (some tenure) =
      some (tenure.extended (later.renewals token)) := by
  induction later generalizing tenure with
  | nil => simp [renewals, Tenure.extended]
  | cons entry rest ih =>
      have first := kept entry List.mem_cons_self
      have others := fun other member => kept other (List.mem_cons_of_mem _ member)
      have asked : renewals (entry :: rest) token = renewals [entry] token ++ renewals rest token :=
        renewals_append [entry] rest token
      rw [List.foldl_cons, tenureAfter_of_kept first, ih others, asked]
      simp [Tenure.extended]

theorem tenure?_append_of_kept {earlier later : Chronicle} {token : Token} {tenure : Tenure}
    (held : earlier.tenure? token = some tenure)
    (kept : ∀ entry ∈ later, entry.2.replaces token = false) :
    (earlier ++ later).tenure? token = some (tenure.extended (later.renewals token)) := by
  rw [tenure?, List.foldl_append]
  exact (congrArg (later.foldl (tenureAfter token)) held).trans (foldl_of_kept kept tenure)

theorem tenure?_of_holds {chronicle : Chronicle} {token : Token} {tenure : Tenure}
    (holds : chronicle.Holds token tenure) : chronicle.tenure? token = some tenure := by
  obtain ⟨earlier, later, displaced, rfl, named, kept, asked⟩ := holds
  have granted : (earlier ++ [(tenure.grantedAt,
      Deed.granted tenure.message tenure.timeout displaced)]).tenure? token =
        some { tenure with renewals := [] } := by
    rw [tenure?_concat]
    simp [tenureAfter, named]
  have whole := tenure?_append_of_kept granted kept
  rw [List.append_assoc, ← asked] at whole
  exact whole

theorem Holds.concat {past : Chronicle} {token : Token} {tenure : Tenure} {now : Instant}
    {deed : Deed} (holds : past.Holds token tenure) (kept : deed.replaces token = false) :
    Holds (past ++ [(now, deed)]) token (tenure.extended (renewals [(now, deed)] token)) := by
  obtain ⟨earlier, later, displaced, rfl, named, others, asked⟩ := holds
  refine ⟨earlier, later ++ [(now, deed)], displaced, ?_, named, ?_, ?_⟩
  · simp [Tenure.extended]
  · intro entry member
    rcases List.mem_append.mp member with old | new
    · exact others entry old
    · rw [List.mem_singleton.mp new]
      exact kept
  · rw [renewals_append, ← asked]
    rfl

theorem holds_of_tenure? {chronicle : Chronicle} {token : Token} {tenure : Tenure}
    (held : chronicle.tenure? token = some tenure) : chronicle.Holds token tenure := by
  induction chronicle using List.reverseRecOn generalizing tenure with
  | nil => simp [tenure?] at held
  | append_singleton past entry ih =>
      rw [tenure?_concat] at held
      obtain ⟨now, deed⟩ := entry
      by_cases kept : deed.replaces token = false
      · cases before : tenure? past token with
        | none =>
            rw [before] at held
            cases deed <;> simp_all [tenureAfter, Deed.replaces]
        | some previous =>
            rw [before, tenureAfter_of_kept kept] at held
            obtain rfl := Option.some.inj held
            exact (ih before).concat kept
      · cases deed with
        | granted message timeout displaced =>
            have named : message.token = some token := by simpa [Deed.replaces] using kept
            simp only [tenureAfter, named, if_true, Option.some.injEq] at held
            obtain rfl := held
            exact ⟨past, [], displaced, rfl, named, by simp, rfl⟩
        | sent | renewed | returned | ended | cleared =>
            simp_all [tenureAfter, Deed.replaces]

theorem tenure?_eq_some_iff {chronicle : Chronicle} {token : Token} {tenure : Tenure} :
    chronicle.tenure? token = some tenure ↔ chronicle.Holds token tenure :=
  ⟨holds_of_tenure?, tenure?_of_holds⟩

end Chronicle

namespace Tenure

theorem effective_concat (policy : RenewPolicy) (granted : Duration) (current : Instant × Duration)
    (renewals : List (Instant × Duration)) (now : Instant) (asked : Duration) :
    effective policy granted current (renewals ++ [(now, asked)]) =
      effective policy granted current renewals ++
        let last := (effective policy granted current renewals).getLastD current
        if now < last.1.deadlineAfter last.2 then [(now, policy.span asked granted)] else [] := by
  induction renewals generalizing current with
  | nil => rfl
  | cons renewal rest ih =>
      obtain ⟨time, span⟩ := renewal
      simp only [List.cons_append, effective]
      by_cases running : time < current.1.deadlineAfter current.2
      · simp only [running, if_true, ih, List.getLastD_cons, List.cons_append]
      · simp only [running, if_false, ih]

theorem runsBy_renewed (policy : RenewPolicy) (tenure : Tenure) (now : Instant) (asked : Duration) :
    (tenure.renewed now asked).runsBy policy =
      if now < tenure.expiresAt policy then (now, policy.span asked tenure.timeout)
      else tenure.runsBy policy := by
  have grown := effective_concat policy tenure.timeout (tenure.grantedAt, tenure.timeout)
    tenure.renewals now asked
  have runs : (tenure.renewed now asked).runsBy policy =
      (effective policy tenure.timeout (tenure.grantedAt, tenure.timeout)
        (tenure.renewals ++ [(now, asked)])).getLastD (tenure.grantedAt, tenure.timeout) := rfl
  rw [runs, grown]
  by_cases running : now < tenure.expiresAt policy
  · rw [if_pos running]
    simp only [expiresAt, runsBy] at running
    simp only [running, if_true, List.getLastD_concat]
  · rw [if_neg running]
    simp only [expiresAt, runsBy] at running
    simp only [running, if_false, List.append_nil]
    rfl

-- A renewal at the very point at which the lease lapses comes too late.
example : Tenure.effective .requested ⟨50⟩ (⟨0⟩, ⟨50⟩) [(⟨10⟩, ⟨20⟩), (⟨30⟩, ⟨90⟩)] =
    [(⟨10⟩, ⟨20⟩)] := by
  decide

theorem effective_granted (current : Instant × Duration) (renewals : List (Instant × Duration)) :
    ((effective .granted current.2 current renewals).getLastD current).2 = current.2 := by
  induction renewals generalizing current with
  | nil => rfl
  | cons renewal rest ih =>
      obtain ⟨now, asked⟩ := renewal
      simp only [effective]
      split
      · rw [List.getLastD_cons]
        exact ih (now, current.2)
      · exact ih current

theorem span_runsBy (policy : RenewPolicy) (tenure : Tenure) (asked : Duration) :
    policy.span asked (tenure.runsBy policy).2 = policy.span asked tenure.timeout := by
  cases policy with
  | requested => rfl
  | granted => exact effective_granted (tenure.grantedAt, tenure.timeout) tenure.renewals

theorem lease_renewed (policy : RenewPolicy) (token : Token) (tenure : Tenure) (now : Instant)
    (asked : Duration) :
    (tenure.renewed now asked).lease policy token =
      { tenure.lease policy token with
        term := (tenure.lease policy token).term.renew
          (policy.span asked (tenure.runsBy policy).2) now } := by
  have runs := runsBy_renewed policy tenure now asked
  simp only [lease, expiresAt, runs, Term.renew, Term.isExpired, span_runsBy]
  by_cases running : now < tenure.expiresAt policy
  · have early : ¬ tenure.expiresAt policy ≤ now := Instant.not_le.mpr running
    simp only [expiresAt] at running early
    simp only [running, early, decide_false, Bool.false_eq_true, if_true, if_false]
    rfl
  · have late : tenure.expiresAt policy ≤ now :=
      Classical.byContradiction fun early => running (Instant.not_le.mp early)
    simp only [expiresAt] at running late
    simp only [running, late, decide_true, if_true, if_false]
    rfl

theorem lease_extended {policy : RenewPolicy} {tenure : Tenure} {renewals : List (Instant × Duration)}
    (late : ∀ renewal ∈ renewals, tenure.expiresAt policy ≤ renewal.1) (token : Token) :
    (tenure.extended renewals).lease policy token = tenure.lease policy token := by
  induction renewals generalizing tenure with
  | nil => simp [extended]
  | cons renewal rest ih =>
      obtain ⟨now, asked⟩ := renewal
      have spent : ¬ now < tenure.expiresAt policy :=
        Nat.not_lt.mpr (late (now, asked) List.mem_cons_self)
      have runs := runsBy_renewed policy tenure now asked
      rw [if_neg spent] at runs
      have lapses : (tenure.renewed now asked).expiresAt policy = tenure.expiresAt policy := by
        rw [expiresAt, runs, expiresAt]
      have first : (tenure.renewed now asked).lease policy token = tenure.lease policy token := by
        rw [lease, lease, lapses, runs]
        rfl
      have apart : tenure.extended ((now, asked) :: rest) =
          (tenure.renewed now asked).extended rest := by
        simp [extended, renewed]
      rw [apart, ih, first]
      intro other member
      rw [lapses]
      exact late other (List.mem_cons_of_mem _ member)

end Tenure

theorem Recorded.lease?_eq_tenure {policy : RenewPolicy} {chronicle : Chronicle} {store : Store}
    (recorded : Recorded policy chronicle store) (token : Token) :
    store.lease? token = (chronicle.tenure? token).map (Tenure.lease policy token) := by
  induction recorded with
  | empty => rfl
  | @next past store next now deed _ step ih =>
      rw [Chronicle.tenure?_concat]
      have removal (lease : Lease) : (store.withoutLease lease.token).lease? token =
          (if lease.token = token then none else past.tenure? token).map
            (Tenure.lease policy token) := by
        rw [Store.lease?_withoutLease, ih]
        by_cases same : token = lease.token
        · rw [if_pos same, if_pos same.symm, Option.map_none]
        · rw [if_neg same, if_neg (Ne.symm same)]
      cases step with
      | sent => exact ih
      | granted timeout head =>
          rw [Store.lease?_withGranted]
          by_cases same : token = store.nextToken
          · subst same
            simp [Chronicle.tenureAfter, Message.withToken, Tenure.lease, Tenure.expiresAt,
              Tenure.runsBy, Tenure.effective, Term.grant]
          · rw [if_neg same, ih]
            simp [Chronicle.tenureAfter, Message.withToken, Ne.symm same]
      | @renewed lease timeout found =>
          rw [Store.lease?_withRenewed found]
          by_cases same : token = lease.token
          · subst same
            rw [ih, Option.map_eq_some_iff] at found
            obtain ⟨tenure, held, leaseEq⟩ := found
            have renewal := tenure.lease_renewed policy lease.token now timeout
            rw [leaseEq] at renewal
            have span : (tenure.runsBy policy).2 = lease.term.timeout :=
              congrArg (fun lease => lease.term.timeout) leaseEq
            have moved : Chronicle.tenureAfter lease.token (some tenure)
                (now, .renewed lease.token timeout) = some (tenure.renewed now timeout) :=
              if_pos rfl
            rw [if_pos rfl, held, moved, Option.map_some, renewal, span]
          · rw [if_neg same, ih]
            simp [Chronicle.tenureAfter, Ne.symm same]
      | @missed named timeout missing =>
          by_cases same : named = token
          · subst same
            rw [missing] at ih
            have absent : past.tenure? named = none := Option.map_eq_none_iff.mp ih.symm
            simp [Chronicle.tenureAfter, absent, missing]
          · rw [ih]
            simp [Chronicle.tenureAfter, same]
      | returned | ended => simpa [Chronicle.tenureAfter, Deed.replaces] using removal _
      | cleared => rfl

theorem Store.withRenewed_of_expired {store : Store} (keyed : store.tokens.Nodup) {lease : Lease}
    (found : store.lease? lease.token = some lease) {now : Instant}
    (expired : lease.term.isExpired now = true) (span : Duration) :
    store.withRenewed lease span now = store := by
  have member := (lease?_eq_some found).1
  have unchanged : (store.leases.map fun other =>
      if other.token = lease.token then { other with term := other.term.renew span now }
      else other) = store.leases := by
    conv_rhs => rw [← List.map_id store.leases]
    apply List.map_congr_left
    intro other listed
    by_cases same : other.token = lease.token
    · obtain rfl : other = lease := List.inj_on_of_nodup_map keyed listed member same
      simp [Term.renew, expired]
    · simp [same]
  rw [withRenewed, unchanged]

/-- What the calls on a copy of a leased message do at a point in time. -/
structure Queue.LeaseCalls (queue : Queue) (lease : Lease) (message : Message) (now : Instant) :
    Prop where
  returned : now < lease.term.expiresAt →
    queue.abandon message now =
      (message.withoutToken,
        { queue with
          store := (queue.store.withoutLease lease.token).push
            (lease.message.withoutToken.stamped now)
          counters := queue.counters.countAbandoned.countSent
          arrivals := queue.arrivals + 1 })
  dropped : lease.term.expiresAt ≤ now →
    queue.abandon message now =
      (message.withoutToken, { queue with store := queue.store.withoutLease lease.token })
  completed : queue.complete message =
    (message.withoutToken,
      { queue with
        store := queue.store.withoutLease lease.token
        counters := queue.counters.countCompleted })
  deadLettered : queue.deadLetter message =
    (message.withoutToken,
      { queue with
        store := queue.store.withoutLease lease.token
        counters := queue.counters.countDeadLettered })
  renewed : now < lease.term.expiresAt → ∀ asked,
    (queue.renew message asked now).store.lease? lease.token =
      some { lease with
        term := .grant (queue.settings.renewPolicy.span asked lease.term.timeout) now }
  unrenewed : lease.term.expiresAt ≤ now → ∀ asked, queue.renew message asked now = queue
  others : ∀ asked other, other ≠ lease.token →
    (queue.renew message asked now).store.lease? other = queue.store.lease? other
  outside : ∀ asked, ∃ leases,
    queue.renew message asked now = { queue with store := { queue.store with leases } }

theorem Queue.leaseCalls {queue : Queue} (keyed : queue.store.tokens.Nodup) {lease : Lease}
    {message : Message} (found : queue.leaseOf? message = some lease) (now : Instant) :
    queue.LeaseCalls lease message now := by
  have held := (leaseOf?_eq_some found).2
  have renewed (asked : Duration) : queue.renew message asked now = _ := renew_of_some asked found
  refine ⟨?_, ?_, settle_of_some _ found, settle_of_some _ found, ?_, ?_, ?_, ?_⟩
  · intro running
    exact abandon_of_running found (decide_eq_false (Instant.not_le.mpr running))
  · intro lapsed
    exact abandon_of_lapsed found (decide_eq_true lapsed)
  · intro running asked
    have early : lease.term.isExpired now = false := decide_eq_false (Instant.not_le.mpr running)
    rw [renewed asked, Store.lease?_withRenewed held, if_pos rfl, Term.renew, early]
    rfl
  · intro lapsed asked
    rw [renewed asked, Store.withRenewed_of_expired keyed held (decide_eq_true lapsed)]
  · intro asked other different
    rw [renewed asked, Store.lease?_withRenewed held, if_neg different]
  · intro asked
    exact ⟨_, renewed asked⟩

/-- In every run a token has a lease just when it was granted with a receive and no deed took it away
since. The lease runs by its grant until a renewal takes effect, and from then on by the last renewal
that did; one takes effect when it comes before the lease lapses. A call of abandon returns the
message while the lease runs and drops it once it has lapsed; no other call but renewal looks at the
time, and no renewal changes another lease. A lease that has lapsed stays as it is until it is gone. -/
theorem lease_lapses_by_its_renewals (run : Run) (token : Token) :
    (∀ lease, run.queue.store.lease? token = some lease ↔
      ∃ tenure, run.chronicle.Holds token tenure ∧
        tenure.lease run.settings.renewPolicy token = lease) ∧
    (∀ lease, run.queue.store.lease? token = some lease →
      ∀ message : Message, message.token = some token →
        ∀ now, run.queue.LeaseCalls lease message now) ∧
    run.queue.settings = run.settings ∧
    ∀ more later lease, (run.further more).chronicle = run.chronicle ++ later →
      (∀ entry ∈ later, entry.2.replaces token = false) →
      run.queue.store.lease? token = some lease → lease.term.expiresAt ≤ run.now →
      (run.further more).queue.store.lease? token = some lease := by
  have held := run.recorded.lease?_eq_tenure token
  refine ⟨?_, ?_, run.queue_settings, ?_⟩
  · intro lease
    simp only [held, Option.map_eq_some_iff, Chronicle.tenure?_eq_some_iff]
  · intro lease found message named now
    exact Queue.leaseCalls run.recorded.keyed ((Queue.leaseOf?_of_token named).trans found) now
  · intro more later lease split kept found lapsed
    rw [held, Option.map_eq_some_iff] at found
    obtain ⟨tenure, known, rfl⟩ := found
    have afterwards := (run.further more).recorded.lease?_eq_tenure token
    rw [afterwards, split, Chronicle.tenure?_append_of_kept known kept, Option.map_some]
    refine congrArg some (Tenure.lease_extended ?_ token)
    intro renewal member
    obtain ⟨entry, listed, sameTime⟩ := Chronicle.time_of_mem_renewals member
    have late := Run.now_le_of_mem_later split listed
    rw [← sameTime]
    exact Nat.le_trans lapsed late

end LeaseQueue
