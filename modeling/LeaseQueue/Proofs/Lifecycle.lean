import LeaseQueue.Proofs.Rounds
import Mathlib.Data.List.Nodup

/-!
The life of a message on a queue. `Place.after` lists the moves that there are; every deed of every
run is one of them, and the place that they lead to is where the store has the message.
-/

namespace LeaseQueue

/-- Where a message is, or how its life ended. A message is `displaced` when its lease is overwritten
by one with the same token. -/
inductive Place where
  | unsent
  | pending
  | leased (token : Token)
  | settled (ending : Ending)
  | cleared
  | displaced
deriving DecidableEq

def Place.isFinal : Place → Bool
  | .settled _ | .cleared | .displaced => true
  | .unsent | .pending | .leased _ => false

def Deed.ids : Deed → List MessageId
  | .sent message => [message.id]
  | .granted message _ displaced =>
    message.id :: (displaced.map fun lease => lease.message.id).toList
  | .renewed _ _ => []
  | .returned lease _ => [lease.message.id]
  | .ended lease _ => [lease.message.id]
  | .cleared pending leases =>
    pending.map Message.id ++ leases.map fun lease => lease.message.id

/-- Where a deed moves the message of an id. A deed on that message which is not listed cannot be. -/
def Place.after (id : MessageId) (place : Place) (deed : Deed) : Option Place :=
  if id ∈ deed.ids then
    match deed, place with
    | .sent _, .unsent => some .pending
    | .granted message _ _, .pending =>
      if message.id = id then message.token.map .leased else none
    | .granted message _ _, .leased _ => if message.id = id then none else some .displaced
    | .returned lease _, .leased token => if lease.token = token then some .pending else none
    | .ended lease ending, .leased token =>
      if lease.token = token then some (.settled ending) else none
    | .cleared _ _, .pending => some .cleared
    | .cleared _ _, .leased _ => some .cleared
    | _, _ => none
  else some place

namespace Chronicle

def sentIds (chronicle : Chronicle) : List MessageId :=
  chronicle.filterMap fun entry =>
    match entry.2 with
    | .sent message => some message.id
    | _ => none

/-- The place of a message after all deeds, when each of them is a move that there is. -/
def follow (chronicle : Chronicle) (id : MessageId) (place : Place) : Option Place :=
  chronicle.foldlM (fun place entry => place.after id entry.2) place

theorem sentIds_append (first second : Chronicle) :
    (first ++ second).sentIds = first.sentIds ++ second.sentIds :=
  List.filterMap_append

theorem follow_append (first second : Chronicle) (id : MessageId) (place : Place) :
    (first ++ second).follow id place = (first.follow id place).bind (second.follow id) :=
  List.foldlM_append

theorem follow_cons (entry : Instant × Deed) (rest : Chronicle) (id : MessageId) (place : Place) :
    follow (entry :: rest) id place = (place.after id entry.2).bind (rest.follow id) := rfl

end Chronicle

namespace Store

def copies (store : Store) (id : MessageId) : Nat := (store.pending.map Message.id).count id

def tokensOf (store : Store) (id : MessageId) : List Token :=
  (store.leases.filter fun lease => lease.message.id = id).map Lease.token

theorem push_copies (store : Store) (message : Message) (id : MessageId) :
    (store.push message).copies id = store.copies id + if message.id = id then 1 else 0 := by
  simp [copies, List.count_append, List.count_singleton]

theorem copies_of_head {store : Store} {first : Message} {rest : List Message}
    (head : store.pending = first :: rest) (id : MessageId) :
    store.copies id = (rest.map Message.id).count id + if first.id = id then 1 else 0 := by
  simp [copies, head, List.count_cons]

theorem withRenewed_tokensOf (store : Store) (lease : Lease) (span : Duration) (now : Instant)
    (id : MessageId) : (store.withRenewed lease span now).tokensOf id = store.tokensOf id := by
  have viewed (leases : List Lease) :
      (leases.filter fun lease => lease.message.id = id).map Lease.token =
        ((leases.map fun lease => (lease.message.id, lease.token)).filter
          fun pair => pair.1 = id).map Prod.snd := by
    rw [List.filter_map, List.map_map]
    rfl
  rw [tokensOf, tokensOf, viewed, viewed, withRenewed_map]
  exact fun _ _ => rfl

theorem withoutLease_tokensOf (store : Store) (token : Token) (id : MessageId) :
    (store.withoutLease token).tokensOf id =
      (store.tokensOf id).filter fun other => other != token := by
  simp only [tokensOf, withoutLease, List.filter_map, List.filter_filter]
  congr 2
  funext lease
  exact Bool.and_comm _ _

theorem withGranted_tokensOf (store : Store) (message : Message) (rest : List Message)
    (timeout : Duration) (now : Instant) (id : MessageId) :
    (store.withGranted message rest timeout now).tokensOf id =
      ((store.tokensOf id).filter fun other => other != store.nextToken) ++
        if message.id = id then [store.nextToken] else [] := by
  rw [← withoutLease_tokensOf]
  simp only [tokensOf, withGranted_leases, List.filter_append, List.map_append]
  by_cases same : message.id = id <;> simp [same]

theorem tokensOf_subset (store : Store) (id : MessageId) : store.tokensOf id ⊆ store.tokens :=
  List.map_subset _ (List.filter_subset_self _)

theorem mem_tokensOf_iff {store : Store} (keyed : store.tokens.Nodup) {token : Token}
    {lease : Lease} (found : store.lease? token = some lease) (id : MessageId) :
    token ∈ store.tokensOf id ↔ lease.message.id = id := by
  obtain ⟨member, rfl⟩ := lease?_eq_some found
  constructor
  · intro listed
    obtain ⟨other, chosen, same⟩ := List.mem_map.mp listed
    simp only [List.mem_filter, decide_eq_true_eq] at chosen
    have equal : other = lease := List.inj_on_of_nodup_map keyed chosen.1 member same
    exact equal ▸ chosen.2
  · rintro rfl
    refine List.mem_map.mpr ⟨lease, ?_, rfl⟩
    simpa using member

end Store

namespace Place

/-- The store has the message of an id just where its place says. -/
def Lies (place : Place) (store : Store) (id : MessageId) : Prop :=
  match place with
  | .pending => store.copies id = 1 ∧ store.tokensOf id = []
  | .leased token => store.copies id = 0 ∧ store.tokensOf id = [token]
  | .unsent | .settled _ | .cleared | .displaced => store.copies id = 0 ∧ store.tokensOf id = []

section

variable {place : Place} {store next : Store} {id : MessageId}

theorem Lies.congr (lies : place.Lies store id) (sameCopies : next.copies id = store.copies id)
    (sameTokens : next.tokensOf id = store.tokensOf id) : place.Lies next id := by
  unfold Lies at lies ⊢
  rw [sameCopies, sameTokens]
  exact lies

theorem Lies.eq_pending (lies : place.Lies store id) (present : store.copies id ≠ 0) :
    place = .pending := by
  cases place with
  | pending => rfl
  | unsent | leased | settled | cleared | displaced => exact absurd lies.1 present

theorem Lies.eq_leased (lies : place.Lies store id) {token : Token}
    (present : token ∈ store.tokensOf id) : place = .leased token := by
  cases place with
  | leased held =>
      rw [lies.2, List.mem_singleton] at present
      rw [present]
  | unsent | pending | settled | cleared | displaced =>
      rw [lies.2] at present
      simp at present

theorem Lies.withoutLease (lies : place.Lies store id) {token : Token}
    (absent : token ∉ store.tokensOf id) : place.Lies (store.withoutLease token) id := by
  refine lies.congr rfl ?_
  rw [Store.withoutLease_tokensOf, List.filter_eq_self]
  intro other listed
  simp only [bne_iff_ne, ne_eq]
  rintro rfl
  exact absent listed

theorem Lies.emptied {token : Token} (lies : (Place.leased token).Lies store id) :
    (store.withoutLease token).copies id = 0 ∧ (store.withoutLease token).tokensOf id = [] := by
  refine ⟨lies.1, ?_⟩
  rw [Store.withoutLease_tokensOf, lies.2]
  simp

theorem after_of_not_mem {deed : Deed} (absent : id ∉ deed.ids) :
    place.after id deed = some place := by
  simp [after, absent]

end

variable {policy : RenewPolicy} {now : Instant} {place : Place} {store next : Store} {deed : Deed}
  {id : MessageId}

theorem Lies.sent (message : Message) (lies : place.Lies store id)
    (first : message.id = id → place = .unsent) :
    ∃ moved, place.after id (.sent message) = some moved ∧ moved.Lies (store.push message) id := by
  have copies := store.push_copies message id
  by_cases same : message.id = id
  · obtain rfl := first same
    refine ⟨.pending, by simp [after, Deed.ids, same], ?_, lies.2⟩
    rw [copies, lies.1, if_pos same]
  · rw [if_neg same, Nat.add_zero] at copies
    exact ⟨place, after_of_not_mem (by simpa [Deed.ids] using Ne.symm same), lies.congr copies rfl⟩

theorem Lies.granted (timeout : Duration) (keyed : store.tokens.Nodup) (lies : place.Lies store id)
    {message : Message} {rest : List Message} (head : store.pending = message :: rest) :
    ∃ moved,
      place.after id
        (.granted (message.withToken store.nextToken) timeout (store.lease? store.nextToken)) =
          some moved ∧
      moved.Lies (store.withGranted (message.withToken store.nextToken) rest timeout now) id := by
  have copies := Store.copies_of_head head id
  have tokens := store.withGranted_tokensOf (message.withToken store.nextToken) rest timeout now id
  change _ = _ ++ if message.id = id then [store.nextToken] else [] at tokens
  by_cases same : message.id = id
  · obtain rfl := lies.eq_pending (by rw [copies, if_pos same]; omega)
    rw [if_pos same, lies.2] at tokens
    refine ⟨.leased store.nextToken, ?_, ?_, tokens⟩
    · simp [after, Deed.ids, Message.withToken, same]
    · rw [lies.1, if_pos same] at copies
      exact Nat.succ.inj copies.symm
  · rw [if_neg same, Nat.add_zero] at copies
    rw [if_neg same, List.append_nil, ← Store.withoutLease_tokensOf] at tokens
    by_cases covered : store.nextToken ∈ store.tokensOf id
    · obtain rfl := lies.eq_leased covered
      cases found : store.lease? store.nextToken with
      | none =>
          have absent := Store.lease?_eq_none_iff.mp found
          exact absurd (store.tokensOf_subset id covered) absent
      | some lease =>
          have named := (Store.mem_tokensOf_iff keyed found id).mp covered
          refine ⟨.displaced, ?_, copies.symm.trans lies.1, tokens.trans lies.emptied.2⟩
          simp [after, Deed.ids, Message.withToken, same, named]
    · refine ⟨place, after_of_not_mem ?_,
        (lies.withoutLease covered).congr copies.symm tokens⟩
      intro listed
      simp only [Deed.ids, Message.withToken, List.mem_cons, Ne.symm same, false_or,
        Option.mem_toList, Option.map_eq_some_iff] at listed
      obtain ⟨lease, found, named⟩ := listed
      exact covered ((Store.mem_tokensOf_iff keyed found id).mpr named)

theorem Lies.returned (keyed : store.tokens.Nodup) (lies : place.Lies store id) {lease : Lease}
    (found : store.lease? lease.token = some lease) (message : Message)
    (sameMessage : message.id = lease.message.id) :
    ∃ moved, place.after id (.returned lease message) = some moved ∧
      moved.Lies ((store.withoutLease lease.token).push message) id := by
  have copies := (store.withoutLease lease.token).push_copies message id
  have covered := Store.mem_tokensOf_iff keyed found id
  rw [sameMessage] at copies
  by_cases same : lease.message.id = id
  · obtain rfl := lies.eq_leased (covered.mpr same)
    rw [if_pos same, lies.emptied.1] at copies
    exact ⟨.pending, by simp [after, Deed.ids, same], copies, lies.emptied.2⟩
  · rw [if_neg same, Nat.add_zero] at copies
    exact ⟨place, after_of_not_mem (by simpa [Deed.ids] using Ne.symm same),
      (lies.withoutLease (mt covered.mp same)).congr copies rfl⟩

theorem Lies.ended (keyed : store.tokens.Nodup) (lies : place.Lies store id) {lease : Lease}
    (found : store.lease? lease.token = some lease) (ending : Ending) :
    ∃ moved, place.after id (.ended lease ending) = some moved ∧
      moved.Lies (store.withoutLease lease.token) id := by
  have covered := Store.mem_tokensOf_iff keyed found id
  by_cases same : lease.message.id = id
  · obtain rfl := lies.eq_leased (covered.mpr same)
    exact ⟨.settled ending, by simp [after, Deed.ids, same], lies.emptied⟩
  · exact ⟨place, after_of_not_mem (by simpa [Deed.ids] using Ne.symm same),
      lies.withoutLease (mt covered.mp same)⟩

theorem Lies.cleared (lies : place.Lies store id) :
    ∃ moved, place.after id (.cleared store.pending store.leases) = some moved ∧
      moved.Lies store.clear id := by
  have listed : id ∈ (Deed.cleared store.pending store.leases).ids ↔
      store.copies id ≠ 0 ∨ store.tokensOf id ≠ [] := by
    simp [Deed.ids, Store.copies, Store.tokensOf, List.count_eq_zero, List.filter_eq_nil_iff]
  cases place with
  | pending =>
      have present := listed.mpr (Or.inl (by rw [lies.1]; omega))
      exact ⟨.cleared, by simp [after, present], rfl, rfl⟩
  | leased token =>
      have present := listed.mpr (Or.inr (by rw [lies.2]; simp))
      exact ⟨.cleared, by simp [after, present], rfl, rfl⟩
  | unsent | settled | cleared | displaced =>
      refine ⟨_, after_of_not_mem ?_, rfl, rfl⟩
      rw [listed, lies.1, lies.2]
      simp

theorem Lies.step (keyed : store.tokens.Nodup) (lies : place.Lies store id)
    (step : Store.Step policy now store deed next)
    (first : ∀ message, deed = .sent message → message.id = id → place = .unsent) :
    ∃ moved, place.after id deed = some moved ∧ moved.Lies next id := by
  cases step with
  | sent message => exact lies.sent _ (first _ rfl)
  | granted timeout head => exact lies.granted timeout keyed head
  | renewed timeout found =>
      exact ⟨place, after_of_not_mem (by simp [Deed.ids]),
        lies.congr rfl (Store.withRenewed_tokensOf store _ _ now id)⟩
  | missed => exact ⟨place, after_of_not_mem (by simp [Deed.ids]), lies⟩
  | returned found running => exact lies.returned keyed found _ rfl
  | ended found overdue => exact lies.ended keyed found _
  | cleared => exact lies.cleared

theorem after_eq_unsent {moved : Place} (followed : place.after id deed = some moved)
    (time : Instant) :
    moved = .unsent ↔ place = .unsent ∧ id ∉ Chronicle.sentIds [(time, deed)] := by
  by_cases listed : id ∈ deed.ids
  · simp only [after, if_pos listed] at followed
    have changed : moved ≠ .unsent := by
      rintro rfl
      split at followed <;> simp_all
    have sentNow : place = .unsent → id ∈ Chronicle.sentIds [(time, deed)] := by
      rintro rfl
      cases deed <;> simp_all [Deed.ids, Chronicle.sentIds]
    exact ⟨fun same => absurd same changed, fun both => absurd (sentNow both.1) both.2⟩
  · rw [after_of_not_mem listed] at followed
    have notSent : id ∉ Chronicle.sentIds [(time, deed)] := by
      cases deed <;> simp_all [Deed.ids, Chronicle.sentIds]
    rw [← Option.some.inj followed]
    exact ⟨fun same => ⟨same, notSent⟩, And.left⟩

theorem after_eq_displaced (followed : place.after id deed = some .displaced) :
    place = .displaced ∨ ∃ message timeout lease, deed = .granted message timeout (some lease) := by
  by_cases listed : id ∈ deed.ids
  · right
    simp only [after, if_pos listed] at followed
    cases deed with
    | granted message timeout displaced =>
        cases displaced with
        | some lease => exact ⟨message, timeout, lease, rfl⟩
        | none =>
            have named : id = message.id := by simpa [Deed.ids] using listed
            cases place <;> simp_all
    | sent | renewed | returned | ended | cleared => cases place <;> simp_all
  · rw [after_of_not_mem listed] at followed
    exact Or.inl (Option.some.inj followed)

theorem after_of_isFinal {moved : Place} (followed : place.after id deed = some moved)
    (closed : place.isFinal = true) : moved = place := by
  by_cases listed : id ∈ deed.ids
  · simp only [after, if_pos listed] at followed
    cases place <;> cases deed <;> simp_all [isFinal]
  · rw [after_of_not_mem listed] at followed
    exact (Option.some.inj followed).symm

theorem after_eq_pending (followed : place.after id deed = some .pending) :
    place = .pending ∨ place = .unsent ∨
      ∃ lease message, deed = .returned lease message ∧ lease.message.id = id := by
  by_cases listed : id ∈ deed.ids
  · simp only [after, if_pos listed] at followed
    cases deed with
    | returned lease message =>
        have named : id = lease.message.id := by simpa [Deed.ids] using listed
        exact Or.inr (Or.inr ⟨lease, message, rfl, named.symm⟩)
    | sent | granted | renewed | ended | cleared => cases place <;> simp_all
  · rw [after_of_not_mem listed] at followed
    exact Or.inl (Option.some.inj followed)

end Place

structure Traced (chronicle : Chronicle) (store : Store) (id : MessageId) (place : Place) : Prop where
  followed : chronicle.follow id .unsent = some place
  lies : place.Lies store id
  unsent_iff : place = .unsent ↔ id ∉ chronicle.sentIds
  displaced : place = .displaced → UInt64.size < chronicle.delivered.length

theorem Traced.step {policy : RenewPolicy} {past : Chronicle} {store next : Store} {now : Instant}
    {deed : Deed} {id : MessageId} {place : Place} (recorded : Recorded policy past store)
    (traced : Traced past store id place) (step : Store.Step policy now store deed next)
    (distinct : (past ++ [(now, deed)]).sentIds.Nodup) :
    ∃ moved, Traced (past ++ [(now, deed)]) next id moved := by
  rw [Chronicle.sentIds_append] at distinct
  have first (message : Message) (sent : deed = .sent message) (same : message.id = id) :
      place = .unsent := by
    subst sent same
    rw [traced.unsent_iff]
    intro before
    exact (List.nodup_append.mp distinct).2.2 _ before _ (by simp [Chronicle.sentIds]) rfl
  obtain ⟨moved, followed, lies⟩ := traced.lies.step recorded.keyed step first
  refine ⟨moved, ?_, lies, ?_, ?_⟩
  · rw [Chronicle.follow_append, traced.followed]
    simpa [Chronicle.follow] using followed
  · rw [Place.after_eq_unsent followed now, traced.unsent_iff, Chronicle.sentIds_append,
      List.mem_append, not_or]
  · rintro rfl
    rw [Chronicle.delivered_append, List.length_append]
    rcases Place.after_eq_displaced followed with already | ⟨message, timeout, lease, rfl⟩
    · exact Nat.lt_add_right _ (traced.displaced already)
    · change UInt64.size < past.delivered.length + 1
      -- A lease is in the way only when the tokens have started again.
      generalize covered : some lease = displaced at step
      cases step with
      | granted timeout head =>
          have taken := Store.mem_tokens covered.symm
          have long : ¬ past.delivered.length < UInt64.size :=
            fun short => recorded.nextToken_fresh short taken
          omega

theorem Recorded.traced {policy : RenewPolicy} {chronicle : Chronicle} {store : Store}
    (recorded : Recorded policy chronicle store) (distinct : chronicle.sentIds.Nodup)
    (id : MessageId) : ∃ place, Traced chronicle store id place := by
  induction recorded with
  | empty => exact ⟨.unsent, rfl, ⟨rfl, rfl⟩, by simp [Chronicle.sentIds], by simp⟩
  | @next past store next now deed recorded step ih =>
      have earlier : past.sentIds.Nodup := by
        rw [Chronicle.sentIds_append] at distinct
        exact (List.nodup_append.mp distinct).1
      obtain ⟨place, traced⟩ := ih earlier
      exact traced.step recorded step distinct

namespace Chronicle

theorem follow_of_isFinal {later : Chronicle} {id : MessageId} {place moved : Place}
    (followed : later.follow id place = some moved) (closed : place.isFinal = true) :
    moved = place := by
  induction later generalizing place with
  | nil => exact (Option.some.inj followed).symm
  | cons entry rest ih =>
      rw [follow_cons, Option.bind_eq_some_iff] at followed
      obtain ⟨next, first, others⟩ := followed
      obtain rfl := Place.after_of_isFinal first closed
      exact ih others closed

theorem exists_returned {between : Chronicle} {id : MessageId} {place : Place}
    (followed : between.follow id place = some .pending) (notPending : place ≠ .pending)
    (notUnsent : place ≠ .unsent) :
    ∃ time lease message, (time, Deed.returned lease message) ∈ between ∧
      lease.message.id = id := by
  induction between generalizing place with
  | nil => exact absurd (Option.some.inj followed) notPending
  | cons entry rest ih =>
      obtain ⟨time, deed⟩ := entry
      rw [follow_cons, Option.bind_eq_some_iff] at followed
      obtain ⟨next, first, others⟩ := followed
      have stillSent : next ≠ .unsent :=
        fun same => notUnsent ((Place.after_eq_unsent first time).mp same).1
      by_cases back : next = .pending
      · subst back
        rcases Place.after_eq_pending first with same | same | ⟨lease, message, rfl, named⟩
        · exact absurd same notPending
        · exact absurd same notUnsent
        · exact ⟨time, lease, message, List.mem_cons_self, named⟩
      · obtain ⟨when, lease, message, member, named⟩ := ih others back stillSent
        exact ⟨when, lease, message, List.mem_cons_of_mem _ member, named⟩

end Chronicle

theorem Place.after_granted {id : MessageId} {place moved : Place} {message : Message}
    {timeout : Duration} {displaced : Option Lease} (same : message.id = id)
    (followed : place.after id (.granted message timeout displaced) = some moved) :
    place = .pending ∧ ∃ token, moved = .leased token := by
  have listed : id ∈ (Deed.granted message timeout displaced).ids := by simp [Deed.ids, same]
  simp only [after, if_pos listed] at followed
  cases place with
  | pending =>
      simp only [same, if_true, Option.map_eq_some_iff] at followed
      obtain ⟨token, _, rfl⟩ := followed
      exact ⟨rfl, token, rfl⟩
  | unsent | leased | settled | cleared | displaced => simp [same] at followed

theorem Chronicle.returned_between {earlier between later : Chronicle} {id : MessageId}
    {place : Place} {firstTime secondTime : Instant} {first second : Message}
    {firstTimeout secondTimeout : Duration} {firstDisplaced secondDisplaced : Option Lease}
    (followed : Chronicle.follow
      (earlier ++ (firstTime, .granted first firstTimeout firstDisplaced) ::
        (between ++ (secondTime, .granted second secondTimeout secondDisplaced) :: later))
      id .unsent = some place)
    (firstId : first.id = id) (secondId : second.id = id) :
    ∃ time lease message, (time, Deed.returned lease message) ∈ between ∧
      lease.message.id = id := by
  rw [follow_append, Option.bind_eq_some_iff] at followed
  obtain ⟨before, _, followed⟩ := followed
  rw [follow_cons, Option.bind_eq_some_iff] at followed
  obtain ⟨held, firstGrant, followed⟩ := followed
  rw [follow_append, Option.bind_eq_some_iff] at followed
  obtain ⟨again, followedBetween, followed⟩ := followed
  rw [follow_cons, Option.bind_eq_some_iff] at followed
  obtain ⟨_, secondGrant, _⟩ := followed
  obtain ⟨_, token, rfl⟩ := Place.after_granted firstId firstGrant
  obtain ⟨rfl, _⟩ := Place.after_granted secondId secondGrant
  exact exists_returned followedBetween (by simp) (by simp)

theorem Run.further_pass (run : Run) (span : Duration) :
    (run.further [.pass span]).queue = run.queue ∧
      (run.further [.pass span]).chronicle = run.chronicle := by
  constructor
  · exact run.further_queue _
  · rw [further_chronicle]
    exact List.append_nil _

/-- In every run in which no message is sent twice, each message is in exactly one place: pending
once, under exactly one lease, or in neither because its life ended. It gets there by the moves of
`Place.after` alone, and an end is for good. Leases are returned before they lapse and dropped only
after. A message that is received a second time was handed back in between; time alone moves nothing.
Only after `2 ^ 64` receives, when the tokens start again, can a new lease displace an old one. -/
theorem message_in_one_place (run : Run) (distinct : run.chronicle.sentIds.Nodup)
    (id : MessageId) :
    (∃ place, run.chronicle.follow id .unsent = some place ∧
      place.Lies run.queue.store id ∧
      (place = .unsent ↔ id ∉ run.chronicle.sentIds) ∧
      (place = .displaced → UInt64.size < run.chronicle.delivered.length) ∧
      ∀ earlier later ended, run.chronicle = earlier ++ later →
        earlier.follow id .unsent = some ended → ended.isFinal = true → place = ended) ∧
    (∀ earlier between later firstTime secondTime first second firstTimeout secondTimeout
        firstDisplaced secondDisplaced,
      run.chronicle =
        earlier ++ (firstTime, .granted first firstTimeout firstDisplaced) ::
          (between ++ (secondTime, .granted second secondTimeout secondDisplaced) :: later) →
      first.id = id → second.id = id →
      ∃ time lease message, (time, Deed.returned lease message) ∈ between ∧
        lease.message.id = id) ∧
    (∀ time lease message, (time, Deed.returned lease message) ∈ run.chronicle →
      lease.term.isExpired time = false) ∧
    (∀ time lease, (time, Deed.ended lease .lapsed) ∈ run.chronicle →
      lease.term.isExpired time = true) ∧
    ∀ span, (run.further [.pass span]).queue = run.queue ∧
      (run.further [.pass span]).chronicle = run.chronicle := by
  obtain ⟨place, traced⟩ := run.recorded.traced distinct id
  refine ⟨⟨place, traced.followed, traced.lies, traced.unsent_iff, traced.displaced, ?_⟩, ?_, ?_, ?_,
    run.further_pass⟩
  · intro earlier later ended split reached closed
    have followed := traced.followed
    rw [split, Chronicle.follow_append, reached] at followed
    exact Chronicle.follow_of_isFinal followed closed
  · intro earlier between later firstTime secondTime first second firstTimeout secondTimeout
      firstDisplaced secondDisplaced split firstId secondId
    have followed := traced.followed
    rw [split] at followed
    exact Chronicle.returned_between followed firstId secondId
  · intro time lease message member
    obtain ⟨before, after, step⟩ := run.recorded.step_of_mem member
    cases step with
    | returned found running => exact running
  · intro time lease member
    obtain ⟨before, after, step⟩ := run.recorded.step_of_mem member
    cases step with
    | ended found overdue => exact overdue rfl

def Run.handingBack : Run :=
  let first : Message := { id := ⟨1⟩, correlationId := "c", kind := "job", payload := [1] }
  let second : Message := { id := ⟨2⟩, correlationId := "c", kind := "job", payload := [2] }
  { system := {}
    name := "orders"
    settings := {}
    events :=
      [.call 0 (.send first), .call 0 (.send second), .receive 0 (.ofMillis 50), .turn 0, .turn 0,
        .turn 0, .pass (.ofMillis 10), .call 0 (.abandon (first.withToken ⟨0⟩)),
        .call 0 (.take (.ofMillis 50)), .call 0 (.complete (second.withToken ⟨1⟩))] }

theorem message_in_one_place_handingBack :
    Run.handingBack.chronicle.sentIds.Nodup ∧
      ∃ place, Run.handingBack.chronicle.follow ⟨1⟩ .unsent = some place ∧
        place.Lies Run.handingBack.queue.store ⟨1⟩ := by
  have distinct : Run.handingBack.chronicle.sentIds.Nodup := by decide
  obtain ⟨⟨place, followed, lies, _⟩, _⟩ := message_in_one_place Run.handingBack distinct ⟨1⟩
  exact ⟨distinct, place, followed, lies⟩

theorem Run.lapping_sentIds {rounds : Nat} (short : rounds < UInt64.size) :
    (Run.lapping rounds).chronicle.sentIds = [keptMessage.id, turnedMessage.id] := by
  obtain ⟨between, received, displaced, chronicle, kinds⟩ := lapping_chronicle short
  have quiet : Chronicle.sentIds between = [] := by
    rw [Chronicle.sentIds, List.filterMap_eq_nil_iff]
    intro entry member
    rcases kinds entry member with ⟨_, same⟩ | ⟨_, _, same⟩ <;> rw [same]
  rw [chronicle, Chronicle.sentIds_append, Chronicle.sentIds_append, quiet]
  rfl

/-- After `2 ^ 64 + 1` receives a message is neither pending nor leased, and nobody settled it or cleared
it away. -/
theorem kept_message_is_displaced :
    let run := Run.lapping (UInt64.size - 1)
    run.chronicle.sentIds = [Run.keptMessage.id, Run.turnedMessage.id] ∧
      run.chronicle.sentIds.Nodup ∧
      (∀ time lease ending, (time, Deed.ended lease ending) ∉ run.chronicle) ∧
      (∀ time pending leases, (time, Deed.cleared pending leases) ∉ run.chronicle) ∧
      (∀ message ∈ run.queue.store.pending, message.id ≠ Run.keptMessage.id) ∧
      ∀ lease ∈ run.queue.store.leases, lease.message.id ≠ Run.keptMessage.id := by
  have full : UInt64.size - 1 + 1 = UInt64.size := rfl
  have short : UInt64.size - 1 < UInt64.size := Nat.lt_of_succ_le (Nat.le_of_eq full)
  obtain ⟨pending, leased, _⟩ := Run.lapping_full full
  have sent := Run.lapping_sentIds short
  have deeds := Run.lapping_deeds short
  generalize Run.lapping (UInt64.size - 1) = run at pending leased sent deeds
  refine ⟨sent, by rw [sent]; decide, ?_, ?_, by simp [pending], ?_⟩
  · intro time lease ending member
    simpa using deeds _ member
  · intro time pending leases member
    simpa using deeds _ member
  · intro lease member
    have listed := List.mem_map_of_mem (f := fun lease => lease.message.id) member
    rw [leased, List.mem_singleton] at listed
    rw [listed]
    decide

end LeaseQueue
