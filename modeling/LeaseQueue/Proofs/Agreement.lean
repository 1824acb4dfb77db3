import LeaseQueue.Proofs.Registration

/-!
What all who call a registry can rely on, whatever comes between the steps of their calls: what a registered
name stands for, and that everybody who asks for it gets the same queue until the name is taken off.
-/

namespace LeaseQueue

def RegistryCall.name? : RegistryCall → Option String
  | .getOrCreate name | .get name => some name
  | _ => none

def Registry.Mark.decision? : Registry.Mark → Option (String × Nat)
  | .resolved name index => some (name, index)
  | .removed _ => none

inductive RegistryCall.Course (name : String) :
    RegistryCall → RegistryCall.Stage → List (String × Nat) → Prop
  | begun (call : RegistryCall) : Course name call .begun []
  | seeking : Course name (.getOrCreate name) (.seeking name []) []
  | missed : Course name (.getOrCreate name) (.missed name []) []
  | built (index : Nat) : Course name (.getOrCreate name) (.built name index []) []
  | found (call : RegistryCall) (index : Nat) :
      Course name call (.finished (.found index)) [(name, index)]
  | absent (call : RegistryCall) : Course name call (.finished .absent) []
  | refused (call : RegistryCall) (fault : Fault) :
      Course name call (.finished (.refused fault)) []

theorem RegistryCall.Course.step {name : String} {call : RegistryCall} {stage : RegistryCall.Stage}
    {own : List (String × Nat)} (course : RegistryCall.Course name call stage own)
    (named : call.name? = some name) (registry : Registry) (system : System) :
    Course name call (call.step stage registry system).stage
      (own ++ ((call.step stage registry system).mark?.bind Registry.Mark.decision?).toList) := by
  cases course with
  | begun =>
      cases call with
      | getOrCreate sought =>
          obtain rfl := Option.some.inj named
          exact .seeking
      | get sought =>
          obtain rfl := Option.some.inj named
          simp only [RegistryCall.step, begin]
          cases registry.find? sought with
          | none => exact .absent _
          | some index => exact .found _ index
      | newQueue | create | remove | createConfigured | openAll | closeAll | inspect =>
          simp [name?] at named
  | seeking =>
      simp only [RegistryCall.step]
      cases registry.find? name with
      | none => exact .missed
      | some index => exact .found _ index
  | missed =>
      simp only [RegistryCall.step]
      cases registry.create system name with
      | error fault => exact .refused _ fault
      | ok made => exact .built made.1
  | built index => exact .found _ _
  | found _ index => exact .found call index
  | absent => exact .absent call
  | refused _ fault => exact .refused call fault

/-- The registry is as the marks tell: a name stands for the queue that was last decided on, unless it was
taken off since, and until then nobody decided otherwise. -/
structure Registry.Follows (registry : Registry) (marks : List Registry.Mark) : Prop where
  latest : ∀ earlier later name index, marks = earlier ++ .resolved name index :: later →
    .removed name ∉ later → registry.find? name = some index
  agree : ∀ earlier between later name one other,
    marks = earlier ++ .resolved name one :: (between ++ .resolved name other :: later) →
    .removed name ∉ between → one = other

namespace Registry

variable {registry next : Registry} {marks : List Mark} {mark : Mark} {stage : RegistryCall.Stage}

theorem Turn.find?_kept (turn : registry.Turn stage (some mark) next) {name : String} {index : Nat}
    (found : registry.find? name = some index) (kept : mark ≠ .removed name) :
    next.find? name = some index := by
  cases turn with
  | resolved => exact found
  | registered => simp [find?_append, found]
  | removed =>
      rw [find?_remove, if_neg, found]
      rintro rfl
      exact kept rfl

theorem Turn.find?_resolved {name : String} {index : Nat}
    (turn : registry.Turn stage (some (.resolved name index)) next) :
    next.find? name = some index ∧ ∀ other, registry.find? name = some other → other = index := by
  cases turn with
  | resolved found =>
      exact ⟨found, fun other same => Option.some.inj (same.symm.trans found)⟩
  | registered built absent => exact ⟨by simp [find?_append, absent], by simp [absent]⟩

theorem Follows.concat (follows : registry.Follows marks) (turn : registry.Turn stage (some mark) next) :
    next.Follows (marks ++ [mark]) := by
  refine ⟨?_, ?_⟩
  · intro earlier later name index split kept
    rcases List.eq_nil_or_concat later with rfl | ⟨others, last, rfl⟩
    · obtain ⟨_, same⟩ := List.append_inj' split rfl
      obtain rfl := List.singleton_inj.mp same
      exact turn.find?_resolved.1
    · have joined : marks ++ [mark] = (earlier ++ .resolved name index :: others) ++ [last] := by
        simpa using split
      obtain ⟨before, same⟩ := List.append_inj' joined rfl
      obtain rfl := List.singleton_inj.mp same
      simp only [List.concat_eq_append, List.mem_append, List.mem_singleton, not_or] at kept
      exact turn.find?_kept (follows.latest earlier others name index before kept.1) (Ne.symm kept.2)
  · intro earlier between later name one other split kept
    rcases List.eq_nil_or_concat later with rfl | ⟨others, last, rfl⟩
    · have joined : marks ++ [mark] =
          (earlier ++ .resolved name one :: between) ++ [.resolved name other] := by simpa using split
      obtain ⟨before, same⟩ := List.append_inj' joined rfl
      obtain rfl := List.singleton_inj.mp same
      exact turn.find?_resolved.2 one (follows.latest earlier between name one before kept)
    · have joined : marks ++ [mark] =
          (earlier ++ .resolved name one :: (between ++ .resolved name other :: others)) ++ [last] := by
        simpa using split
      obtain ⟨before, _⟩ := List.append_inj' joined rfl
      exact follows.agree earlier between others name one other before kept

theorem Turn.distinct {mark? : Option Mark} (turn : registry.Turn stage mark? next)
    (distinct : (registry.entries.map Prod.fst).Nodup) : (next.entries.map Prod.fst).Nodup := by
  cases turn with
  | quiet | resolved => exact distinct
  | registered built absent =>
      rw [List.map_append, List.nodup_append]
      refine ⟨distinct, by simp, ?_⟩
      intro name listed other added
      rw [List.map_singleton, List.mem_singleton] at added
      rw [added]
      rintro rfl
      exact find?_eq_none_iff.mp absent listed
  | removed found => exact (List.filter_sublist.map Prod.fst).nodup distinct

theorem Turn.mem_entries {mark? : Option Mark} (turn : registry.Turn stage mark? next)
    {name : String} {index : Nat} (member : (name, index) ∈ next.entries) :
    (name, index) ∈ registry.entries ∨ ∃ rest, stage = .built name index rest := by
  cases turn with
  | quiet | resolved => exact Or.inl member
  | registered built absent =>
      rcases List.mem_append.mp member with old | new
      · exact Or.inl old
      · obtain ⟨rfl, rfl⟩ := Prod.mk.inj (List.mem_singleton.mp new)
        exact Or.inr ⟨_, built⟩
  | removed found => exact Or.inl (List.mem_filter.mp member).1

theorem Turn.configuration {mark? : Option Mark} (turn : registry.Turn stage mark? next) :
    next.configuration = registry.configuration := by
  cases turn <;> rfl

theorem names_sorted (distinct : (registry.entries.map Prod.fst).Nodup) :
    registry.names.Pairwise (· < ·) := by
  have ordered : registry.names.Pairwise fun first second => decide (first ≤ second) = true := by
    refine List.pairwise_mergeSort ?_ ?_ _
    · intro first second third one two
      exact decide_eq_true (String.le_trans (of_decide_eq_true one) (of_decide_eq_true two))
    · intro first second
      simpa using String.le_total first second
  have different : registry.names.Nodup := (List.mergeSort_perm _ _).nodup_iff.mpr distinct
  refine (ordered.and different).imp ?_
  rintro first second ⟨before, apart⟩
  refine String.not_le.mp fun after => apart ?_
  exact String.le_antisymm (of_decide_eq_true before) after

theorem mem_names {name : String} :
    name ∈ registry.names ↔ ∃ index, registry.find? name = some index := by
  rw [names, List.mem_mergeSort, ← not_iff_not, ← find?_eq_none_iff]
  simp [Option.eq_none_iff_forall_ne_some]

theorem names_length (registry : Registry) : registry.names.length = registry.count := by
  simp [names, count]

end Registry

namespace Bureau

/-- What one call has decided so far: names, with the queues that they stood for. -/
def decisions (bureau : Bureau) (number : Nat) : List (String × Nat) :=
  bureau.marks.filterMap fun entry => if entry.1 = number then entry.2.decision? else none

structure Sound (configuration : Configuration) (bureau : Bureau) : Prop where
  configured : bureau.registry.configuration = configuration
  distinct : (bureau.registry.entries.map Prod.fst).Nodup
  fits : ∀ entry ∈ bureau.registry.entries, bureau.system.Fits configuration entry.1 entry.2
  built : ∀ (number : Nat) (call : RegistryCall) name index rest,
    bureau.calls[number]? = some (call, .built name index rest) →
      bureau.system.Fits configuration name index
  courses : ∀ (number : Nat) (call : RegistryCall) stage name,
    bureau.calls[number]? = some (call, stage) → call.name? = some name →
      call.Course name stage (bureau.decisions number)
  numbered : ∀ entry ∈ bureau.marks, entry.1 < bureau.calls.length
  follows : bureau.registry.Follows (bureau.marks.map Prod.snd)

variable {configuration : Configuration} {bureau : Bureau}

theorem decisions_append (bureau : Bureau) (number other : Nat) (mark? : Option Registry.Mark) :
    decisions { bureau with marks := bureau.marks ++ (mark?.map fun mark => (number, mark)).toList }
        other =
      bureau.decisions other ++
        if number = other then (mark?.bind Registry.Mark.decision?).toList else [] := by
  simp only [decisions, List.filterMap_append]
  congr 1
  cases mark? with
  | none => simp
  | some mark =>
      by_cases same : number = other
      · cases decided : mark.decision? <;> simp [same, decided]
      · simp [same]

theorem decisions_unnumbered (numbered : ∀ entry ∈ bureau.marks, entry.1 < bureau.calls.length) :
    bureau.decisions bureau.calls.length = [] := by
  rw [decisions, List.filterMap_eq_nil_iff]
  intro entry member
  rw [if_neg (Nat.ne_of_lt (numbered entry member))]

theorem Sound.stepCall (sound : bureau.Sound configuration) {number : Nat} {call : RegistryCall}
    {stage : RegistryCall.Stage} (present : bureau.calls[number]? = some (call, stage)) :
    (bureau.stepCall number call stage).Sound configuration := by
  have turn := call.step_turn stage bureau.registry bureau.system
  have retains := call.step_retains stage bureau.registry bureau.system
  obtain ⟨bound, _⟩ := List.getElem?_eq_some_iff.mp present
  -- Either another call's stage, or what this step made of its own.
  have stages {other : Nat} {found : RegistryCall × RegistryCall.Stage}
      (held : (bureau.stepCall number call stage).calls[other]? = some found) :
      (number = other ∧ found = (call, (call.step stage bureau.registry bureau.system).stage)) ∨
        number ≠ other ∧ bureau.calls[other]? = some found := by
    by_cases same : number = other
    · subst same
      simp only [Bureau.stepCall, List.getElem?_set_self bound, Option.some.injEq] at held
      exact Or.inl ⟨rfl, held.symm⟩
    · simp only [Bureau.stepCall, List.getElem?_set_ne same] at held
      exact Or.inr ⟨same, held⟩
  refine ⟨turn.configuration.trans sound.configured, turn.distinct sound.distinct, ?_, ?_, ?_, ?_, ?_⟩
  · rintro ⟨name, index⟩ member
    rcases turn.mem_entries member with old | ⟨rest, built⟩
    · exact (sound.fits _ old).retained retains
    · exact (sound.built number call name index rest (by rw [present, built])).retained retains
  · intro other found name index rest held
    rcases stages held with ⟨_, own⟩ | ⟨_, old⟩
    · rw [← sound.configured]
      exact call.step_built stage _ _ (Prod.mk.inj own).2.symm
    · exact (sound.built other found name index rest old).retained retains
  · intro other found held name heldAt named
    have decided := bureau.decisions_append number other
      (call.step stage bureau.registry bureau.system).mark?
    change (bureau.stepCall number call stage).decisions other = _ at decided
    rw [decided]
    rcases stages heldAt with ⟨rfl, own⟩ | ⟨apart, old⟩
    · obtain ⟨rfl, rfl⟩ := Prod.mk.inj own
      rw [if_pos rfl]
      exact (sound.courses number _ stage name present named).step named _ _
    · rw [if_neg apart, List.append_nil]
      exact sound.courses other found held name old named
  · intro entry member
    simp only [Bureau.stepCall, List.length_set]
    rcases List.mem_append.mp member with old | new
    · exact sound.numbered entry old
    · obtain ⟨mark, _, rfl⟩ := Option.map_eq_some_iff.mp (Option.mem_toList.mp new)
      exact bound
  · simp only [Bureau.stepCall, List.map_append]
    generalize (call.step stage bureau.registry bureau.system).mark? = mark? at turn ⊢
    generalize (call.step stage bureau.registry bureau.system).registry = next at turn ⊢
    cases mark? with
    | none =>
        cases turn with
        | quiet => simpa using sound.follows
    | some mark => exact sound.follows.concat turn

theorem Sound.after (sound : bureau.Sound configuration) (event : Event) :
    (bureau.after event).Sound configuration := by
  cases event with
  | call call =>
      have stages {number : Nat} {found : RegistryCall × RegistryCall.Stage}
          (held : (bureau.calls ++ [(call, .begun)])[number]? = some found) :
          bureau.calls[number]? = some found ∨
            number = bureau.calls.length ∧ found = (call, .begun) := by
        rw [List.getElem?_append] at held
        split at held
        · exact Or.inl held
        · obtain ⟨inside, same⟩ := List.getElem?_eq_some_iff.mp held
          simp only [List.length_singleton, Nat.lt_one_iff] at inside
          exact Or.inr ⟨by omega, by simp [← same]⟩
      refine ⟨sound.configured, sound.distinct, sound.fits, ?_, ?_, ?_, sound.follows⟩
      · intro number found name index rest held
        rcases stages held with old | ⟨_, new⟩
        · exact sound.built number found name index rest old
        · simp at new
      · intro number found stage name held named
        rcases stages held with old | ⟨rfl, new⟩
        · exact sound.courses number found stage name old named
        · obtain ⟨rfl, rfl⟩ := Prod.mk.inj new
          have undecided := decisions_unnumbered sound.numbered
          change RegistryCall.Course name _ _ (bureau.decisions bureau.calls.length)
          rw [undecided]
          exact .begun _
      · intro entry member
        simp only [Bureau.after, List.length_append, List.length_singleton]
        exact Nat.lt_succ_of_lt (sound.numbered entry member)
  | step number =>
      simp only [Bureau.after]
      cases present : bureau.calls[number]? with
      | none => exact sound
      | some held => exact sound.stepCall present
  | queues event =>
      have retains := bureau.system.retains_after event
      exact ⟨sound.configured, sound.distinct,
        fun entry member => (sound.fits entry member).retained retains,
        fun number call name index rest held =>
          (sound.built number call name index rest held).retained retains,
        sound.courses, sound.numbered, sound.follows⟩

theorem Sound.run (sound : bureau.Sound configuration) (events : List Event) :
    (bureau.run events).Sound configuration := by
  induction events generalizing bureau with
  | nil => exact sound
  | cons event rest ih => exact ih (sound.after event)

theorem sound_start (configuration : Configuration) (system : System) :
    Sound configuration { registry := { configuration }, system } :=
  ⟨rfl, List.nodup_nil, by simp, by simp, by simp, by simp, ⟨by simp, by simp⟩⟩

theorem call_after (event : Event) {number : Nat} {call : RegistryCall} {stage : RegistryCall.Stage}
    (present : bureau.calls[number]? = some (call, stage)) :
    ∃ next, (bureau.after event).calls[number]? = some (call, next) ∧
      ∀ outcome, stage = .finished outcome → next = stage := by
  obtain ⟨bound, _⟩ := List.getElem?_eq_some_iff.mp present
  cases event with
  | call added =>
      exact ⟨stage, by simp [after, List.getElem?_append_left bound, present], fun _ _ => rfl⟩
  | queues event => exact ⟨stage, present, fun _ _ => rfl⟩
  | step other =>
      by_cases same : other = number
      · subst same
        refine ⟨(call.step stage bureau.registry bureau.system).stage, ?_, ?_⟩
        · simp only [after, present, stepCall, List.getElem?_set_self bound]
        · rintro outcome rfl
          rfl
      · refine ⟨stage, ?_, fun _ _ => rfl⟩
        simp only [after]
        split
        · simp [stepCall, List.getElem?_set_ne same, present]
        · exact present

theorem call_run (events : List Event) {number : Nat} {call : RegistryCall}
    {stage : RegistryCall.Stage} (present : bureau.calls[number]? = some (call, stage)) :
    ∃ next, (bureau.run events).calls[number]? = some (call, next) ∧
      ∀ outcome, stage = .finished outcome → next = stage := by
  induction events generalizing bureau stage with
  | nil => exact ⟨stage, present, fun _ _ => rfl⟩
  | cons event rest ih =>
      obtain ⟨next, held, closed⟩ := call_after event present
      obtain ⟨last, kept, final⟩ := ih held
      refine ⟨last, kept, fun outcome ended => ?_⟩
      have same := closed outcome ended
      exact (final outcome (same.trans ended)).trans same

theorem Sound.registry_of_refused (sound : bureau.Sound configuration) {number : Nat} {name : String}
    {fault : Fault} {later : List Event}
    (refused : (bureau.run (.step number :: later)).calls[number]? =
      some (.getOrCreate name, .finished (.refused fault))) :
    (bureau.after (.step number)).registry = bureau.registry := by
  cases present : bureau.calls[number]? with
  | none => simp [Bureau.after, present]
  | some held =>
      obtain ⟨call, stage⟩ := held
      obtain ⟨next, stepped, _⟩ := call_after (.step number) present
      obtain ⟨last, kept, final⟩ := call_run later stepped
      obtain ⟨rfl, rfl⟩ := Prod.mk.inj (Option.some.inj (kept.symm.trans refused))
      have own : next = ((RegistryCall.getOrCreate name).step stage bureau.registry
          bureau.system).stage := by
        obtain ⟨bound, _⟩ := List.getElem?_eq_some_iff.mp present
        simp only [Bureau.after, present, Bureau.stepCall, List.getElem?_set_self bound] at stepped
        exact (Prod.mk.inj (Option.some.inj stepped)).2.symm
      simp only [Bureau.after, present, Bureau.stepCall]
      cases stage with
      | begun | finished => rfl
      | seeking sought rest =>
          simp only [RegistryCall.step]
          split <;> rfl
      | missed sought rest =>
          simp only [RegistryCall.step]
          split <;> rfl
      | built sought index rest =>
          -- The only name is registered at this step, so the call is over and returns a queue.
          have course := sound.courses number _ _ name present rfl
          generalize bureau.decisions number = decided at course
          cases course with
          | built =>
              have ended := final _ own
              rw [own] at ended
              simp [RegistryCall.step, RegistryCall.Stage.next, RegistryCall.outcome] at ended

/-- Each removal that shows is that of a call that took a name off and returned its queue. -/
def Attributed (bureau : Bureau) : Prop :=
  ∀ number name, (number, .removed name) ∈ bureau.marks →
    ∃ index, bureau.calls[number]? = some (.remove name, .finished (.found index))

theorem Attributed.after (attributed : bureau.Attributed) (event : Event) :
    (bureau.after event).Attributed := by
  intro number name listed
  have old (member : (number, .removed name) ∈ bureau.marks) :
      ∃ index, (bureau.after event).calls[number]? =
        some (.remove name, .finished (.found index)) := by
    obtain ⟨index, present⟩ := attributed number name member
    obtain ⟨next, kept, closed⟩ := call_after event present
    exact ⟨index, closed _ rfl ▸ kept⟩
  cases event with
  | call | queues => exact old listed
  | step other =>
      cases present : bureau.calls[other]? with
      | none => exact old (by simpa [Bureau.after, present] using listed)
      | some held =>
          obtain ⟨call, stage⟩ := held
          obtain ⟨bound, _⟩ := List.getElem?_eq_some_iff.mp present
          simp only [Bureau.after, present, stepCall, List.mem_append] at listed
          rcases listed with before | new
          · exact old before
          · obtain ⟨mark, shown, same⟩ := Option.map_eq_some_iff.mp (Option.mem_toList.mp new)
            obtain ⟨rfl, rfl⟩ := Prod.mk.inj same
            obtain ⟨rfl, index, ended⟩ := call.step_removed stage _ _ shown
            refine ⟨index, ?_⟩
            simp only [Bureau.after, present, stepCall, List.getElem?_set_self bound, ended]

theorem Attributed.run (attributed : bureau.Attributed) (events : List Event) :
    (bureau.run events).Attributed := by
  induction events generalizing bureau with
  | nil => exact attributed
  | cons event rest ih => exact ih (attributed.after event)

end Bureau

/-- In every run of calls on a registry, whatever comes between their steps, each registered name stands for
a queue of that name with the settings for it, and no name is registered that lacks a connection it
requires. Between two removals of a name all who ask for it and get a queue get the same one, decided at one
step of theirs, whoever else built a queue of his own. A call that ends in a fault changes nothing in the
registry. The names are listed in ascending order, each once. -/
theorem registered_names_stand (configuration : Configuration) (system : System)
    (events : List Bureau.Event) :
    let start : Bureau := { registry := { configuration }, system }
    let bureau := start.run events
    (∀ name index, bureau.registry.find? name = some index →
      ∃ queue, bureau.system.queue? index = some queue ∧ queue.name = name ∧
        queue.settings = configuration.settingsFor name) ∧
    (∀ name entry, configuration.entry? name = some entry → entry.requireConnection = true →
      entry.connections = [] → bureau.registry.find? name = none) ∧
    (∀ earlier between later first second name one other,
      bureau.marks = earlier ++ (first, .resolved name one) ::
        (between ++ (second, .resolved name other) :: later) →
      (∀ number, (number, .removed name) ∉ between) → one = other) ∧
    (∀ number name, (number, .removed name) ∈ bureau.marks →
      ∃ index, bureau.calls[number]? = some (.remove name, .finished (.found index))) ∧
    (∀ (number : Nat) (call : RegistryCall) name index,
      bureau.calls[number]? = some (call, .finished (.found index)) → call.name? = some name →
        bureau.decisions number = [(name, index)]) ∧
    (∀ earlier later number name fault, events = earlier ++ .step number :: later →
      bureau.calls[number]? = some (.getOrCreate name, .finished (.refused fault)) →
        (start.run (earlier ++ [.step number])).registry = (start.run earlier).registry) ∧
    bureau.registry.names.Pairwise (· < ·) ∧
    (∀ name, name ∈ bureau.registry.names ↔ ∃ index, bureau.registry.find? name = some index) ∧
    bureau.registry.names.length = bureau.registry.count := by
  intro start bureau
  have begun : start.Sound configuration := Bureau.sound_start configuration system
  have sound : bureau.Sound configuration := begun.run events
  have attributed : start.Attributed := by simp [Bureau.Attributed, start]
  refine ⟨?_, ?_, ?_, attributed.run events, ?_, ?_, Registry.names_sorted sound.distinct,
    fun _ => Registry.mem_names, bureau.registry.names_length⟩
  · exact fun name index found => (sound.fits _ (Registry.mem_of_find? found)).1
  · intro name entry configured required unlisted
    rw [Registry.find?_eq_none_iff]
    intro registered
    obtain ⟨⟨_, index⟩, member, rfl⟩ := List.mem_map.mp registered
    exact (sound.fits _ member).2 entry configured required unlisted
  · intro earlier between later first second name one other split kept
    have marks := congrArg (List.map Prod.snd) split
    simp only [List.map_append, List.map_cons] at marks
    refine sound.follows.agree _ _ _ name one other marks ?_
    intro removed
    obtain ⟨⟨number, _⟩, member, rfl⟩ := List.mem_map.mp removed
    exact kept number member
  · intro number call name index present named
    have course := sound.courses number call _ name present named
    generalize bureau.decisions number = decided at course ⊢
    cases course with
    | found => rfl
  · intro earlier later number name fault split refused
    have before : (start.run earlier).Sound configuration := begun.run earlier
    have whole : bureau = (start.run earlier).run (.step number :: later) := by
      rw [← Bureau.run_append, ← split]
    rw [whole] at refused
    rw [Bureau.run_append]
    exact before.registry_of_refused refused

theorem registered_names_stand_racing :
    let caller := RegistryCall.getOrCreate "orders"
    let race := Bureau.run { registry := {} }
      [.call caller, .call caller, .step 0, .step 1, .step 0, .step 1, .step 0, .step 1, .step 1, .step 0]
    race.system.queues.length = 2 ∧ race.decisions 0 = [("orders", 1)] ∧
      race.decisions 1 = [("orders", 1)] ∧
      ∃ queue, race.system.queue? 1 = some queue ∧ queue.name = "orders" ∧ queue.settings = {} := by
  intro caller race
  obtain ⟨stand, -⟩ := registered_names_stand {} {}
    [.call caller, .call caller, .step 0, .step 1, .step 0, .step 1, .step 0, .step 1, .step 1, .step 0]
  exact ⟨by decide, by decide, by decide, stand "orders" 1 (by decide)⟩

namespace Bureau

variable {configuration : Configuration} {bureau : Bureau}

theorem run_alone (bureau : Bureau) (call : RegistryCall) (steps : Nat) :
    let alone := bureau.run (.call call :: List.replicate steps (.step bureau.calls.length))
    let last := call.advance steps ⟨.begun, bureau.registry, bureau.system, none⟩
    alone.registry = last.registry ∧ alone.system = last.system ∧
      alone.calls[bureau.calls.length]? = some (call, last.stage) := by
  have present : (bureau.after (.call call)).calls[bureau.calls.length]? = some (call, .begun) := by
    simp [after]
  exact run_steps present steps none

theorem getOrCreate_whole (bureau : Bureau) (name : String) :
    ∃ events, match bureau.registry.getOrCreate bureau.system name with
      | .ok (index, registry, system) =>
        (bureau.run events).registry = registry ∧ (bureau.run events).system = system ∧
          (bureau.run events).calls[bureau.calls.length]? =
            some (.getOrCreate name, .finished (.found index))
      | .error fault =>
        (bureau.run events).registry = bureau.registry ∧
          (bureau.run events).calls[bureau.calls.length]? =
            some (.getOrCreate name, .finished (.refused fault)) := by
  obtain ⟨steps, alone⟩ := RegistryCall.getOrCreate_alone name bureau.registry bureau.system
  obtain ⟨registered, system, ended⟩ := bureau.run_alone (.getOrCreate name) steps
  rw [alone] at registered system ended
  refine ⟨.call (.getOrCreate name) :: List.replicate steps (.step bureau.calls.length), ?_⟩
  cases called : bureau.registry.getOrCreate bureau.system name with
  | ok made =>
      rw [called] at registered system ended
      exact ⟨registered, system, ended⟩
  | error fault =>
      rw [called] at registered ended
      exact ⟨registered, ended⟩

theorem createConfigured_whole (bureau : Bureau) :
    ∃ events, (bureau.run events).registry = (bureau.registry.createConfigured bureau.system).2.1 ∧
      (bureau.run events).system = (bureau.registry.createConfigured bureau.system).2.2 := by
  obtain ⟨steps, shown?, alone⟩ :=
    RegistryCall.createConfigured_alone bureau.registry bureau.system
  obtain ⟨registered, system, -⟩ := bureau.run_alone .createConfigured steps
  rw [alone] at registered system
  exact ⟨_, registered, system⟩

theorem Sound.fits_of_find? (sound : bureau.Sound configuration) {name : String} {index : Nat}
    (found : bureau.registry.find? name = some index) :
    bureau.system.Fits configuration name index :=
  sound.fits _ (Registry.mem_of_find? found)

end Bureau

theorem Registry.find?_of_getOrCreate {registry next : Registry} {system grown : System}
    {name : String} {index : Nat}
    (called : registry.getOrCreate system name = .ok (index, next, grown)) :
    next.find? name = some index := by
  unfold getOrCreate at called
  cases found : registry.find? name with
  | some existing =>
      simp only [found, Except.ok.injEq, Prod.mk.injEq] at called
      obtain ⟨rfl, rfl, rfl⟩ := called
      exact found
  | none =>
      cases created : registry.create system name with
      | error fault => simp [found, created, Except.map] at called
      | ok made =>
          simp only [found, created, Except.map, insertIfAbsent, Except.ok.injEq,
            Prod.mk.injEq] at called
          obtain ⟨rfl, rfl, rfl⟩ := called
          simp [find?_append, found]

/-- The registry's own operations keep to the same law: after any run of calls, the one that is asked for a
queue returns the one that the name stands for from then on, and every name that it or the one that makes
all configured queues leaves in the registry stands for a queue that fits it. -/
theorem whole_calls_stand (configuration : Configuration) (system : System)
    (events : List Bureau.Event) :
    let bureau := Bureau.run { registry := { configuration }, system } events
    let made := bureau.registry.createConfigured bureau.system
    (∀ name index registry grown,
      bureau.registry.getOrCreate bureau.system name = .ok (index, registry, grown) →
        registry.find? name = some index ∧ ∀ other number, registry.find? other = some number →
          grown.Fits configuration other number) ∧
    ∀ name index, made.2.1.find? name = some index → made.2.2.Fits configuration name index := by
  intro bureau made
  have sound : bureau.Sound configuration :=
    (Bureau.sound_start configuration system).run events
  refine ⟨?_, ?_⟩
  · intro name index registry grown called
    obtain ⟨later, whole⟩ := bureau.getOrCreate_whole name
    rw [called] at whole
    obtain ⟨rfl, rfl, ended⟩ := whole
    exact ⟨Registry.find?_of_getOrCreate called,
      fun other number found => (sound.run later).fits_of_find? found⟩
  · intro name index found
    obtain ⟨later, registered, grown⟩ := bureau.createConfigured_whole
    have kept := (sound.run later).fits_of_find? (registered ▸ found)
    rwa [grown] at kept

end LeaseQueue
