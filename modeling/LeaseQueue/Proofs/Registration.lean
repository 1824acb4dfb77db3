import LeaseQueue.Scenario
import LeaseQueue.Proofs.Clearing

/-!
Calls on a registry, in steps that nothing can come between. Whoever asks for a queue by its name looks the
name up in one step, builds a queue in another when there is none, and registers it in a third unless
somebody else did so first. A call with nothing between its steps is the registry's own operation.
-/

namespace LeaseQueue

inductive RegistryCall.Outcome where
  | done
  | found (index : Nat)
  | absent
  | refused (fault : Fault)
deriving DecidableEq

/-- Where a call stands. A name that is `missed` was looked up in vain; a queue that is `built` is not
registered yet. `rest` are the names that the call asks for after this one. -/
inductive RegistryCall.Stage where
  | begun
  | seeking (name : String) (rest : List String)
  | missed (name : String) (rest : List String)
  | built (name : String) (index : Nat) (rest : List String)
  | finished (outcome : RegistryCall.Outcome)
deriving DecidableEq

/-- What shows at a step: that it decided which queue a name stands for, or that it took a name off. -/
inductive Registry.Mark where
  | resolved (name : String) (index : Nat)
  | removed (name : String)
deriving DecidableEq

structure Registry.Progress where
  stage : RegistryCall.Stage
  registry : Registry
  system : System
  mark? : Option Registry.Mark := none

namespace RegistryCall

def Stage.next (last : Outcome) : List String → Stage
  | [] => .finished last
  | name :: rest => .seeking name rest

def outcome (call : RegistryCall) (index : Nat) : Outcome :=
  match call with
  | .createConfigured => .done
  | _ => .found index

def begin (call : RegistryCall) (registry : Registry) (system : System) : Registry.Progress :=
  match call with
  | .getOrCreate name => ⟨.next .done [name], registry, system, none⟩
  | .createConfigured =>
    ⟨.next .done (registry.configuration.entries.map Entry.name), registry, system, none⟩
  | .newQueue name settings =>
    let (index, system) := system.addQueue (Queue.ofSettings name settings)
    ⟨.finished (.found index), registry, system, none⟩
  | .create name =>
    match registry.create system name with
    | .error fault => ⟨.finished (.refused fault), registry, system, none⟩
    | .ok (index, system) => ⟨.finished (.found index), registry, system, none⟩
  | .get name =>
    match registry.find? name with
    | some index => ⟨.finished (.found index), registry, system, some (.resolved name index)⟩
    | none => ⟨.finished .absent, registry, system, none⟩
  | .remove name =>
    match registry.find? name with
    | some index => ⟨.finished (.found index), registry.remove name, system, some (.removed name)⟩
    | none => ⟨.finished .absent, registry, system, none⟩
  | .openAll => ⟨.finished .done, registry, registry.openAll system, none⟩
  | .closeAll => ⟨.finished .done, registry, registry.closeAll system, none⟩
  | .inspect => ⟨.finished .done, registry, system, none⟩

def step (call : RegistryCall) (stage : Stage) (registry : Registry) (system : System) :
    Registry.Progress :=
  match stage with
  | .begun => call.begin registry system
  | .seeking name rest =>
    match registry.find? name with
    | some index => ⟨.next (call.outcome index) rest, registry, system, some (.resolved name index)⟩
    | none => ⟨.missed name rest, registry, system, none⟩
  | .missed name rest =>
    match registry.create system name with
    | .error fault => ⟨.finished (.refused fault), registry, system, none⟩
    | .ok (index, system) => ⟨.built name index rest, registry, system, none⟩
  | .built name index rest =>
    let (index, registry) := registry.insertIfAbsent name index
    ⟨.next (call.outcome index) rest, registry, system, some (.resolved name index)⟩
  | .finished outcome => ⟨.finished outcome, registry, system, none⟩

end RegistryCall

/-- A registry, the queues of its process, and the calls on it, numbered as they came. The marks of all
steps so far stand in their order, each with the number of the call. -/
structure Bureau where
  registry : Registry
  system : System := {}
  calls : List (RegistryCall × RegistryCall.Stage) := []
  marks : List (Nat × Registry.Mark) := []

inductive Bureau.Event where
  | call (call : RegistryCall)
  | step (number : Nat)
  | queues (event : System.Event)

namespace Bureau

def stepCall (bureau : Bureau) (number : Nat) (call : RegistryCall) (stage : RegistryCall.Stage) :
    Bureau :=
  let progress := call.step stage bureau.registry bureau.system
  { registry := progress.registry
    system := progress.system
    calls := bureau.calls.set number (call, progress.stage)
    marks := bureau.marks ++ (progress.mark?.map fun mark => (number, mark)).toList }

def after (bureau : Bureau) (event : Event) : Bureau :=
  match event with
  | .call call => { bureau with calls := bureau.calls ++ [(call, .begun)] }
  | .step number =>
    match bureau.calls[number]? with
    | some (call, stage) => bureau.stepCall number call stage
    | none => bureau
  | .queues event => { bureau with system := bureau.system.after event }

def run (bureau : Bureau) (events : List Event) : Bureau := events.foldl after bureau

theorem run_append (bureau : Bureau) (first second : List Event) :
    bureau.run (first ++ second) = (bureau.run first).run second :=
  List.foldl_append

end Bureau

namespace Registry

variable {registry : Registry} {name : String} {index : Nat}

theorem mem_of_find? (found : registry.find? name = some index) :
    (name, index) ∈ registry.entries := by
  obtain ⟨entry, chosen, rfl⟩ := Option.map_eq_some_iff.mp found
  have same : entry.1 = name := by simpa using List.find?_some chosen
  rw [← same]
  exact List.mem_of_find?_eq_some chosen

theorem find?_eq_none_iff : registry.find? name = none ↔ name ∉ registry.entries.map Prod.fst := by
  simp only [find?, Option.map_eq_none_iff, List.find?_eq_none, List.mem_map, beq_iff_eq, not_exists,
    not_and]

theorem find?_remove (registry : Registry) (removed name : String) :
    (registry.remove removed).find? name = if name = removed then none else registry.find? name := by
  simp only [find?, remove, List.find?_filter]
  by_cases same : name = removed
  · rw [if_pos same, Option.map_eq_none_iff, List.find?_eq_none]
    simp [same]
  · rw [if_neg same]
    congr 2
    funext entry
    by_cases named : entry.1 = name <;> simp [named, same]

theorem find?_append (registry : Registry) (added : String) (index : Nat) (name : String) :
    Registry.find? { registry with entries := registry.entries ++ [(added, index)] } name =
      (registry.find? name).or (if added = name then some index else none) := by
  simp only [find?, List.find?_append, Option.map_or]
  congr 1
  by_cases same : added = name <;> simp [same]

theorem build_eq_ok {queue : Queue} (built : registry.build name = .ok queue) :
    queue = Queue.ofSettings name (registry.configuration.settingsFor name) ∧
      ∀ entry, registry.configuration.entry? name = some entry → entry.requireConnection = true →
        entry.connections ≠ [] := by
  unfold build at built
  simp only [] at built
  cases configured : registry.configuration.entry? name with
  | none =>
      rw [configured] at built
      exact ⟨(Except.ok.inj built).symm, by simp⟩
  | some entry =>
      rw [configured] at built
      by_cases required : entry.requireConnection = true
      · by_cases unlisted : entry.connections = []
        · simp [required, unlisted, Descriptor.resolve, Except.map] at built
        · have listed : entry.connections.isEmpty = false := by simpa using unlisted
          simp only [required, if_true, Descriptor.resolve, listed, Except.map, Bool.false_eq_true,
            if_false, Except.ok.injEq] at built
          refine ⟨built.symm, ?_⟩
          rintro other same _
          rwa [← Option.some.inj same]
      · simp only [required, if_false, Bool.false_eq_true, Except.ok.injEq] at built
        refine ⟨built.symm, ?_⟩
        rintro other same needed
        rw [← Option.some.inj same] at needed
        exact absurd needed required

theorem build_of_connected
    (connected : ∀ entry, registry.configuration.entry? name = some entry →
      entry.requireConnection = true → entry.connections ≠ []) :
    registry.build name = .ok (Queue.ofSettings name (registry.configuration.settingsFor name)) := by
  unfold build
  cases configured : registry.configuration.entry? name with
  | none => rfl
  | some entry =>
      by_cases required : entry.requireConnection = true
      · have listed := connected entry configured required
        simp [required, Descriptor.resolve, listed, Except.map]
      · simp [required]

end Registry

def System.Retains (before after : System) : Prop :=
  ∀ index queue, before.queue? index = some queue →
    ∃ next, after.queue? index = some next ∧ next.name = queue.name ∧
      next.settings = queue.settings

namespace System

theorem Retains.refl (system : System) : system.Retains system :=
  fun _ queue held => ⟨queue, held, rfl, rfl⟩

theorem Retains.trans {first second third : System} (one : first.Retains second)
    (two : second.Retains third) : first.Retains third := by
  intro index queue held
  obtain ⟨next, kept, sameName, sameSettings⟩ := one index queue held
  obtain ⟨last, still, nameEq, settingsEq⟩ := two index next kept
  exact ⟨last, still, nameEq.trans sameName, settingsEq.trans sameSettings⟩

theorem retains_after (system : System) (event : Event) : system.Retains (system.after event) := by
  intro index queue held
  refine ⟨queue.performAll system.clock (system.operations event index),
    by rw [after_queue?, held, Option.map_some], ?_, ?_⟩
  · have sameName := congrArg Descriptor.name (queue.after_descriptor
      ((system.operations event index).map fun operation => (system.clock, operation)))
    rwa [Queue.after_map] at sameName
  · rw [← Queue.after_map, Queue.after_settings]

theorem retains_addQueue (system : System) (queue : Queue) :
    system.Retains (system.addQueue queue).2 := by
  intro index held found
  have bound : index < system.queues.length := (List.getElem?_eq_some_iff.mp found).1
  refine ⟨held, ?_, rfl, rfl⟩
  rw [← found]
  exact List.getElem?_append_left bound

theorem addQueue_queue? (system : System) (queue : Queue) :
    (system.addQueue queue).2.queue? (system.addQueue queue).1 = some queue :=
  List.getElem?_concat_length

theorem retains_mapQueues {operation : Queue → Queue} (registry : Registry) (system : System)
    (sameName : ∀ queue, (operation queue).name = queue.name)
    (sameSettings : ∀ queue, (operation queue).settings = queue.settings) :
    system.Retains (registry.mapQueues system operation) := by
  unfold Registry.mapQueues
  generalize registry.entries = entries
  induction entries generalizing system with
  | nil => exact .refl system
  | cons entry rest ih =>
      refine Retains.trans ?_ (ih _)
      simp only []
      cases held : system.queue? entry.2 with
      | none => exact .refl system
      | some queue =>
          intro index other found
          by_cases same : entry.2 = index
          · rw [← same, held] at found
            refine ⟨operation queue, ?_, ?_, ?_⟩
            · simp [setQueue_queue?, ← same, held]
            · rw [sameName, Option.some.inj found]
            · rw [sameSettings, Option.some.inj found]
          · exact ⟨other, by simp [setQueue_queue?, same, found], rfl, rfl⟩

/-- A queue that a name may stand for: it has the name and the settings for it, and the connection that it
requires. -/
def Fits (system : System) (configuration : Configuration) (name : String) (index : Nat) : Prop :=
  (∃ queue, system.queue? index = some queue ∧ queue.name = name ∧
    queue.settings = configuration.settingsFor name) ∧
  ∀ entry, configuration.entry? name = some entry → entry.requireConnection = true →
    entry.connections ≠ []

theorem Fits.retained {before after : System} {configuration : Configuration} {name : String}
    {index : Nat} (fits : before.Fits configuration name index) (retains : before.Retains after) :
    after.Fits configuration name index := by
  obtain ⟨⟨queue, held, named, settled⟩, connected⟩ := fits
  obtain ⟨next, kept, sameName, sameSettings⟩ := retains index queue held
  exact ⟨⟨next, kept, sameName.trans named, sameSettings.trans settled⟩, connected⟩

end System

namespace Registry

variable {registry : Registry} {system next : System} {name : String} {index : Nat}

theorem create_eq_ok (created : registry.create system name = .ok (index, next)) :
    system.Retains next ∧ next.Fits registry.configuration name index := by
  unfold create at created
  cases built : registry.build name with
  | error fault => simp [built, Except.map] at created
  | ok queue =>
      rw [built] at created
      have added : system.addQueue queue = (index, next) := Except.ok.inj created
      obtain ⟨rfl, connected⟩ := build_eq_ok built
      obtain ⟨rfl, rfl⟩ := Prod.mk.inj added
      exact ⟨system.retains_addQueue _, ⟨_, system.addQueue_queue? _, rfl, rfl⟩, connected⟩

theorem getOrCreate_of_new (configuration : Configuration) (system : System) (name : String) :
    ({ configuration } : Registry).getOrCreate system name =
      (({ configuration } : Registry).build name).map fun queue =>
        (system.queues.length, { configuration, entries := [(name, system.queues.length)] },
          (system.addQueue queue).2) := by
  have absent : ({ configuration } : Registry).find? name = none := rfl
  rw [getOrCreate, absent, create]
  cases ({ configuration } : Registry).build name <;> rfl

end Registry

/-- All that a step of a call can do to a registry. -/
inductive Registry.Turn (registry : Registry) (stage : RegistryCall.Stage) :
    Option Registry.Mark → Registry → Prop
  | quiet : Turn registry stage none registry
  | resolved {name : String} {index : Nat} (found : registry.find? name = some index) :
      Turn registry stage (some (.resolved name index)) registry
  | registered {name : String} {index : Nat} {rest : List String}
      (built : stage = .built name index rest) (absent : registry.find? name = none) :
      Turn registry stage (some (.resolved name index))
        { registry with entries := registry.entries ++ [(name, index)] }
  | removed {name : String} {index : Nat} (found : registry.find? name = some index) :
      Turn registry stage (some (.removed name)) (registry.remove name)

namespace RegistryCall

variable (call : RegistryCall) (stage : Stage) (registry : Registry) (system : System)

theorem begin_turn : registry.Turn .begun (call.begin registry system).mark?
    (call.begin registry system).registry := by
  cases call with
  | get name =>
      simp only [begin]
      cases found : registry.find? name with
      | none => exact .quiet
      | some index => exact .resolved found
  | remove name =>
      simp only [begin]
      cases found : registry.find? name with
      | none => exact .quiet
      | some index => exact .removed found
  | create name =>
      simp only [begin]
      split <;> exact .quiet
  | newQueue | getOrCreate | createConfigured | openAll | closeAll | inspect => exact .quiet

theorem step_turn : registry.Turn stage (call.step stage registry system).mark?
    (call.step stage registry system).registry := by
  cases stage with
  | begun => exact call.begin_turn registry system
  | seeking name rest =>
      simp only [step]
      cases found : registry.find? name with
      | none => exact .quiet
      | some index => exact .resolved found
  | missed name rest =>
      simp only [step]
      split <;> exact .quiet
  | built name index rest =>
      simp only [step, Registry.insertIfAbsent]
      cases found : registry.find? name with
      | none => exact .registered rfl found
      | some existing => exact .resolved found
  | finished outcome => exact .quiet

theorem step_retains : system.Retains (call.step stage registry system).system := by
  cases stage with
  | begun =>
      cases call with
      | newQueue name settings => exact system.retains_addQueue _
      | create name =>
          simp only [step, begin]
          split
          · exact .refl system
          · rename_i created
            exact (Registry.create_eq_ok created).1
      | get name | remove name =>
          simp only [step, begin]
          split <;> exact .refl system
      | openAll | closeAll =>
          exact System.retains_mapQueues registry system (fun _ => rfl) fun _ => rfl
      | getOrCreate | createConfigured | inspect => exact .refl system
  | seeking name rest =>
      simp only [step]
      split <;> exact .refl system
  | missed name rest =>
      simp only [step]
      split
      · exact .refl system
      · rename_i created
        exact (Registry.create_eq_ok created).1
  | built | finished => exact .refl system

theorem step_removed {name : String}
    (shown : (call.step stage registry system).mark? = some (.removed name)) :
    call = .remove name ∧
      ∃ index, (call.step stage registry system).stage = .finished (.found index) := by
  cases stage with
  | begun =>
      cases call with
      | remove sought =>
          simp only [step, begin] at shown ⊢
          split at shown
          · rename_i index found
            simp only [Option.some.injEq, Registry.Mark.removed.injEq] at shown
            exact ⟨by rw [shown], index, by simp⟩
          · simp at shown
      | get | create =>
          simp only [step, begin] at shown
          split at shown <;> simp at shown
      | newQueue | getOrCreate | createConfigured | openAll | closeAll | inspect =>
          simp [step, begin] at shown
  | seeking | missed =>
      simp only [step] at shown
      split at shown <;> simp at shown
  | built | finished => simp [step] at shown

theorem Stage.next_ne_built (last : Outcome) (names : List String) {name : String} {index : Nat}
    {rest : List String} : Stage.next last names ≠ .built name index rest := by
  cases names <;> simp [next]

theorem step_built {name : String} {index : Nat} {rest : List String}
    (built : (call.step stage registry system).stage = .built name index rest) :
    (call.step stage registry system).system.Fits registry.configuration name index := by
  cases stage with
  | missed sought later =>
      simp only [step] at built ⊢
      cases created : registry.create system sought with
      | error fault => simp [created] at built
      | ok made =>
          obtain ⟨number, next⟩ := made
          simp only [created, Stage.built.injEq] at built ⊢
          obtain ⟨rfl, rfl, _⟩ := built
          exact (Registry.create_eq_ok created).2
  | begun =>
      simp only [step] at built
      cases call with
      | getOrCreate sought => exact absurd built (Stage.next_ne_built .done [sought])
      | createConfigured =>
          exact absurd built (Stage.next_ne_built .done (registry.configuration.entries.map Entry.name))
      | newQueue | openAll | closeAll | inspect => simp [begin] at built
      | create | get | remove =>
          simp only [begin] at built
          split at built <;> simp at built
  | seeking sought later =>
      simp only [step] at built
      split at built
      · exact absurd built (Stage.next_ne_built _ _)
      · simp at built
  | built sought number later => exact absurd built (Stage.next_ne_built _ _)
  | finished outcome => simp [step] at built

end RegistryCall

namespace RegistryCall

def advance (call : RegistryCall) : (steps : Nat) → Registry.Progress → Registry.Progress
  | 0, progress => progress
  | steps + 1, progress =>
    call.advance steps (call.step progress.stage progress.registry progress.system)

theorem advance_add (call : RegistryCall) (first second : Nat) (progress : Registry.Progress) :
    call.advance (first + second) progress = call.advance second (call.advance first progress) := by
  induction first generalizing progress with
  | zero => rw [Nat.zero_add, advance]
  | succ first ih => rw [Nat.succ_add, advance, advance, ih]

theorem seeking_alone (call : RegistryCall) (name : String) (rest : List String) (registry : Registry)
    (system : System) (mark? : Option Registry.Mark) :
    ∃ steps, call.advance steps ⟨.seeking name rest, registry, system, mark?⟩ =
      match registry.getOrCreate system name with
      | .ok (index, registry, system) =>
        ⟨.next (call.outcome index) rest, registry, system, some (.resolved name index)⟩
      | .error fault => ⟨.finished (.refused fault), registry, system, none⟩ := by
  cases found : registry.find? name with
  | some index => exact ⟨1, by simp [advance, step, found, Registry.getOrCreate]⟩
  | none =>
      cases created : registry.create system name with
      | error fault =>
          exact ⟨2, by simp [advance, step, found, created, Registry.getOrCreate, Except.map]⟩
      | ok made =>
          exact ⟨3, by simp [advance, step, found, created, Registry.getOrCreate, Except.map]⟩

theorem getOrCreate_alone (name : String) (registry : Registry) (system : System) :
    ∃ steps, (getOrCreate name).advance steps ⟨.begun, registry, system, none⟩ =
      match registry.getOrCreate system name with
      | .ok (index, registry, system) =>
        ⟨.finished (.found index), registry, system, some (.resolved name index)⟩
      | .error fault => ⟨.finished (.refused fault), registry, system, none⟩ := by
  obtain ⟨steps, alone⟩ := seeking_alone (.getOrCreate name) name [] registry system none
  exact ⟨steps + 1, alone⟩

theorem createAll_alone (entries : List Entry) (registry : Registry) (system : System)
    (mark? : Option Registry.Mark) :
    ∃ steps shown?, createConfigured.advance steps
        ⟨.next .done (entries.map Entry.name), registry, system, mark?⟩ =
      ⟨.finished ((registry.createAll system entries).1.elim .done .refused),
        (registry.createAll system entries).2.1, (registry.createAll system entries).2.2, shown?⟩ := by
  induction entries generalizing registry system mark? with
  | nil => exact ⟨0, mark?, rfl⟩
  | cons entry rest ih =>
      obtain ⟨first, alone⟩ := seeking_alone .createConfigured entry.name (rest.map Entry.name)
        registry system mark?
      cases found : registry.getOrCreate system entry.name with
      | error fault =>
          rw [found] at alone
          refine ⟨first, none, ?_⟩
          simp only [List.map_cons, Stage.next, alone, Registry.createAll, found, Option.elim_some]
      | ok made =>
          obtain ⟨index, registered, grown⟩ := made
          rw [found] at alone
          obtain ⟨second, shown?, others⟩ := ih registered grown (some (.resolved entry.name index))
          refine ⟨first + second, shown?, ?_⟩
          simp only [List.map_cons, Stage.next, advance_add, alone, Registry.createAll, found]
          exact others

theorem createConfigured_alone (registry : Registry) (system : System) :
    ∃ steps shown?, createConfigured.advance steps ⟨.begun, registry, system, none⟩ =
      ⟨.finished ((registry.createConfigured system).1.elim .done .refused),
        (registry.createConfigured system).2.1, (registry.createConfigured system).2.2, shown?⟩ := by
  obtain ⟨steps, shown?, alone⟩ := createAll_alone registry.configuration.entries registry system none
  exact ⟨steps + 1, shown?, alone⟩

end RegistryCall

theorem Bureau.run_steps {bureau : Bureau} {number : Nat} {call : RegistryCall}
    {stage : RegistryCall.Stage} (present : bureau.calls[number]? = some (call, stage)) (steps : Nat)
    (mark? : Option Registry.Mark) :
    let alone := bureau.run (List.replicate steps (.step number))
    let last := call.advance steps ⟨stage, bureau.registry, bureau.system, mark?⟩
    alone.registry = last.registry ∧ alone.system = last.system ∧
      alone.calls[number]? = some (call, last.stage) := by
  induction steps generalizing bureau stage mark? with
  | zero => exact ⟨rfl, rfl, present⟩
  | succ steps ih =>
      obtain ⟨bound, _⟩ := List.getElem?_eq_some_iff.mp present
      have once : bureau.after (.step number) = bureau.stepCall number call stage := by
        simp only [after, present]
      have stepped : (bureau.stepCall number call stage).calls[number]? =
          some (call, (call.step stage bureau.registry bureau.system).stage) := by
        simp only [stepCall, List.getElem?_set_self bound]
      have whole : bureau.run (List.replicate (steps + 1) (.step number)) =
          (bureau.stepCall number call stage).run (List.replicate steps (.step number)) := by
        rw [← once]
        rfl
      rw [whole]
      exact ih stepped _

end LeaseQueue
