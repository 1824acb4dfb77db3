import LeaseQueue.Proofs.Registration
import Mathlib.Data.List.DropRight

/-!
Validation of configurations. A configuration makes its requirements in a fixed order, and the first that
is not met is the violation that is reported. When all are met, no queue that is built from the
configuration has an interval of length zero, whether its name is configured or not.
-/

namespace LeaseQueue

namespace Text

def trimmed (text : String) : String :=
  String.ofList ((text.toList.dropWhile isBlank).rdropWhile isBlank)

theorem trimmed_eq_empty_iff (text : String) : trimmed text = "" ↔ isBlankText text = true := by
  rw [trimmed, String.ofList_eq_empty_iff, List.rdropWhile_eq_nil_iff, isBlankText, List.all_eq_true]
  constructor
  · intro ends c member
    -- What is left at the front begins with no blank, so it is empty when it holds nothing else.
    have front : text.toList.dropWhile isBlank = [] := by
      cases left : text.toList.dropWhile isBlank with
      | nil => rfl
      | cons first rest =>
          have plain := List.head_dropWhile_not isBlank (l := text.toList) (by simp [left])
          simp only [left, List.head_cons] at plain
          have blank := ends first (by simp [left])
          simp [plain] at blank
    exact List.dropWhile_eq_nil_iff.mp front c member
  · intro blank c member
    exact blank c (List.dropWhile_sublist _ |>.subset member)

end Text

/-- Something that a configuration has to fulfil, and what is reported when it does not. -/
structure Requirement where
  demand : Prop
  violation : Violation

namespace Requirement

/-- The first of some requirements that is not met, in their order. -/
inductive FirstUnmet : List Requirement → Violation → Prop
  | here {requirement : Requirement} (rest : List Requirement) (unmet : ¬ requirement.demand) :
      FirstUnmet (requirement :: rest) requirement.violation
  | later {requirement : Requirement} {rest : List Requirement} {violation : Violation}
      (met : requirement.demand) (next : FirstUnmet rest violation) :
      FirstUnmet (requirement :: rest) violation

/-- A check that passes when all the requirements are met and else reports the first that is not. -/
def DecidedBy (requirements : List Requirement) : Except Violation Unit → Prop
  | .ok () => ∀ requirement ∈ requirements, requirement.demand
  | .error violation => FirstUnmet requirements violation

variable {first second : List Requirement} {violation other : Violation}

theorem FirstUnmet.append_left (unmet : FirstUnmet first violation) (second : List Requirement) :
    FirstUnmet (first ++ second) violation := by
  induction unmet with
  | here rest unmet => exact .here _ unmet
  | later met _ ih => exact .later met ih

theorem FirstUnmet.append_right (met : ∀ requirement ∈ first, requirement.demand)
    (unmet : FirstUnmet second violation) : FirstUnmet (first ++ second) violation := by
  induction first with
  | nil => exact unmet
  | cons requirement rest ih =>
      refine .later (met _ List.mem_cons_self) (ih ?_)
      exact fun other member => met other (List.mem_cons_of_mem _ member)

theorem FirstUnmet.unique (one : FirstUnmet first violation) (two : FirstUnmet first other) :
    violation = other := by
  induction one with
  | here rest unmet =>
      cases two with
      | here => rfl
      | later met => exact absurd met unmet
  | later met _ ih =>
      cases two with
      | here _ unmet => exact absurd met unmet
      | later _ next => exact ih next

theorem FirstUnmet.exists_mem (unmet : FirstUnmet first violation) :
    ∃ requirement ∈ first, requirement.violation = violation := by
  induction unmet with
  | here rest unmet => exact ⟨_, List.mem_cons_self, rfl⟩
  | later _ _ ih =>
      obtain ⟨requirement, member, same⟩ := ih
      exact ⟨requirement, List.mem_cons_of_mem _ member, same⟩

theorem FirstUnmet.not_all_met (unmet : FirstUnmet first violation) :
    ¬ ∀ requirement ∈ first, requirement.demand := by
  intro met
  induction unmet with
  | here rest unmet => exact unmet (met _ List.mem_cons_self)
  | later _ _ ih => exact ih fun other member => met other (List.mem_cons_of_mem _ member)

theorem DecidedBy.single {demand test : Prop} [Decidable test] (exact : test ↔ demand)
    (violation : Violation) :
    DecidedBy [⟨demand, violation⟩] (if test then .ok () else .error violation) := by
  split
  · rename_i passed
    simpa [DecidedBy] using exact.mp passed
  · rename_i failed
    exact .here [] (mt exact.mpr failed)

theorem DecidedBy.append {one two : Except Violation Unit} (before : DecidedBy first one)
    (after : DecidedBy second two) : DecidedBy (first ++ second) (one >>= fun _ => two) := by
  cases one with
  | error violation => exact before.append_left second
  | ok =>
      cases two with
      | error violation => exact after.append_right before
      | ok =>
          intro requirement member
          exact (List.mem_append.mp member).elim (before requirement) (after requirement)

variable {outcome : Except Violation Unit}

theorem DecidedBy.eq_ok_iff (decided : DecidedBy first outcome) :
    outcome = .ok () ↔ ∀ requirement ∈ first, requirement.demand := by
  cases outcome with
  | ok => exact ⟨fun _ => decided, fun _ => rfl⟩
  | error violation => exact ⟨by simp, fun met => absurd met decided.not_all_met⟩

theorem DecidedBy.eq_error_iff (decided : DecidedBy first outcome) :
    outcome = .error violation ↔ FirstUnmet first violation := by
  cases outcome with
  | ok => exact ⟨by simp, fun unmet => absurd decided unmet.not_all_met⟩
  | error found =>
      constructor
      · intro same
        exact Except.error.inj same ▸ decided
      · intro unmet
        rw [FirstUnmet.unique decided unmet]

end Requirement

namespace Settings

/-- A wait for no time at all ends at once, and a loop that waits so never lets time pass. -/
def Positive (settings : Settings) : Prop := 0 < settings.pollMillis ∧ 0 < settings.listenMillis

def requirements (settings : Settings) (scope : String) : List Requirement :=
  [⟨0 < settings.pollMillis, .noPollInterval scope⟩,
    ⟨0 < settings.listenMillis, .noListenInterval scope⟩]

theorem validate_decided (settings : Settings) (scope : String) :
    Requirement.DecidedBy (settings.requirements scope) (settings.validate scope) := by
  unfold validate requirements
  split
  · rename_i unset
    exact .here _ (by simp [unset])
  · rename_i poll
    split
    · rename_i unset
      exact .later (Nat.pos_of_ne_zero poll) (.here _ (by simp [unset]))
    · rename_i listen
      simp [Requirement.DecidedBy, Nat.pos_iff_ne_zero, poll, listen]

theorem requirements_met_iff (settings : Settings) (scope : String) :
    (∀ requirement ∈ settings.requirements scope, requirement.demand) ↔ settings.Positive := by
  simp [requirements, Positive]

end Settings

namespace Configuration

def requirementsOf (configuration : Configuration) (index : Nat) (entry : Entry) : List Requirement :=
  ⟨Text.trimmed entry.name ≠ "", .blankName⟩ ::
    ⟨∀ other ∈ configuration.entries.take index, other.name ≠ entry.name, .duplicateName entry.name⟩ ::
    (entry.over configuration.defaults).requirements ("queue " ++ entry.name)

def requirements (configuration : Configuration) : List Requirement :=
  configuration.defaults.requirements "defaults" ++
    (configuration.entries.mapIdx configuration.requirementsOf).flatten

structure Valid (configuration : Configuration) : Prop where
  defaults : configuration.defaults.Positive
  named : ∀ entry ∈ configuration.entries, Text.trimmed entry.name ≠ ""
  distinct : (configuration.entries.map Entry.name).Nodup
  resolved : ∀ entry ∈ configuration.entries, (entry.over configuration.defaults).Positive

variable {configuration : Configuration}

theorem validateEntries_cons (defaults : Settings) (earlier : List String) (entry : Entry)
    (rest : List Entry) :
    validateEntries defaults earlier (entry :: rest) =
      ((if Text.trimmed entry.name ≠ "" then .ok () else .error .blankName) >>= fun _ =>
        (if entry.name ∉ earlier then .ok () else .error (.duplicateName entry.name)) >>= fun _ =>
        (entry.over defaults).validate ("queue " ++ entry.name) >>= fun _ =>
        validateEntries defaults (entry.name :: earlier) rest) := by
  rw [validateEntries]
  have blank := Text.trimmed_eq_empty_iff entry.name
  cases isBlank : Text.isBlankText entry.name with
  | true => simp [blank.mpr isBlank]; rfl
  | false =>
      have named : Text.trimmed entry.name ≠ "" := fun empty => by simp [blank.mp empty] at isBlank
      by_cases known : entry.name ∈ earlier
      · simp [named, known]; rfl
      · simp [named, known]; rfl

theorem validateEntries_decided (rest earlier : List Entry) (names : List String)
    (split : configuration.entries = earlier ++ rest)
    (same : ∀ name, name ∈ names ↔ ∃ other ∈ earlier, other.name = name) :
    Requirement.DecidedBy
      (rest.mapIdx fun index entry =>
        configuration.requirementsOf (earlier.length + index) entry).flatten
      (validateEntries configuration.defaults names rest) := by
  induction rest generalizing earlier names with
  | nil => simp [validateEntries, Requirement.DecidedBy]
  | cons entry rest ih =>
      have before : configuration.entries.take earlier.length = earlier := by
        rw [split, List.take_left]
      have named : Requirement.DecidedBy [⟨Text.trimmed entry.name ≠ "", .blankName⟩]
          (if Text.trimmed entry.name ≠ "" then .ok () else .error .blankName) :=
        .single Iff.rfl _
      have unnamed : Requirement.DecidedBy
          [⟨∀ other ∈ configuration.entries.take earlier.length, other.name ≠ entry.name,
            .duplicateName entry.name⟩]
          (if entry.name ∉ names then .ok () else .error (.duplicateName entry.name)) :=
        .single (by simp [before, same]) _
      have resolved := (entry.over configuration.defaults).validate_decided ("queue " ++ entry.name)
      have next := ih (earlier ++ [entry]) (entry.name :: names) (by simp [split])
        (by simp [same, or_comm, eq_comm])
      simp only [List.length_append, List.length_singleton, Nat.add_assoc, Nat.add_comm 1] at next
      rw [validateEntries_cons, List.mapIdx_cons, List.flatten_cons]
      exact named.append (unnamed.append (resolved.append next))

theorem validate_decided (configuration : Configuration) :
    Requirement.DecidedBy configuration.requirements configuration.validate := by
  have entries := validateEntries_decided configuration.entries [] [] rfl (by simp)
  simp only [List.length_nil, Nat.zero_add] at entries
  exact (Settings.validate_decided _ _).append entries

theorem distinct_iff (entries : List Entry) :
    (entries.map Entry.name).Nodup ↔ ∀ index, ∀ bound : index < entries.length,
      ∀ other ∈ entries.take index, other.name ≠ entries[index].name := by
  rw [List.Nodup, List.pairwise_map, List.pairwise_iff_getElem]
  constructor
  · rintro distinct index bound other member
    obtain ⟨earlier, within, rfl⟩ := List.mem_take_iff_getElem.mp member
    exact distinct earlier index _ bound (by omega)
  · intro distinct first second _ bound order
    refine distinct second bound _ (List.mem_take_iff_getElem.mpr ⟨first, by omega, rfl⟩)

theorem requirements_met_iff (configuration : Configuration) :
    (∀ requirement ∈ configuration.requirements, requirement.demand) ↔ configuration.Valid := by
  have entries : (∀ requirement ∈ (configuration.entries.mapIdx configuration.requirementsOf).flatten,
      requirement.demand) ↔ ∀ index, ∀ bound : index < configuration.entries.length,
        Text.trimmed configuration.entries[index].name ≠ "" ∧
        (∀ other ∈ configuration.entries.take index,
          other.name ≠ configuration.entries[index].name) ∧
        (configuration.entries[index].over configuration.defaults).Positive := by
    have each (index : Nat) (entry : Entry) :
        (∀ requirement ∈ configuration.requirementsOf index entry, requirement.demand) ↔
          Text.trimmed entry.name ≠ "" ∧
          (∀ other ∈ configuration.entries.take index, other.name ≠ entry.name) ∧
          (entry.over configuration.defaults).Positive := by
      simp only [requirementsOf, List.forall_mem_cons, Settings.requirements_met_iff]
    simp only [List.mem_flatten, List.mem_mapIdx, ← each]
    constructor
    · exact fun met index bound requirement member => met _ ⟨_, ⟨index, bound, rfl⟩, member⟩
    · rintro met requirement ⟨_, ⟨index, bound, rfl⟩, member⟩
      exact met index bound requirement member
  rw [requirements, List.forall_mem_append, Settings.requirements_met_iff, entries]
  constructor
  · rintro ⟨defaults, met⟩
    refine ⟨defaults, ?_, ?_, ?_⟩
    · exact List.forall_mem_iff_getElem.mpr fun index bound => (met index bound).1
    · exact (distinct_iff _).mpr fun index bound => (met index bound).2.1
    · exact List.forall_mem_iff_getElem.mpr fun index bound => (met index bound).2.2
  · rintro ⟨defaults, named, distinct, resolved⟩
    refine ⟨defaults, fun index bound => ?_⟩
    have member := List.getElem_mem bound
    exact ⟨named _ member, (distinct_iff _).mp distinct index bound, resolved _ member⟩

theorem validate_eq_ok_iff (configuration : Configuration) :
    configuration.validate = .ok () ↔ configuration.Valid :=
  configuration.validate_decided.eq_ok_iff.trans configuration.requirements_met_iff

theorem Valid.settingsFor (valid : configuration.Valid) (name : String) :
    (configuration.settingsFor name).Positive := by
  unfold Configuration.settingsFor
  split
  · rename_i entry found
    exact valid.resolved entry (List.mem_of_find?_eq_some found)
  · exact valid.defaults

end Configuration

/-- A configuration passes its check exactly when it is valid, and otherwise the first requirement that it
does not meet is reported. The settings for any name have positive intervals once it passes, and so has
every queue that is built from it. -/
theorem validation_is_exact (configuration : Configuration) :
    (configuration.validate = .ok () ↔ configuration.Valid) ∧
    (∀ violation, configuration.validate = .error violation ↔
      Requirement.FirstUnmet configuration.requirements violation) ∧
    (configuration.validate = .ok () →
      (∀ name, (configuration.settingsFor name).Positive) ∧
      ∀ (registry : Registry) (system next : System) (name : String) (index : Nat),
        registry.configuration = configuration → registry.create system name = .ok (index, next) →
          ∃ queue, next.queue? index = some queue ∧ queue.name = name ∧ queue.settings.Positive) := by
  refine ⟨configuration.validate_eq_ok_iff, fun _ => configuration.validate_decided.eq_error_iff, ?_⟩
  intro passes
  have positive := (configuration.validate_eq_ok_iff.mp passes).settingsFor
  refine ⟨positive, ?_⟩
  rintro registry system next name index rfl created
  obtain ⟨queue, held, named, settings⟩ := (Registry.create_eq_ok created).2.1
  exact ⟨queue, held, named, settings ▸ positive name⟩

end LeaseQueue
