import LeaseQueue.Proofs.Validation
import LeaseQueue.Settings.Load
import Mathlib.Data.Nat.Digits.Defs

/-!
Where settings come from. What is set for a queue is looked for in layers: in the entry for its name, in
the environment, in the table of defaults of the document, and at last in what is built in. Validation
judges what the layers come to, and not what the document says.
-/

namespace LeaseQueue

namespace Text

/-- A text that writes a number of 64 bits: decimal digits, perhaps after a plus sign. -/
def Writes (text : String) (number : Nat) : Prop :=
  ∃ digits : List Char,
    (text.toList = digits ∨ text.toList = '+' :: digits) ∧ digits ≠ [] ∧
    (∀ c ∈ digits, c.isDigit = true) ∧
    Nat.ofDigits 10 (digits.reverse.map fun c => c.toNat - '0'.toNat) = number ∧ number < 2 ^ 64

theorem natOfDigits_eq (digits : List Char) :
    natOfDigits digits = Nat.ofDigits 10 (digits.reverse.map fun c => c.toNat - '0'.toNat) := by
  induction digits using List.reverseRecOn with
  | nil => rfl
  | append_singleton earlier last ih =>
      rw [List.reverse_concat, List.map_cons, Nat.ofDigits_cons, ← ih, natOfDigits, natOfDigits,
        List.foldl_concat]
      ring

theorem boundedDigits?_eq_some {most number : Nat} {digits : List Char} :
    boundedDigits? most digits = some number ↔
      digits ≠ [] ∧ (∀ c ∈ digits, c.isDigit = true) ∧ natOfDigits digits = number ∧ number ≤ most := by
  unfold boundedDigits?
  split
  · rename_i fits
    simp only [Option.some.injEq, List.all_eq_true] at fits ⊢
    exact ⟨fun same => ⟨fits.1, fits.2.1, same, same ▸ fits.2.2⟩, fun found => found.2.2.1⟩
  · rename_i strange
    simp only [List.all_eq_true] at strange
    simp only [reduceCtorEq, false_iff]
    rintro ⟨some, digit, rfl, fits⟩
    exact strange ⟨some, digit, fits⟩

theorem nat64?_eq_some_iff (text : String) (number : Nat) :
    nat64? text = some number ↔ Writes text number := by
  have size : number ≤ most64 ↔ number < 2 ^ 64 := Nat.le_sub_one_iff_lt (by decide)
  unfold nat64? bounded? Writes
  simp only [← natOfDigits_eq, ← size]
  split
  · rename_i digits signed
    rw [boundedDigits?_eq_some, signed]
    constructor
    · exact fun found => ⟨digits, .inr rfl, found⟩
    · rintro ⟨others, rfl | same, found⟩
      · exact absurd (found.2.1 '+' List.mem_cons_self) (by decide)
      · exact (List.cons.inj same).2 ▸ found
  · rename_i unsigned
    rw [boundedDigits?_eq_some]
    constructor
    · exact fun found => ⟨text.toList, .inl rfl, found⟩
    · rintro ⟨digits, rfl | signed, found⟩
      · exact found
      · exact absurd signed (unsigned digits)

end Text

/-- What a layer sets. The rest is left to the layers below it. -/
structure Layer where
  pollMillis : Option Nat := none
  listenMillis : Option Nat := none
  peekPolicy : Option PeekPolicy := none
  renewPolicy : Option RenewPolicy := none
deriving DecidableEq

def Layer.over (layer : Layer) (below : Settings) : Settings :=
  { pollMillis := layer.pollMillis.getD below.pollMillis
    listenMillis := layer.listenMillis.getD below.listenMillis
    peekPolicy := layer.peekPolicy.getD below.peekPolicy
    renewPolicy := layer.renewPolicy.getD below.renewPolicy }

namespace Layer

def ofToml? (value : Toml.Value) : Option Layer := do
  let [poll, listen, peek, renew] ← value.record? Settings.fieldNames | none
  some
    { pollMillis := ← poll.mapM (Toml.Value.nat? Text.most64)
      listenMillis := ← listen.mapM (Toml.Value.nat? Text.most64)
      peekPolicy := ← peek.mapM PeekPolicy.ofToml?
      renewPolicy := ← renew.mapM RenewPolicy.ofToml? }

theorem elim_eq_mapM {α β : Type} (field : Option α) (read : α → Option β) (usual : β) :
    field.elim (some usual) read = (field.mapM read).map fun found => found.getD usual := by
  cases field with
  | none => rfl
  | some value => cases found : read value <;> simp [found]

theorem settings_ofToml? (value : Toml.Value) :
    Settings.ofToml? value = (ofToml? value).map fun layer => layer.over {} := by
  unfold Settings.ofToml? ofToml?
  cases value.record? Settings.fieldNames with
  | none => rfl
  | some fields =>
      rcases fields with _ | ⟨poll, _ | ⟨listen, _ | ⟨peek, _ | ⟨renew, _ | ⟨extra, others⟩⟩⟩⟩⟩
      case cons.cons.cons.cons.nil =>
        simp only [Option.bind_eq_bind, Option.bind_some, elim_eq_mapM, Option.bind_map,
          Option.map_bind, Function.comp_def, Option.map_some]
        rfl
      all_goals rfl

end Layer

def Entry.layer (entry : Entry) : Layer :=
  { pollMillis := entry.pollMillis, listenMillis := entry.listenMillis,
    peekPolicy := entry.peekPolicy, renewPolicy := entry.renewPolicy }

inductive Layer.Named (entries : List Entry) (name : String) : Layer → Prop
  | only {entry : Entry} (found : (entries.filter fun entry => entry.name == name) = [entry]) :
      Named entries name entry.layer
  | absent (unnamed : ∀ entry ∈ entries, entry.name ≠ name) : Named entries name {}

structure Surroundings.Sets (surroundings : Surroundings) (layer : Layer) : Prop where
  poll : Option.Rel Text.Writes (surroundings.valueOf? Configuration.pollVariable) layer.pollMillis
  listen : Option.Rel Text.Writes (surroundings.valueOf? Configuration.listenVariable) layer.listenMillis
  peek : layer.peekPolicy = none
  renew : layer.renewPolicy = none

namespace Configuration

def table? (text : String) : Option Layer := do
  let document ← Toml.read? text
  let [defaults, _, _] ← document.record? fieldNames | none
  defaults.elim (some {}) Layer.ofToml?

theorem defaults_of_read? {text : String} {written : Configuration} (reads : read? text = some written) :
    ∃ table, table? text = some table ∧ written.defaults = table.over {} := by
  unfold read? ofToml? at reads
  unfold table?
  obtain ⟨document, parsed, decoded⟩ := Option.bind_eq_some_iff.mp reads
  cases fields : document.record? fieldNames with
  | none => simp [fields] at decoded
  | some found =>
      simp only [fields, Option.bind_eq_bind, Option.bind_some] at decoded
      split at decoded
      · rename_i defaults logging queues
        obtain ⟨settings, tabled, decoded⟩ := Option.bind_eq_some_iff.mp decoded
        obtain ⟨level, -, decoded⟩ := Option.bind_eq_some_iff.mp decoded
        obtain ⟨entries, -, decoded⟩ := Option.bind_eq_some_iff.mp decoded
        obtain rfl := Option.some.inj decoded
        simp only [parsed, fields, Option.bind_eq_bind, Option.bind_some]
        cases defaults with
        | none => exact ⟨{}, rfl, (Option.some.inj tabled).symm⟩
        | some value =>
            rw [Option.elim_some, Layer.settings_ofToml?] at tabled
            obtain ⟨layer, read, same⟩ := Option.map_eq_some_iff.mp tabled
            exact ⟨layer, read, same.symm⟩
      · contradiction

def under (written : Configuration) (layer : Layer) (level? : Option String) : Configuration :=
  { written with
    defaults := layer.over written.defaults
    logLevel := level?.getD written.logLevel }

/-- Why a configuration is not loaded, by the first stage that fails. -/
inductive Refuses (surroundings : Surroundings) (written : Configuration) : LoadError → Prop
  | poll {value : String} (set : surroundings.valueOf? pollVariable = some value)
      (strange : ∀ number, ¬ Text.Writes value number) :
      Refuses surroundings written (.badVariable pollVariable)
  | listen {poll? : Option Nat} {value : String}
      (poll : Option.Rel Text.Writes (surroundings.valueOf? pollVariable) poll?)
      (set : surroundings.valueOf? listenVariable = some value)
      (strange : ∀ number, ¬ Text.Writes value number) :
      Refuses surroundings written (.badVariable listenVariable)
  | invalid {layer : Layer} {violation : Violation} (sets : surroundings.Sets layer)
      (unmet : Requirement.FirstUnmet
        (written.under layer (surroundings.valueOf? levelVariable)).requirements violation) :
      Refuses surroundings written (.invalid violation)

section Override

variable {lookup : String → Option String} {name : String} {found : Option Nat}

theorem override?_eq_ok :
    override? lookup name = .ok found ↔ Option.Rel Text.Writes (lookup name) found := by
  unfold override?
  cases lookup name with
  | none =>
      constructor
      · rintro ⟨⟩
        exact .none
      · rintro ⟨⟩
        rfl
  | some text =>
      have exact (number : Nat) := Text.nat64?_eq_some_iff text number
      constructor
      · intro read
        cases said : Text.nat64? text with
        | none => simp [said] at read
        | some number =>
            simp only [said, Except.ok.injEq] at read
            exact read ▸ .some ((exact number).mp said)
      · rintro ⟨written⟩
        simp only [(exact _).mpr written]

theorem override?_eq_error {error : LoadError} (failed : override? lookup name = .error error) :
    error = .badVariable name ∧
      ∃ value, lookup name = some value ∧ ∀ number, ¬ Text.Writes value number := by
  unfold override? at failed
  split at failed
  · contradiction
  · rename_i text set
    split at failed
    · contradiction
    · rename_i strange
      obtain rfl := Except.error.inj failed
      refine ⟨rfl, text, set, fun number written => ?_⟩
      simp [(Text.nat64?_eq_some_iff _ _).mpr written] at strange

end Override

theorem override_eq (surroundings : Surroundings) (written : Configuration) {layer : Layer}
    (sets : surroundings.Sets layer) :
    written.override surroundings.valueOf? =
      (written.under layer (surroundings.valueOf? levelVariable), none) := by
  obtain ⟨poll, listen, peek, renew⟩ := sets
  cases layer
  simp only at poll listen peek renew
  subst peek renew
  simp only [override, override?_eq_ok.mpr poll, override?_eq_ok.mpr listen, Prod.mk.injEq, and_true]
  rename_i poll? listen?
  cases poll? <;> cases listen? <;> cases surroundings.valueOf? levelVariable <;> rfl

theorem override_refuses (surroundings : Surroundings) (written : Configuration)
    (unset : ¬ ∃ layer, surroundings.Sets layer) :
    ∃ error, (written.override surroundings.valueOf?).2 = some error ∧
      Refuses surroundings written error := by
  unfold override
  cases poll : override? surroundings.valueOf? pollVariable with
  | error error =>
      obtain ⟨rfl, value, set, strange⟩ := override?_eq_error poll
      exact ⟨_, rfl, .poll set strange⟩
  | ok poll? =>
      rw [override?_eq_ok] at poll
      cases listen : override? surroundings.valueOf? listenVariable with
      | error error =>
          obtain ⟨rfl, value, set, strange⟩ := override?_eq_error listen
          exact ⟨_, rfl, .listen poll set strange⟩
      | ok listen? =>
          rw [override?_eq_ok] at listen
          exact absurd ⟨⟨poll?, listen?, none, none⟩, poll, listen, rfl, rfl⟩ unset

end Configuration

theorem Text.Writes.unique {text : String} {one two : Nat} (first : Writes text one)
    (second : Writes text two) : one = two := by
  rw [← nat64?_eq_some_iff] at first second
  exact Option.some.inj (first.symm.trans second)

theorem Surroundings.Sets.unique {surroundings : Surroundings} {one two : Layer}
    (first : surroundings.Sets one) (second : surroundings.Sets two) : one = two := by
  have same {value? : Option String} {one two : Option Nat} (first : Option.Rel Text.Writes value? one)
      (second : Option.Rel Text.Writes value? two) : one = two := by
    cases first with
    | none => cases second; rfl
    | some written =>
        cases second with
        | some again => rw [written.unique again]
  cases one
  cases two
  simp only [Layer.mk.injEq]
  exact ⟨same first.poll second.poll, same first.listen second.listen,
    first.peek.trans second.peek.symm, first.renew.trans second.renew.symm⟩

theorem Text.not_strange {value? : Option String} {number? : Option Nat} {value : String}
    (written : Option.Rel Writes value? number?) (set : value? = some value) :
    ¬ ∀ number, ¬ Writes value number := by
  intro strange
  subst set
  cases written with
  | some said => exact strange _ said

namespace Configuration

variable {surroundings : Surroundings} {written : Configuration} {layer : Layer} {error other : LoadError}

theorem Refuses.not_valid (refuses : Refuses surroundings written error) (sets : surroundings.Sets layer) :
    ¬ (written.under layer (surroundings.valueOf? levelVariable)).Valid := by
  intro valid
  cases refuses with
  | poll set strange => exact Text.not_strange sets.poll set strange
  | listen _ set strange => exact Text.not_strange sets.listen set strange
  | invalid again unmet =>
      rw [again.unique sets] at unmet
      exact unmet.not_all_met ((requirements_met_iff _).mpr valid)

theorem Refuses.unique (one : Refuses surroundings written error)
    (two : Refuses surroundings written other) : error = other := by
  cases one with
  | poll set strange =>
      cases two with
      | poll => rfl
      | listen poll => exact (Text.not_strange poll set strange).elim
      | invalid sets => exact (Text.not_strange sets.poll set strange).elim
  | listen poll set strange =>
      cases two with
      | poll unset odd => exact (Text.not_strange poll unset odd).elim
      | listen => rfl
      | invalid sets => exact (Text.not_strange sets.listen set strange).elim
  | invalid sets unmet =>
      cases two with
      | poll set strange => exact (Text.not_strange sets.poll set strange).elim
      | listen _ set strange => exact (Text.not_strange sets.listen set strange).elim
      | invalid again also =>
          rw [again.unique sets] at also
          rw [unmet.unique also]

theorem loadText_decided (surroundings : Surroundings) {text : String} (reads : read? text = some written) :
    match loadText surroundings.valueOf? text with
    | .ok loaded => ∃ layer, surroundings.Sets layer ∧
        loaded = written.under layer (surroundings.valueOf? levelVariable) ∧ loaded.Valid
    | .error error => Refuses surroundings written error := by
  unfold loadText
  simp only [reads]
  by_cases set : ∃ layer, surroundings.Sets layer
  · obtain ⟨layer, sets⟩ := set
    rw [override_eq surroundings written sets]
    have decided := (written.under layer (surroundings.valueOf? levelVariable)).validate_decided
    cases checked : (written.under layer (surroundings.valueOf? levelVariable)).validate with
    | ok =>
        rw [checked] at decided
        simp only [checked]
        exact ⟨layer, sets, rfl, (requirements_met_iff _).mp decided⟩
    | error violation =>
        rw [checked] at decided
        simp only [checked]
        exact .invalid sets decided
  · obtain ⟨error, stopped, refuses⟩ := override_refuses surroundings written set
    cases reached : written.override surroundings.valueOf? with
    | mk partly fault =>
        obtain rfl : fault = some error := by simpa [reached] using stopped
        exact refuses

theorem filter_eq_of_find? {entries : List Entry} {name : String} {entry : Entry}
    (distinct : (entries.map Entry.name).Nodup)
    (found : entries.find? (fun entry => entry.name == name) = some entry) :
    (entries.filter fun entry => entry.name == name) = [entry] := by
  induction entries with
  | nil => contradiction
  | cons first rest ih =>
      obtain ⟨fresh, distinct⟩ := List.nodup_cons.mp distinct
      by_cases named : first.name = name
      · have others : (rest.filter fun entry => entry.name == name) = [] := by
          simp only [List.filter_eq_nil_iff, beq_iff_eq]
          exact fun other member same => fresh (List.mem_map.mpr ⟨other, member, same.trans named.symm⟩)
        simp only [List.find?_cons, named, BEq.rfl, Option.some.injEq] at found
        subst found
        simp [named, others]
      · simp only [List.find?_cons, beq_false_of_ne named] at found
        simp [named, ih distinct found]

theorem settingsFor_eq (configuration : Configuration) (name : String)
    (distinct : (configuration.entries.map Entry.name).Nodup) :
    ∃ layer, Layer.Named configuration.entries name layer ∧
      configuration.settingsFor name = layer.over configuration.defaults := by
  unfold settingsFor
  split
  · rename_i entry found
    exact ⟨entry.layer, .only (filter_eq_of_find? distinct found), rfl⟩
  · rename_i unnamed
    refine ⟨{}, .absent fun entry member named => ?_, rfl⟩
    simpa [named] using List.find?_eq_none.mp unnamed entry member

theorem requirementsOf_scope {configuration : Configuration} {index : Nat} {entry : Entry}
    {requirement : Requirement} (member : requirement ∈ configuration.requirementsOf index entry) :
    requirement.violation ≠ .noPollInterval "defaults" ∧
      requirement.violation ≠ .noListenInterval "defaults" := by
  -- The scope of an entry begins with another letter.
  have scope : "queue " ++ entry.name ≠ "defaults" := by
    intro same
    have letters := congrArg String.toList same
    simp at letters
  simp only [requirementsOf, Settings.requirements, List.mem_cons, List.not_mem_nil, or_false] at member
  rcases member with rfl | rfl | rfl | rfl <;> simp [scope]

theorem defaults_reported (configuration : Configuration) :
    (Requirement.FirstUnmet configuration.requirements (.noPollInterval "defaults") ↔
      configuration.defaults.pollMillis = 0) ∧
    (Requirement.FirstUnmet configuration.requirements (.noListenInterval "defaults") ↔
      0 < configuration.defaults.pollMillis ∧ configuration.defaults.listenMillis = 0) := by
  have others {violation : Violation} (unmet : Requirement.FirstUnmet
      (configuration.entries.mapIdx configuration.requirementsOf).flatten violation) :
      violation ≠ .noPollInterval "defaults" ∧ violation ≠ .noListenInterval "defaults" := by
    obtain ⟨requirement, member, rfl⟩ := unmet.exists_mem
    obtain ⟨requirements, found, member⟩ := List.mem_flatten.mp member
    obtain ⟨index, bound, rfl⟩ := List.mem_mapIdx.mp found
    exact requirementsOf_scope member
  refine ⟨⟨?_, ?_⟩, ?_, ?_⟩
  · rintro (⟨_, poll⟩ | ⟨-, ⟨⟩ | ⟨-, next⟩⟩)
    · exact Nat.eq_zero_of_not_pos poll
    · exact ((others next).1 rfl).elim
  · intro zero
    exact .here _ (by simp [zero])
  · rintro (⟨⟩ | ⟨poll, ⟨_, listen⟩ | ⟨-, next⟩⟩)
    · exact ⟨poll, Nat.eq_zero_of_not_pos listen⟩
    · exact ((others next).2 rfl).elim
  · rintro ⟨poll, zero⟩
    exact .later poll (.here _ (by simp [zero]))

end Configuration

/-- A document is loaded exactly when the variables for intervals that are set hold numbers and the
configuration under the environment is valid, and otherwise the first of the three stages that fails is
reported. A queue then has each setting from the nearest layer that sets it. -/
theorem nearest_layer_decides (surroundings : Surroundings) (path : String) {text : String}
    {written : Configuration} (file : (surroundings.file? path).bind Text.Utf8.decode? = some text)
    (reads : Configuration.read? text = some written) :
    ∃ table, Configuration.table? text = some table ∧
      (∀ loaded, Configuration.load surroundings path = .ok loaded ↔
        ∃ environment, surroundings.Sets environment ∧
          loaded = written.under environment (surroundings.valueOf? Configuration.levelVariable) ∧
          loaded.Valid) ∧
      (∀ error, Configuration.load surroundings path = .error error ↔
        Configuration.Refuses surroundings written error) ∧
      ∀ environment, surroundings.Sets environment →
        (∀ loaded, Configuration.load surroundings path = .ok loaded →
          loaded.entries = written.entries ∧
          loaded.logLevel =
            (surroundings.valueOf? Configuration.levelVariable).getD written.logLevel ∧
          ∀ name, ∃ own, Layer.Named written.entries name own ∧
            loaded.settingsFor name = own.over (environment.over (table.over {}))) ∧
        (Configuration.load surroundings path = .error (.invalid (.noPollInterval "defaults")) ↔
          (environment.over (table.over {})).pollMillis = 0) ∧
        (Configuration.load surroundings path = .error (.invalid (.noListenInterval "defaults")) ↔
          0 < (environment.over (table.over {})).pollMillis ∧
          (environment.over (table.over {})).listenMillis = 0) := by
  obtain ⟨table, tabled, defaults⟩ := Configuration.defaults_of_read? reads
  have decided := Configuration.loadText_decided surroundings reads
  have same : Configuration.load surroundings path =
      Configuration.loadText surroundings.valueOf? text := by
    rw [Configuration.load, file]
  rw [← same] at decided
  -- The environment sets only one layer and fails at only one stage, so neither outcome hides another.
  have loads (loaded : Configuration) : Configuration.load surroundings path = .ok loaded ↔
      ∃ environment, surroundings.Sets environment ∧
        loaded = written.under environment (surroundings.valueOf? Configuration.levelVariable) ∧
        loaded.Valid := by
    constructor
    · intro found
      simpa only [found] using decided
    · rintro ⟨environment, sets, rfl, valid⟩
      cases found : Configuration.load surroundings path with
      | ok other =>
          simp only [found] at decided
          obtain ⟨again, also, rfl, -⟩ := decided
          rw [also.unique sets]
      | error error =>
          simp only [found] at decided
          exact absurd valid (decided.not_valid sets)
  have fails (error : LoadError) : Configuration.load surroundings path = .error error ↔
      Configuration.Refuses surroundings written error := by
    constructor
    · intro found
      simpa only [found] using decided
    · intro refuses
      cases found : Configuration.load surroundings path with
      | ok loaded =>
          simp only [found] at decided
          obtain ⟨environment, sets, rfl, valid⟩ := decided
          exact absurd valid (refuses.not_valid sets)
      | error other =>
          simp only [found] at decided
          rw [decided.unique refuses]
  refine ⟨table, tabled, loads, fails, ?_⟩
  intro environment sets
  have judged (violation : Violation) : Configuration.load surroundings path =
      .error (.invalid violation) ↔ Requirement.FirstUnmet
        (written.under environment (surroundings.valueOf? Configuration.levelVariable)).requirements
        violation := by
    rw [fails]
    constructor
    · rintro (_ | _ | ⟨again, unmet⟩)
      rwa [again.unique sets] at unmet
    · exact .invalid sets
  have reported := (written.under environment
    (surroundings.valueOf? Configuration.levelVariable)).defaults_reported
  rw [← defaults]
  refine ⟨?_, (judged _).trans reported.1, (judged _).trans reported.2⟩
  intro loaded found
  obtain ⟨again, also, rfl, valid⟩ := (loads loaded).mp found
  obtain rfl := also.unique sets
  refine ⟨rfl, rfl, fun name => ?_⟩
  obtain ⟨own, named, settings⟩ := Configuration.settingsFor_eq _ name valid.distinct
  exact ⟨own, named, settings⟩

def restlessDocument : String := "[defaults]\npoll_interval_ms = 0\n[[queues]]\nname = \"a\"\n"

def calmSurroundings : Surroundings :=
  { environment := [(Configuration.pollVariable, "25")]
    files := [(Configuration.usualPath, Text.Utf8.encode restlessDocument)] }

theorem plainPath_usual : Surroundings.plainPath Configuration.usualPath = Configuration.usualPath := by
  have steps : Configuration.usualPath.splitOn "/" = [Configuration.usualPath] := by
    rw [String.splitOn, if_neg (by decide)]
    repeat rw [String.splitOnAux, if_neg (by decide +kernel), if_neg (by decide +kernel)]
    rw [String.splitOnAux, if_pos (by decide +kernel)]
    decide +kernel
  unfold Surroundings.plainPath
  rw [steps]
  decide +kernel

theorem zero_default_rescued :
    ∃ loaded, Configuration.load calmSurroundings Configuration.usualPath = .ok loaded ∧
      loaded.settingsFor "a" = { pollMillis := 25 } := by
  have file : (calmSurroundings.file? Configuration.usualPath).bind Text.Utf8.decode? =
      some restlessDocument := by
    unfold Surroundings.file? calmSurroundings
    simp only [plainPath_usual, List.find?_cons, BEq.rfl]
    decide +kernel
  have reads : Configuration.read? restlessDocument =
      some { defaults := { pollMillis := 0 }, entries := [{ name := "a" }] } := by decide +kernel
  obtain ⟨table, tabled, loads, -, law⟩ := nearest_layer_decides _ _ file reads
  obtain rfl : table = { pollMillis := some 0 } := by
    have read : Configuration.table? restlessDocument = some { pollMillis := some 0 } := by decide +kernel
    exact Option.some.inj (tabled.symm.trans read)
  have sets : calmSurroundings.Sets { pollMillis := some 25 } :=
    ⟨.some ((Text.nat64?_eq_some_iff _ _).mp (by decide +kernel)), .none, rfl, rfl⟩
  have valid : (Configuration.under
      { defaults := { pollMillis := 0 }, entries := [{ name := "a" }] } { pollMillis := some 25 }
      (calmSurroundings.valueOf? Configuration.levelVariable)).Valid :=
    (Configuration.validate_eq_ok_iff _).mp (by decide +kernel)
  have loaded := (loads _).mpr ⟨_, sets, rfl, valid⟩
  refine ⟨_, loaded, ?_⟩
  obtain ⟨-, -, settings⟩ := (law _ sets).1 _ loaded
  obtain ⟨own, named, found⟩ := settings "a"
  cases named with
  | only alone =>
      obtain rfl := (List.cons.inj alone).1
      exact found
  | absent unnamed => exact absurd rfl (unnamed _ List.mem_cons_self)

end LeaseQueue
