import PipelineCompiler.Proofs.CommandLine.Replies

namespace PipelineCompiler

namespace Logging

variable {isValid : String → Bool} {environment : Option String} {l : Logging}

/-- The filter that is asked for: that of the settings, or else that of the environment, or
else that of the level. -/
def asked (environment : Option String) (l : Logging) : String :=
  (l.filter.or environment).getD (directive l.level)

/-- What is asked for is in force, if it can be read; and otherwise nothing is. -/
def Obeys (isValid : String → Bool) (environment : Option String) (l : Logging) : Prop :=
  ∀ f, l.filter? isValid environment = some f ↔ f = asked environment l ∧ isValid f = true

/-- The settings leave the filter to the environment, and what it names cannot be read. -/
def PassesOver (isValid : String → Bool) (environment : Option String) (l : Logging) : Prop :=
  l.filter = none ∧ ∃ f, environment = some f ∧ isValid f = false

theorem filter?_of_passesOver (levels : ∀ level, isValid (directive level) = true)
    (passed : PassesOver isValid environment l) :
    l.filter? isValid environment = some (directive l.level) := by
  obtain ⟨unset, f, rfl, unreadable⟩ := passed
  have dropped : (some f).filter isValid = none := by simp [Option.filter_eq_none_iff, unreadable]
  simp [filter?, unset, dropped, Option.guard, levels]

theorem filter?_of_not_passesOver (heeded : ¬ PassesOver isValid environment l) :
    l.filter? isValid environment = Option.guard isValid (asked environment l) := by
  cases set : l.filter with
  | some f => simp [filter?, asked, set]
  | none =>
    cases environment with
    | none => simp [filter?, asked, set]
    | some f =>
      have readable : isValid f = true := by
        by_contra unreadable
        exact heeded ⟨set, f, rfl, Bool.eq_false_iff.mpr unreadable⟩
      simp [filter?, asked, set, readable, Option.guard]

theorem obeys_iff (levels : ∀ level, isValid (directive level) = true) :
    Obeys isValid environment l ↔ ¬ PassesOver isValid environment l := by
  constructor
  · intro obeys passed
    obtain ⟨same, -⟩ := (obeys _).mp (filter?_of_passesOver levels passed)
    obtain ⟨unset, f, rfl, unreadable⟩ := passed
    have readable := levels l.level
    rw [same, asked, unset, Option.none_or, Option.getD_some, unreadable] at readable
    cases readable
  · intro heeded f
    rw [filter?_of_not_passesOver heeded, Option.guard_eq_some_iff, eq_comm]
    exact and_congr_right fun same => by rw [same]

/-- Only a filter of the settings is ever turned down. -/
theorem filter?_eq_none_iff (levels : ∀ level, isValid (directive level) = true) :
    l.filter? isValid environment = none ↔ ∃ f, l.filter = some f ∧ isValid f = false := by
  cases set : l.filter with
  | some f => simp [filter?, set, Option.guard]
  | none => simp [filter?, set, Option.guard, levels]

theorem toList_directive (level : LogLevel) : (directive level).toList =
    [','].intercalate (targets.map fun t => t.toList ++ '=' :: level.name.toList) := by
  rw [directive, String.toList_intercalate, List.map_map]
  congr 1
  apply List.map_congr_left
  intro t _
  simp

end Logging

/-- The filter of every level can be read. -/
theorem LogFilter.isValid_directive (level : LogLevel) :
    isValid (Logging.directive level) = true := by
  rw [isValid, Logging.toList_directive]
  cases level <;> rfl

namespace CommandLine

variable {services : Services} {disk : Disk} {env : Variables} {i : Invocation}
  {settings : Settings}

theorem acceptsFilter_iff
    (levels : ∀ level, services.readsFilter (Logging.directive level) = true) :
    AcceptsFilter services env i settings ↔
      ¬ ∃ f, settings.log.filter = some f ∧ services.readsFilter f = false := by
  rw [AcceptsFilter, Option.isSome_iff_ne_none, ne_eq, Logging.filter?_eq_none_iff levels]
  rfl

theorem readsFilter_directive (level : LogLevel) :
    ({} : Services).readsFilter (Logging.directive level) = true := by
  dsimp only
  exact LogFilter.isValid_directive level

theorem run_of_filter_rejected (loaded : loadSettings disk.files i.config = .ok settings)
    (rejected : ¬ AcceptsFilter services env i settings) (mode : Mode) :
    run disk env mode i services = (.error .logFilter, disk) := by
  rw [run, reply_of_filter_rejected loaded rejected]

/-- What is asked for is obeyed but in one case: a filter of the environment that cannot be read is
passed over, and the one of the level is in force. So a run fails for its filter exactly when the
settings name one that cannot be read. -/
theorem filter_obeyed_unless_passed_over (services : Services)
    (levels : ∀ level, services.readsFilter (Logging.directive level) = true) :
    (∀ environment (l : Logging), Logging.Obeys services.readsFilter environment l ↔
      ¬ Logging.PassesOver services.readsFilter environment l) ∧
    (∀ environment (l : Logging), Logging.PassesOver services.readsFilter environment l →
      l.filter? services.readsFilter environment = some (Logging.directive l.level)) ∧
    (∀ environment (l : Logging), l.filter? services.readsFilter environment = none ↔
      ∃ f, l.filter = some f ∧ services.readsFilter f = false) ∧
    ∀ (disk : Disk) env mode i settings, loadSettings disk.files i.config = .ok settings →
      ((∃ f, settings.log.filter = some f ∧ services.readsFilter f = false) →
        run disk env mode i services = (.error .logFilter, disk) ∧
          exitCode (run disk env mode i services).1 = 2) ∧
      ((¬ ∃ f, settings.log.filter = some f ∧ services.readsFilter f = false) →
        reply disk.files env mode i services =
          replyTo disk.files settings env mode services.host i.command) := by
  refine ⟨fun _ _ => Logging.obeys_iff levels, fun _ _ => Logging.filter?_of_passesOver levels,
    fun _ _ => Logging.filter?_eq_none_iff levels,
    fun disk env mode i settings loaded => ⟨fun unreadable => ?_, fun readable => ?_⟩⟩
  · have rejected : ¬ AcceptsFilter services env i settings :=
      mt (acceptsFilter_iff levels).mp (not_not_intro unreadable)
    rw [run_of_filter_rejected loaded rejected]
    exact ⟨rfl, rfl⟩
  · have ready : Ready services disk.files env i settings :=
      ⟨loaded, (acceptsFilter_iff levels).mpr readable⟩
    exact ready.reply_eq mode

theorem loadSettings_bare : loadSettings ({} : Disk).files none = .ok {} := rfl

/-- Settings whose filter cannot be read. -/
def mutedText : String := "log.filter = 'pipeforge=['"

def mutedDisk : Disk := { entries := [(["tmp", "work", "pipeforge.toml"], .file (some mutedText))] }

theorem ofText_mutedText :
    Settings.ofText mutedText = .ok { log := { filter := some "pipeforge=[" } } := by
  -- The reader of values does not evaluate, so it is opened by hand, and so are those around it.
  have value : Toml.value? Toml.depthLimit 79 ('\'' :: "pipeforge=['".toList) =
      some (.text "pipeforge=[", []) := by
    rw [Toml.value?]
    rfl
  have assigned :
      Toml.assignment? Toml.depthLimit 80 mutedText.toList =
      some ((["log"], "filter", .text "pipeforge=["), []) := by
    have key : Toml.key? 79 mutedText.toList = some (["log"], "filter", "= 'pipeforge=['".toList) :=
      rfl
    rw [Toml.assignment?, key]
    exact congrArg (Option.bind · _) value
  have stated : Toml.statements? 81 mutedText.toList =
      some [.entry ["log"] "filter" (.text "pipeforge=[")] := by
    have start : Toml.skipGap mutedText.toList = mutedText.toList := by
      rw [Toml.skipGap.eq_def]
      rfl
    rw [Toml.statements?, start]
    change ((Toml.assignment? Toml.depthLimit 80 mutedText.toList).bind _).bind _ = _
    rw [assigned]
    rfl
  have built : Toml.ofText? mutedText =
      some [("log", .table .dotted [("filter", .text "pipeforge=[")])] := by
    change (Toml.statements? 81 mutedText.toList).bind _ = _
    rw [stated]
    rfl
  rw [Settings.ofText, built]
  rfl

theorem loadSettings_mutedDisk :
    loadSettings mutedDisk.files none = .ok { log := { filter := some "pipeforge=[" } } := by
  have found : (none : Option String).or (Option.guard mutedDisk.files.isFile defaultSettingsPath) =
      some defaultSettingsPath := rfl
  have read : mutedDisk.files.read defaultSettingsPath = .ok mutedText := rfl
  rw [loadSettings, found]
  simp only [read, ofText_mutedText]
  rfl

/-- A level that there is not is passed over in the environment. In the settings an open bracket is
not, whatever the environment says. -/
theorem filter_obeyed_unless_passed_over_muted :
    ({} : Logging).filter? LogFilter.isValid (some "a]=loud") = some (Logging.directive .warn) ∧
    reply ({} : Disk).files (fun _ => some "a]=loud") .natural { command := .formats } {} =
      .ok { stdout := Listing.formats .standard } ∧
    exitCode (run mutedDisk (fun _ => some "info") .natural { command := .formats } {}).1 = 2 := by
  obtain ⟨-, dropped, -, runs⟩ := filter_obeyed_unless_passed_over {} readsFilter_directive
  refine ⟨dropped (some "a]=loud") {} ⟨rfl, "a]=loud", rfl, rfl⟩, ?_, ?_⟩
  · have heard := runs {} (fun _ => some "a]=loud") .natural { command := .formats } _
      loadSettings_bare
    exact heard.2 (by simp)
  · have failed := runs mutedDisk (fun _ => some "info") .natural { command := .formats } _
      loadSettings_mutedDisk
    exact (failed.1 ⟨"pipeforge=[", rfl, rfl⟩).2

/-- A filter of the environment is dropped without a word: it cannot be read,
and the run succeeds. -/
theorem unreadable_variable_dropped :
    let env : Variables := fun name => if name = logVariable then some "pipeforge=[" else none
    LogFilter.isValid "pipeforge=[" = false ∧
    ¬ Logging.Obeys LogFilter.isValid (env logVariable) {} ∧
    exitCode (run {} env .natural { command := .formats } {}).1 = 0 := by
  intro env
  have unreadable : LogFilter.isValid "pipeforge=[" = false := rfl
  refine ⟨unreadable, ?_, ?_⟩
  · rw [Logging.obeys_iff LogFilter.isValid_directive, not_not]
    exact ⟨rfl, "pipeforge=[", rfl, unreadable⟩
  · have ready : Ready {} ({} : Disk).files env { command := .formats } {} :=
      ⟨loadSettings_bare, (acceptsFilter_iff readsFilter_directive).mpr (by simp)⟩
    rw [run, ready.reply_eq]
    rfl

end CommandLine

end PipelineCompiler
