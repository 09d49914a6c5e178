import MetricPipeline.Proofs.Settings
import MetricPipeline.Proofs.Text.Blank

/-! Settings from an environment that is accepted pass the check of settings. The one exception is a list of
categories with nothing in it: it is accepted as a variable, but not as a setting. -/

namespace MetricPipeline

namespace Environment

open Untyped

/-! Variables that are accepted -/

/-- What is known of an environment that is accepted: each variable has passed its own check. -/
structure Accepted (registry : Registry) (field : String → Untyped) (environment : Environment) : Prop where
  namespaceName : optional (checkString [.key namespaceKey] emptyFaults) (field namespaceKey) =
    .ok environment.namespaceName?
  publishFrequencyMs : optional (checkNumber frequencyKey Settings.frequencyRule) (field frequencyKey) =
    .ok environment.publishFrequencyMs?
  queueSize : optional (checkNumber queueSizeKey Settings.queueSizeRule) (field queueSizeKey) =
    .ok environment.queueSize?
  dimensions : optional (checkList dimensionsKey (checkDimensions registry)) (field dimensionsKey) =
    .ok environment.dimensions?
  categories : optional (checkList categoriesKey checkCategories) (field categoriesKey) =
    .ok environment.categories?
  level : optional (checkOption [.key levelKey] Level.values Level.name) (field levelKey) =
    .ok environment.level?
  detailed : optional (checkList detailedKey (checkDetailed registry)) (field detailedKey) =
    .ok environment.detailed?
  connection : optional (checkString [.key connectionKey] startFaults) (field connectionKey) =
    .ok environment.connection?
  logLevel : optional (checkOption [.key logLevelKey] LogLevel.values LogLevel.name) (field logLevelKey) =
    .ok environment.logLevel?

theorem accepted_of_checkFields {registry : Registry} {field : String → Untyped}
    {environment : Environment} (h : checkFields registry field = .ok environment) :
    Accepted registry field environment := by
  obtain ⟨_, logLevel, h₈, hlogLevel, rfl⟩ := Checked.and_eq_ok.1 h
  obtain ⟨_, connection?, h₇, hconnection, rfl⟩ := Checked.and_eq_ok.1 h₈
  obtain ⟨_, detailed?, h₆, hdetailed, rfl⟩ := Checked.and_eq_ok.1 h₇
  obtain ⟨_, level, h₅, hlevel, rfl⟩ := Checked.and_eq_ok.1 h₆
  obtain ⟨_, categories, h₄, hcategories, rfl⟩ := Checked.and_eq_ok.1 h₅
  obtain ⟨_, dimensions, h₃, hdimensions, rfl⟩ := Checked.and_eq_ok.1 h₄
  obtain ⟨_, size, h₂, hsize, rfl⟩ := Checked.and_eq_ok.1 h₃
  obtain ⟨_, frequency, h₁, hfrequency, rfl⟩ := Checked.and_eq_ok.1 h₂
  obtain ⟨_, name, h₀, hname, rfl⟩ := Checked.and_eq_ok.1 h₁
  obtain rfl := Except.ok.inj h₀
  exact ⟨hname, hfrequency, hsize, hdimensions, hcategories, hlevel, hdetailed, hconnection, hlogLevel⟩

theorem parse_eq_ok {registry : Registry} {source : Untyped} {environment : Environment}
    (h : parse registry source = .ok environment) :
    ∃ fields, source = .object fields ∧ Accepted registry (Untyped.field fields) environment := by
  unfold parse at h
  cases source with
  | object fields => exact ⟨fields, rfl, accepted_of_checkFields h⟩
  | _ => cases h

/-- A number read from a variable is checked by the same rule as a setting. -/
theorem checkNumber_handsOver (key : String) (rule : NumberRule) (path : List PathStep) :
    HandsOver .number (checkNumber key rule) (rule.check path) :=
  fun _ _ h => NumberRule.check_number (NumberRule.check_eq_ok_iff.1 h).2 path

/-! Empty lists of categories -/

theorem length_items {α : Type} {check : Nat → Untyped → Checked α} {i : Nat} {items : List Untyped}
    {values : List α} (h : Checked.items check i items = .ok values) : values.length = items.length := by
  induction items generalizing i values with
  | nil =>
    obtain rfl := Except.ok.inj h
    rfl
  | cons item items ih =>
    obtain ⟨value, others, -, hothers, rfl⟩ := Checked.items_cons_eq_ok_iff.1 h
    rw [List.length_cons, List.length_cons, ih hothers]

/-- The variable for categories is given, and holds nothing but commas and blanks. -/
def ListsNoCategory (source : Untyped) : Prop :=
  ∃ fields list, source = .object fields ∧ Untyped.field fields categoriesKey = .string list ∧
    ∀ c ∈ list.toList, c = ',' ∨ Text.isBlank c = true

theorem checkList_eq_ok {α : Type} {key : String} {check : String → Checked α} {value : Untyped} {a : α}
    (h : checkList key check value = .ok a) : ∃ list, value = .string list ∧ check list = .ok a := by
  unfold checkList at h
  cases value with
  | string list => exact ⟨list, rfl, h⟩
  | _ => cases h

theorem optional_ne_none {α : Type} {check : Untyped → Checked α} {value : Untyped}
    (hvalue : value ≠ .undefined) : optional check value ≠ .ok none := by
  rw [HandsOver.optional_of_ne hvalue]
  cases check value <;> simp [Except.map]

theorem listsNoCategory_iff {fields : List (String × Untyped)} {categories? : Option (List Category)}
    (h : optional (checkList categoriesKey checkCategories) (Untyped.field fields categoriesKey) =
      .ok categories?) : ListsNoCategory (.object fields) ↔ categories? = some [] := by
  have hempty : ∀ {list categories}, checkCategories list = .ok categories →
      (categories = [] ↔ ∀ c ∈ list.toList, c = ',' ∨ Text.isBlank c = true) := by
    intro list categories hlist
    have hlength := length_items hlist
    rw [List.length_map] at hlength
    rw [← Text.commaList_eq_nil_iff, ← List.length_eq_zero_iff, ← List.length_eq_zero_iff, hlength]
  constructor
  · rintro ⟨_, list, heq, hfield, hall⟩
    obtain rfl := Untyped.object.inj heq
    rw [hfield] at h
    rcases HandsOver.optional_eq_ok h with rfl | ⟨categories, rfl, hchecked⟩
    · exact absurd h (optional_ne_none (by simp))
    · rw [(hempty hchecked).2 hall]
  · rintro rfl
    rcases HandsOver.optional_eq_ok h with hnone | ⟨categories, hsome, hchecked⟩
    · cases hnone
    · obtain rfl := Option.some.inj hsome
      obtain ⟨list, hfield, hlist⟩ := checkList_eq_ok hchecked
      exact ⟨fields, list, rfl, hfield, (hempty hlist).1 rfl⟩

/-! Settings of an environment -/

/-- The settings that an environment asks for, with defaults for what it leaves out. -/
def settings (environment : Environment) : Settings where
  namespaceName := environment.namespaceName?.getD Settings.defaults.namespaceName
  publishFrequencyMs := environment.publishFrequencyMs?.getD Settings.defaults.publishFrequencyMs
  metricQueueSize := environment.queueSize?.getD Settings.defaults.metricQueueSize
  shutdownTimeoutMs := Settings.defaults.shutdownTimeoutMs
  metricCategories := environment.categories?.getD Settings.defaults.metricCategories
  metricLevel := environment.level?.getD Settings.defaults.metricLevel
  maxMetricDataPerRequest? := none
  maxValuesPerRequest? := none
  logLevel := environment.logLevel?.getD Settings.defaults.logLevel

/-- Of an environment that is accepted, only the categories can be rejected as settings. -/
theorem parse_settings {registry : Registry} {field : String → Untyped} {environment : Environment}
    (h : Accepted registry field environment) (callFailure : Nat → Option String) :
    Settings.parse (({ uploader? := some callFailure } : PublisherOptions).withEnvironment
        environment).settings =
      (withDefault Settings.defaults.metricCategories (Settings.checkCategories [.key "metricCategories"])
        (PublisherOptions.given Settings.categoriesUntyped environment.categories?)).map
        fun categories => { environment.settings with metricCategories := categories } := by
  have hname := (HandsOver.string emptyFaults _ [.key "namespace"]).optional_withDefault (by simp)
    Settings.defaults.namespaceName h.namespaceName
  have hfrequency := (checkNumber_handsOver _ _ [.key "publishFrequencyMs"]).optional_withDefault (by simp)
    Settings.defaults.publishFrequencyMs h.publishFrequencyMs
  have hsize := (checkNumber_handsOver _ _ [.key "metricQueueSize"]).optional_withDefault (by simp)
    Settings.defaults.metricQueueSize h.queueSize
  have htimeout : withDefault Settings.defaults.shutdownTimeoutMs
      (Settings.timeoutRule.check [.key "shutdownTimeoutMs"]) .undefined =
        .ok environment.settings.shutdownTimeoutMs := by
    simp only [settings, HandsOver.withDefault_undefined]
  have hlevel := (HandsOver.option _ _ _ [.key "metricLevel"]).optional_withDefault (by simp)
    Settings.defaults.metricLevel h.level
  have hlogLevel := (HandsOver.option _ _ _ [.key "logLevel"]).optional_withDefault (by simp)
    Settings.defaults.logLevel h.logLevel
  exact Settings.OtherwiseAccepted.checkFields_eq
    ⟨hname, hfrequency, hsize, htimeout, hlevel, rfl, rfl, hlogLevel⟩

theorem map_categories (environment : Environment) :
    (Except.ok (environment.categories?.getD Settings.defaults.metricCategories) :
        Checked (List Category)).map
      (fun categories => { environment.settings with metricCategories := categories }) =
      .ok environment.settings := by
  simp only [Except.map, settings]

theorem categories_of_ne_nil {value : Untyped} {categories? : Option (List Category)}
    (h : optional (checkList categoriesKey checkCategories) value = .ok categories?)
    (hne : categories? ≠ some []) (path : List PathStep) (default : List Category) :
    withDefault default (Settings.checkCategories path)
      (PublisherOptions.given Settings.categoriesUntyped categories?) = .ok (categories?.getD default) := by
  rcases HandsOver.optional_eq_ok h with rfl | ⟨categories, rfl, hchecked⟩
  · rfl
  · obtain ⟨list, -, hlist⟩ := checkList_eq_ok hchecked
    exact Settings.checkCategories_of_ne_nil hlist fun hnil => hne (congrArg some hnil)

end Environment

/-- An environment that is accepted gives a publisher with the settings it asks for, unless it lists no
category where it lists categories: then it is the settings that are rejected, by a name that no variable
has. -/
theorem Publisher.ofEnvironment_of_accepted (registry : Registry) (source : Untyped)
    (environment : Environment) (callFailure : Nat → Option String) (now : Binary64)
    (h : Environment.parse registry source = .ok environment) :
    (¬ Environment.ListsNoCategory source →
      Settings.parse (({ uploader? := some callFailure } : PublisherOptions).withEnvironment
        environment).settings = .ok environment.settings ∧
      ∃ publisher, Publisher.ofEnvironment registry source { uploader? := some callFailure } now =
        .ok (publisher, Publisher.startLine environment.settings)) ∧
    (Environment.ListsNoCategory source →
      Publisher.ofEnvironment registry source { uploader? := some callFailure } now =
        .error (.invalid [⟨[.key "metricCategories"], .emptyArray⟩])) := by
  obtain ⟨fields, rfl, haccepted⟩ := Environment.parse_eq_ok h
  have hparse := Environment.parse_settings haccepted callFailure
  have huploader : Uploader.ofOptions (({ uploader? := some callFailure } : PublisherOptions).withEnvironment
      environment) = .ok (.own 0) := rfl
  rw [Environment.listsNoCategory_iff haccepted.categories]
  unfold Publisher.ofEnvironment
  rw [h]
  dsimp only
  unfold Publisher.create
  constructor
  · intro hne
    rw [Environment.categories_of_ne_nil haccepted.categories hne] at hparse
    rw [hparse, Environment.map_categories, huploader]
    exact ⟨rfl, _, rfl⟩
  · intro hempty
    rw [hempty] at hparse
    rw [hparse]
    rfl

/-- Numbers are read from text, and lists are split and trimmed. -/
theorem Publisher.ofEnvironment_of_accepted_list :
    ∃ source environment, source = .object [("CLOUDWATCH_METRICS_CATEGORIES", .string " Core,,All "),
        ("CLOUDWATCH_METRICS_PUBLISH_FREQUENCY_MS", .string "0x7fffffff")] ∧
      Environment.parse Registry.builtIn source = .ok environment ∧
      environment.categories? = some [.core, .all] ∧
      environment.publishFrequencyMs? = some (.ofNat 2147483647) ∧
      ∃ publisher, Publisher.ofEnvironment Registry.builtIn source { uploader? := some fun _ => none }
        (.zero false) = .ok (publisher, Publisher.startLine environment.settings) := by
  have hparse : Environment.parse Registry.builtIn (.object [
      ("CLOUDWATCH_METRICS_CATEGORIES", .string " Core,,All "),
      ("CLOUDWATCH_METRICS_PUBLISH_FREQUENCY_MS", .string "0x7fffffff")]) =
        .ok ⟨none, some (.ofNat 2147483647), none, none, some [.core, .all], none, none, none, none⟩ := by
    decide +kernel
  obtain ⟨fields, hfields, haccepted⟩ := Environment.parse_eq_ok hparse
  have hlists : ¬ Environment.ListsNoCategory (.object [
      ("CLOUDWATCH_METRICS_CATEGORIES", .string " Core,,All "),
      ("CLOUDWATCH_METRICS_PUBLISH_FREQUENCY_MS", .string "0x7fffffff")]) := by
    rw [hfields, Environment.listsNoCategory_iff haccepted.categories]
    decide
  exact ⟨_, _, rfl, hparse, rfl, rfl,
    ((Publisher.ofEnvironment_of_accepted _ _ _ (fun _ => none) (.zero false) hparse).1 hlists).2⟩

/-- An environment with an empty list of categories is accepted, and gives no publisher. -/
theorem Publisher.ofEnvironment_of_empty_list :
    ∃ environment, Environment.parse Registry.builtIn
        (.object [("CLOUDWATCH_METRICS_CATEGORIES", .string "")]) = .ok environment ∧
      Publisher.ofEnvironment Registry.builtIn (.object [("CLOUDWATCH_METRICS_CATEGORIES", .string "")])
        { uploader? := some fun _ => none } (.zero false) =
          .error (.invalid [⟨[.key "metricCategories"], .emptyArray⟩]) :=
  ⟨⟨none, none, none, none, some [], none, none, none, none⟩, by decide +kernel, by rfl⟩

end MetricPipeline
