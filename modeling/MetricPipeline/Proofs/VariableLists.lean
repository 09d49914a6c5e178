import MetricPipeline.Proofs.Environment
import MetricPipeline.Proofs.Located
import MetricPipeline.Proofs.Registry
import MetricPipeline.Proofs.Text.Listed

/-! Variables that list metrics. Each item between commas is taken for the name of a metric: a list of
registered names, or of names of string metrics where dimensions are listed, is read as those metrics in its
order, and any other list is answered by one issue for each item that is out of place. -/

namespace MetricPipeline

/-! Names and metrics -/

namespace Registry

variable {registry : Registry} {name : String} {metric : Metric}

/-- The names in a list that no metric has. -/
def unknown (registry : Registry) (names : List String) : List String :=
  names.filter fun name => name ∉ registry.metrics.map Metric.name

/-- The names in a list that are those of metrics whose values are not strings. -/
def notString (registry : Registry) (names : List String) : List String :=
  names.filter fun name => ∃ metric ∈ registry.metrics, metric.name = name ∧ metric.valueType ≠ .string

theorem unknown_eq_nil_iff {names : List String} :
    registry.unknown names = [] ↔ ∀ name ∈ names, ∃ metric, registry.Names name metric := by
  simp only [unknown, List.filter_eq_nil_iff, decide_eq_true_eq, not_not, List.mem_map, Names]

/-- Names that are all admitted are looked up one by one. -/
theorem forall₂_filterMap_find? {Admits : String → Metric → Prop}
    (hnames : ∀ {name metric}, Admits name metric → registry.Names name metric) {names : List String}
    (h : ∀ name ∈ names, ∃ metric, Admits name metric) :
    List.Forall₂ Admits names (names.filterMap registry.find?) := by
  induction names with
  | nil => exact .nil
  | cons name names ih =>
    obtain ⟨⟨metric, hadmits⟩, hrest⟩ := List.forall_mem_cons.1 h
    rw [List.filterMap_cons, find?_eq_some_iff.2 (hnames hadmits)]
    exact .cons hadmits (ih hrest)

theorem notString_eq_nil_iff {names : List String} : registry.notString names = [] ↔
    ∀ name ∈ names, ∀ metric, registry.Names name metric → metric.valueType = .string := by
  simp only [notString, List.filter_eq_nil_iff, decide_eq_true_eq, not_exists, not_and, not_not, Names,
    and_imp]

theorem strings_iff {names : List String} : (registry.unknown names = [] ∧ registry.notString names = []) ↔
    ∀ name ∈ names, ∃ metric, registry.Names name metric ∧ metric.valueType = .string := by
  rw [unknown_eq_nil_iff, notString_eq_nil_iff]
  constructor
  · rintro ⟨hknown, hstring⟩ name hmem
    obtain ⟨metric, hname⟩ := hknown name hmem
    exact ⟨metric, hname, hstring name hmem metric hname⟩
  · intro h
    constructor
    · intro name hmem
      obtain ⟨metric, hname, -⟩ := h name hmem
      exact ⟨metric, hname⟩
    · intro name hmem metric hname
      obtain ⟨found, hfound, hstring⟩ := h name hmem
      rwa [hname.unique hfound]

end Registry

namespace Environment

open Untyped

variable {registry : Registry}

/-! The faults of a list -/

theorem findMetrics_eq (names : List String) : findMetrics registry names =
    (names.filterMap registry.find?, (registry.unknown names).map .unknownMetric) := by
  have hnone : (fun name => (registry.find? name).isNone) =
      fun name => decide (name ∉ registry.metrics.map Metric.name) := by
    funext name
    rw [Bool.eq_iff_iff, Option.isNone_iff_eq_none, Registry.find?_eq_none, decide_eq_true_eq]
  rw [findMetrics, Registry.unknown, hnone]

theorem stringFaults_eq (names : List String) : stringFaults (names.filterMap registry.find?) =
    (registry.notString names).map .notStringMetric := by
  induction names with
  | nil => rfl
  | cons name names ih =>
    unfold stringFaults Registry.notString at ih ⊢
    cases hfind : registry.find? name with
    | none =>
      have hnone : ¬ ∃ metric ∈ registry.metrics, metric.name = name ∧ metric.valueType ≠ .string := by
        rintro ⟨metric, hmem, hname, -⟩
        rw [Registry.find?_eq_some_iff.2 ⟨hmem, hname⟩] at hfind
        cases hfind
      rw [List.filterMap_cons, hfind, List.filter_cons_of_neg (by simpa using hnone), ih]
    | some metric =>
      have hname := Registry.find?_eq_some_iff.1 hfind
      -- the name is that of no other metric, so it is out of place when this one is
      have hiff : (∃ other ∈ registry.metrics, other.name = name ∧ other.valueType ≠ .string) ↔
          metric.valueType ≠ .string := by
        constructor
        · rintro ⟨other, hmem, hother, hstring⟩
          rwa [hname.unique ⟨hmem, hother⟩]
        · intro hstring
          exact ⟨metric, hname.1, hname.2, hstring⟩
      rw [List.filterMap_cons, hfind, List.filter_cons, List.filter_cons]
      simp only [hiff]
      split_ifs
      · rw [List.map_cons, List.map_cons, ih, hname.2]
      · exact ih

theorem checkDetailed_eq (list : String) : checkDetailed registry list =
    .ofFaults [.key detailedKey] ((registry.unknown (Text.commaList list)).map .unknownMetric)
      ((Text.commaList list).filterMap registry.find?) := by
  rw [checkDetailed, findMetrics_eq]

theorem checkDimensions_eq (list : String) : checkDimensions registry list =
    .ofFaults [.key dimensionsKey] ((registry.unknown (Text.commaList list)).map .unknownMetric ++
        (registry.notString (Text.commaList list)).map .notStringMetric)
      ((Text.commaList list).filterMap registry.find?) := by
  rw [checkDimensions, findMetrics_eq]
  dsimp only
  rw [stringFaults_eq]

/-! A variable in its environment -/

/-- What comes of a variable that lists metrics, in an environment with any other variables: its issues are
the faults of the list in order, the environment is accepted when each name is admitted and no other variable
is at fault, and then the variable stands for the metrics with those names. -/
structure ReadsList (outcome : Checked Environment) (key : String)
    (value? : Environment → Option (List Metric)) (names : List String) (faults : List Fault)
    (Admits : String → Metric → Prop) : Prop where
  issuesAt_eq : outcome.issuesAt key = faults.map (Issue.mk [.key key])
  accepted_iff : (∃ environment, outcome = .ok environment) ↔
    (∀ name ∈ names, ∃ metric, Admits name metric) ∧ ∀ other ≠ key, outcome.issuesAt other = []
  listed : ∀ environment, outcome = .ok environment →
    ∃ metrics, value? environment = some metrics ∧ List.Forall₂ Admits names metrics

section

variable {key s : String} {faults : List Fault} {check : String → Checked (List Metric)}

theorem optional_checkList_eq_ok {metrics : List Metric}
    (hcheck : check s = .ofFaults [.key key] faults metrics) {value? : Option (List Metric)}
    (h : optional (checkList key check) (.string s) = .ok value?) :
    faults = [] ∧ value? = some metrics := by
  rcases HandsOver.optional_eq_ok h with rfl | ⟨found, rfl, hfound⟩
  · exact absurd h (optional_ne_none (by simp))
  · rw [checkList, hcheck] at hfound
    obtain ⟨hnone, rfl⟩ := Checked.ofFaults_eq_ok_iff.1 hfound
    exact ⟨hnone, rfl⟩

/-- A variable is read as its check reads it, if the faults are those of the names. -/
theorem readsList_of_check {field : String → Untyped} {value? : Environment → Option (List Metric)}
    {names : List String} {Admits : String → Metric → Prop}
    (hcheck : check s = .ofFaults [.key key] faults (names.filterMap registry.find?))
    (hfield : field key = .string s)
    (hpart : (key, (optional (checkList key check) (field key)).issues) ∈ variableIssues registry field)
    (hvalue : ∀ environment, Accepted registry field environment →
      optional (checkList key check) (field key) = .ok (value? environment))
    (hadmits : faults = [] ↔ ∀ name ∈ names, ∃ metric, Admits name metric)
    (hnames : ∀ {name metric}, Admits name metric → registry.Names name metric) :
    ReadsList (checkFields registry field) key value? names faults Admits := by
  have hissues : (checkFields registry field).issuesAt key = faults.map (Issue.mk [.key key]) := by
    rw [issuesAt_checkFields registry field hpart, hfield, HandsOver.optional_of_ne (by simp), checkList,
      hcheck, Checked.issues_map, Checked.issues_ofFaults]
  constructor
  case issuesAt_eq => exact hissues
  case accepted_iff =>
    have hkey : (checkFields registry field).issuesAt key = [] ↔ faults = [] := by
      rw [hissues, List.map_eq_nil_iff]
    rw [(collects_checkFields registry field).ok_iff, ← hadmits, ← hkey]
    constructor
    · intro h
      exact ⟨h key, fun other _ => h other⟩
    · rintro ⟨hnone, hothers⟩ other
      by_cases heq : other = key
      · rwa [heq]
      · exact hothers other heq
  case listed =>
    intro environment hok
    have hread := hvalue environment (accepted_of_checkFields hok)
    rw [hfield] at hread
    obtain ⟨hnone, hsome⟩ := optional_checkList_eq_ok hcheck hread
    exact ⟨_, hsome, Registry.forall₂_filterMap_find? hnames (hadmits.1 hnone)⟩

end

/-- A list of metrics in the environment is read by its own text, whatever the other variables hold. -/
theorem parse_lists (registry : Registry) (fields : List (String × Untyped)) (s : String) :
    ∃ names, (∀ items, Text.Lists s items ↔ items = names) ∧
      (Untyped.field fields detailedKey = .string s →
        ReadsList (parse registry (.object fields)) detailedKey detailed? names
          ((registry.unknown names).map .unknownMetric) registry.Names) ∧
      (Untyped.field fields dimensionsKey = .string s →
        ReadsList (parse registry (.object fields)) dimensionsKey dimensions? names
          ((registry.unknown names).map .unknownMetric ++ (registry.notString names).map .notStringMetric)
          fun name metric => registry.Names name metric ∧ metric.valueType = .string) := by
  refine ⟨Text.commaList s, fun items => Text.lists_iff, ?_, ?_⟩
  · intro hfield
    apply readsList_of_check (checkDetailed_eq s) hfield
    case hpart => simp [variableIssues]
    case hvalue => exact fun environment haccepted => haccepted.detailed
    case hadmits => rw [List.map_eq_nil_iff, Registry.unknown_eq_nil_iff]
    case hnames => exact id
  · intro hfield
    apply readsList_of_check (checkDimensions_eq s) hfield
    case hpart => simp [variableIssues]
    case hvalue => exact fun environment haccepted => haccepted.dimensions
    case hadmits =>
      rw [List.append_eq_nil_iff, List.map_eq_nil_iff, List.map_eq_nil_iff, Registry.strings_iff]
    case hnames => exact And.left

/-- One name that no metric has, one of a metric whose values are numbers, and places left empty. -/
theorem parse_lists_mixed :
    ∃ s fields, s = "RetryCount,, Nope ,\tServiceId," ∧
      fields = [(detailedKey, .string s), (dimensionsKey, .string s)] ∧
      Text.Lists s ["RetryCount", "Nope", "ServiceId"] ∧
      (parse Registry.builtIn (.object fields)).issuesAt detailedKey =
        [⟨[.key detailedKey], .unknownMetric "Nope"⟩] ∧
      (parse Registry.builtIn (.object fields)).issuesAt dimensionsKey =
        [⟨[.key dimensionsKey], .unknownMetric "Nope"⟩,
          ⟨[.key dimensionsKey], .notStringMetric "RetryCount"⟩] := by
  refine ⟨_, _, rfl, rfl, Text.lists_iff.2 (by decide +kernel), ?_⟩
  obtain ⟨names, hlists, hdetailed, hdimensions⟩ := parse_lists Registry.builtIn
    [(detailedKey, .string "RetryCount,, Nope ,\tServiceId,"),
      (dimensionsKey, .string "RetryCount,, Nope ,\tServiceId,")] "RetryCount,, Nope ,\tServiceId,"
  obtain rfl : ["RetryCount", "Nope", "ServiceId"] = names :=
    (hlists _).1 (Text.lists_iff.2 (by decide +kernel))
  exact ⟨(hdetailed rfl).issuesAt_eq, (hdimensions rfl).issuesAt_eq⟩

end Environment
end MetricPipeline
