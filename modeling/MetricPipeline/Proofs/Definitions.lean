import MetricPipeline.Proofs.OrderedMap
import MetricPipeline.Proofs.Registry

/-! Definitions one after another. Each one that succeeds adds its metric to the registry, and this is all that
ever happens to a registry; so a name stands for the metric of its first successful definition from then on,
whatever is defined later, and every later definition of the name fails. The built-in metrics are what their own
definitions lead to. -/

namespace MetricPipeline

/-! Categories -/

/-- The categories of a metric for which some are given: each of these once, in the order in which they are first
given, and `all` once, which stands last unless it is given. -/
structure Category.Completes (given categories : List Category) : Prop where
  mem_iff : ∀ category, category ∈ categories ↔ category ∈ given ∨ category = .all
  nodup : categories.Nodup
  order : categories.Pairwise fun a b => given.idxOf a < given.idxOf b
  count_all : categories.count .all = 1
  last_all : .all ∉ given → categories.getLast? = some .all

theorem Category.completes_closure (given : List Category) : Completes given (closure given) := by
  have hclosure : closure given = if .all ∈ given then given.eraseDups else given.eraseDups ++ [.all] :=
    eraseDups_concat given .all
  have hnodup : (closure given).Nodup := nodup_eraseDups _
  constructor
  case mem_iff =>
    intro category
    rw [closure, List.mem_eraseDups, List.mem_append, List.mem_singleton]
  case nodup => exact hnodup
  case order =>
    rw [hclosure]
    split_ifs with hall
    · exact pairwise_idxOf_eraseDups given
    · apply List.pairwise_append.2 ⟨pairwise_idxOf_eraseDups given, List.pairwise_singleton _ _, ?_⟩
      intro a ha b hb
      obtain rfl := List.mem_singleton.1 hb
      rw [List.idxOf_of_notMem hall]
      exact List.idxOf_lt_length_of_mem (List.mem_eraseDups.1 ha)
  case count_all => exact List.count_eq_one_of_mem hnodup (all_mem_closure given)
  case last_all =>
    intro hall
    rw [hclosure, if_neg hall, List.getLast?_concat]

/-! Definitions and their answers -/

/-- What a definition says of its metric. -/
structure Definition where
  name : String
  valueType : ValueType
  level : Level
  categories : List Category
deriving DecidableEq

namespace Definition

def metric (definition : Definition) : Metric :=
  ⟨definition.name, definition.valueType, definition.level, Category.closure definition.categories⟩

/-- A metric that is as a definition says. -/
structure Describes (definition : Definition) (metric : Metric) : Prop where
  name : metric.name = definition.name
  valueType : metric.valueType = definition.valueType
  level : metric.level = definition.level
  categories : Category.Completes definition.categories metric.categories

theorem describes_metric (definition : Definition) : definition.Describes definition.metric :=
  ⟨rfl, rfl, rfl, Category.completes_closure definition.categories⟩

end Definition

/-- A definition and what it was answered with. -/
structure Attempt where
  definition : Definition
  answer : Except DefinitionError Metric
deriving DecidableEq

namespace Attempt

/-- The metric of a definition that succeeded. -/
def metric? (attempt : Attempt) : Option Metric := attempt.answer.toOption

/-- A definition of this name that succeeded. -/
def Defines (attempt : Attempt) (name : String) : Prop :=
  attempt.definition.name = name ∧ attempt.metric?.isSome = true

instance (attempt : Attempt) (name : String) : Decidable (attempt.Defines name) :=
  inferInstanceAs (Decidable (_ ∧ _))

/-- The metric of the first definition of this name that succeeded. -/
def first? (name : String) (attempts : List Attempt) : Option Metric :=
  attempts.findSome? fun attempt => if attempt.definition.name = name then attempt.metric? else none

end Attempt

namespace Registry

def empty : Registry := ⟨[], List.nodup_nil⟩

def answer (registry : Registry) (definition : Definition) : Except DefinitionError Metric :=
  (registry.define definition.name definition.valueType definition.level definition.categories).map Prod.snd

/-- The registry after a definition, which stays as it is when the definition fails. -/
def next (registry : Registry) (definition : Definition) : Registry :=
  match registry.define definition.name definition.valueType definition.level definition.categories with
  | .ok (extended, _) => extended
  | .error _ => registry

def run (registry : Registry) (definitions : List Definition) : Registry :=
  definitions.foldl next registry

def attempts : Registry → List Definition → List Attempt
  | _, [] => []
  | registry, definition :: later =>
    ⟨definition, registry.answer definition⟩ :: (registry.next definition).attempts later

variable {registry : Registry} {definition : Definition} {definitions : List Definition} {name : String}

/-- A definition fails when its name is taken, and else adds its metric. -/
theorem define_cases (registry : Registry) (definition : Definition) :
    (definition.name ∈ registry.metrics.map Metric.name ∧
      registry.answer definition = .error (.duplicate definition.name) ∧
      registry.next definition = registry) ∨
    (definition.name ∉ registry.metrics.map Metric.name ∧
      registry.answer definition = .ok definition.metric ∧
      (registry.next definition).metrics = registry.metrics ++ [definition.metric]) := by
  unfold answer next define
  by_cases htaken : definition.name ∈ registry.metrics.map Metric.name
  · rw [dif_pos htaken]
    exact .inl ⟨htaken, rfl, rfl⟩
  · rw [dif_neg htaken]
    exact .inr ⟨htaken, rfl, rfl⟩

theorem answer_eq_error_iff {error : DefinitionError} : registry.answer definition = .error error ↔
    error = .duplicate definition.name ∧ definition.name ∈ registry.metrics.map Metric.name := by
  rcases registry.define_cases definition with ⟨htaken, hanswer, -⟩ | ⟨hfree, hanswer, -⟩
  · simp [hanswer, htaken, eq_comm]
  · simp [hanswer, hfree]

theorem next_of_error {error : DefinitionError} (h : registry.answer definition = .error error) :
    registry.next definition = registry := by
  rcases registry.define_cases definition with ⟨-, -, hnext⟩ | ⟨-, hanswer, -⟩
  · exact hnext
  · rw [hanswer] at h
    cases h

theorem eq_metric_of_answer {metric : Metric} (h : registry.answer definition = .ok metric) :
    metric = definition.metric := by
  rcases registry.define_cases definition with ⟨-, hanswer, -⟩ | ⟨-, hanswer, -⟩
  · rw [hanswer] at h
    cases h
  · exact Except.ok.inj (h.symm.trans hanswer)

theorem metrics_next (registry : Registry) (definition : Definition) : (registry.next definition).metrics =
    registry.metrics ++ (Attempt.mk definition (registry.answer definition)).metric?.toList := by
  rcases registry.define_cases definition with ⟨-, hanswer, hnext⟩ | ⟨-, hanswer, hnext⟩
  · rw [hnext, hanswer]
    exact (List.append_nil _).symm
  · rw [hnext, hanswer]
    rfl

/-! Runs -/

theorem run_append (registry : Registry) (definitions later : List Definition) :
    registry.run (definitions ++ later) = (registry.run definitions).run later :=
  List.foldl_append

/-- A registry holds what it held before and the metrics of the definitions that succeeded, in their order. -/
theorem metrics_run (registry : Registry) (definitions : List Definition) : (registry.run definitions).metrics =
    registry.metrics ++ (registry.attempts definitions).filterMap Attempt.metric? := by
  induction definitions generalizing registry with
  | nil => exact (List.append_nil _).symm
  | cons definition later ih =>
    have hrun : registry.run (definition :: later) = (registry.next definition).run later := rfl
    rw [hrun, ih, metrics_next, attempts, List.filterMap_cons, List.append_assoc]
    cases (Attempt.mk definition (registry.answer definition)).metric? <;> rfl

theorem describes_of_mem_attempts {metric : Metric}
    (h : ⟨definition, .ok metric⟩ ∈ registry.attempts definitions) : definition.Describes metric := by
  induction definitions generalizing registry with
  | nil => cases h
  | cons first later ih =>
    rcases List.mem_cons.1 h with heq | hlater
    · obtain ⟨rfl, hanswer⟩ := Attempt.mk.inj heq
      rw [eq_metric_of_answer hanswer.symm]
      exact definition.describes_metric
    · exact ih hlater

theorem mem_filterMap_metric?_iff {metric : Metric} {attempts : List Attempt} :
    metric ∈ attempts.filterMap Attempt.metric? ↔ ∃ definition, ⟨definition, .ok metric⟩ ∈ attempts := by
  rw [List.mem_filterMap]
  constructor
  · rintro ⟨⟨definition, answer⟩, hmem, hmetric⟩
    cases answer with
    | error error => cases hmetric
    | ok made =>
      obtain rfl := Option.some.inj hmetric
      exact ⟨definition, hmem⟩
  · rintro ⟨definition, hmem⟩
    exact ⟨_, hmem, rfl⟩

theorem mem_names_run_iff : name ∈ (registry.run definitions).metrics.map Metric.name ↔
    name ∈ registry.metrics.map Metric.name ∨
      ∃ earlier ∈ registry.attempts definitions, earlier.Defines name := by
  have hmade : name ∈ ((registry.attempts definitions).filterMap Attempt.metric?).map Metric.name ↔
      ∃ earlier ∈ registry.attempts definitions, earlier.Defines name := by
    rw [List.mem_map]
    constructor
    · rintro ⟨metric, hmem, rfl⟩
      obtain ⟨definition, hearlier⟩ := mem_filterMap_metric?_iff.1 hmem
      exact ⟨_, hearlier, (describes_of_mem_attempts hearlier).name.symm, rfl⟩
    · rintro ⟨⟨definition, answer⟩, hearlier, rfl, hsome⟩
      cases answer with
      | error error => cases hsome
      | ok metric =>
        exact ⟨metric, mem_filterMap_metric?_iff.2 ⟨definition, hearlier⟩,
          (describes_of_mem_attempts hearlier).name⟩
  rw [metrics_run, List.map_append, List.mem_append, hmade]

theorem find?_filterMap_metric? {attempts : List Attempt}
    (h : ∀ definition metric, ⟨definition, .ok metric⟩ ∈ attempts → definition.Describes metric) :
    (attempts.filterMap Attempt.metric?).find? (·.name = name) = Attempt.first? name attempts := by
  induction attempts with
  | nil => rfl
  | cons attempt later ih =>
    have hlater := ih fun definition metric hmem => h definition metric (List.mem_cons_of_mem _ hmem)
    unfold Attempt.first? at hlater ⊢
    rw [List.findSome?_cons, ← hlater]
    obtain ⟨definition, answer⟩ := attempt
    cases answer with
    | error error => simp [Attempt.metric?, Except.toOption]
    | ok metric =>
      have hname := (h definition metric List.mem_cons_self).name
      by_cases hmatch : definition.name = name <;> simp [Attempt.metric?, Except.toOption, hname, hmatch]

/-- In a registry that was empty at first, a name stands for the metric of its first successful definition. -/
theorem find?_run_empty (definitions : List Definition) (name : String) :
    (empty.run definitions).find? name = Attempt.first? name (empty.attempts definitions) := by
  rw [find?, metrics_run]
  exact find?_filterMap_metric? fun definition metric => describes_of_mem_attempts

theorem find?_run_of_eq_some {metric : Metric} (h : registry.find? name = some metric)
    (later : List Definition) : (registry.run later).find? name = some metric := by
  rw [find?_eq_some_iff] at h ⊢
  refine ⟨?_, h.2⟩
  rw [metrics_run]
  exact List.mem_append_left _ h.1

/-! From the built-in metrics on -/

/-- The definitions of the built-in metrics. -/
def builtInDefinitions : List Definition :=
  coreMetrics.map (fun metric => ⟨metric.name, metric.valueType, metric.level, [.core]⟩) ++
    httpMetrics.map fun metric => ⟨metric.name, metric.valueType, metric.level, [.httpClient]⟩

theorem run_builtInDefinitions : empty.run builtInDefinitions = builtIn := by
  have hmetrics : (empty.run builtInDefinitions).metrics = coreMetrics ++ httpMetrics := by decide +kernel
  rw [builtIn]
  generalize empty.run builtInDefinitions = registry at hmetrics
  cases registry
  cases hmetrics
  rfl

/-- All definitions with their answers, those of the built-in metrics first. -/
def history (definitions : List Definition) : List Attempt :=
  empty.attempts (builtInDefinitions ++ definitions)

theorem run_builtIn (definitions : List Definition) :
    builtIn.run definitions = empty.run (builtInDefinitions ++ definitions) := by
  rw [run_append, run_builtInDefinitions]

/-- Whatever is defined after the built-in metrics: a definition fails exactly when its name is that of a built-in
metric or of an earlier successful definition, and then changes nothing; a name stands for the metric of its first
successful definition and for nothing when there is none, and goes on standing for it whatever is defined later;
and each metric stands under its own name and is as its definition says. -/
theorem first_definition_stands (definitions : List Definition) :
    (∀ call error, (builtIn.run definitions).answer call = .error error ↔
      error = .duplicate call.name ∧ (call.name ∈ builtIn.metrics.map Metric.name ∨
        ∃ earlier ∈ builtIn.attempts definitions, earlier.Defines call.name)) ∧
    (∀ call error, (builtIn.run definitions).answer call = .error error →
      builtIn.run (definitions ++ [call]) = builtIn.run definitions) ∧
    (∀ name, (builtIn.run definitions).find? name = Attempt.first? name (history definitions)) ∧
    (∀ name, (builtIn.run definitions).find? name = none ↔
      ∀ earlier ∈ history definitions, ¬ earlier.Defines name) ∧
    (∀ name metric later, (builtIn.run definitions).find? name = some metric →
      (builtIn.run (definitions ++ later)).find? name = some metric) ∧
    ∀ metric ∈ (builtIn.run definitions).metrics,
      (builtIn.run definitions).find? metric.name = some metric ∧
        ∃ definition, ⟨definition, .ok metric⟩ ∈ history definitions ∧ definition.Describes metric := by
  refine ⟨?_, ?_, ?_, ?_, ?_, ?_⟩
  · intro call error
    rw [answer_eq_error_iff, mem_names_run_iff]
  · intro call error h
    rw [run_append]
    exact next_of_error h
  · intro name
    rw [run_builtIn, find?_run_empty, history]
  · intro name
    rw [find?_eq_none, run_builtIn, mem_names_run_iff, history]
    simp [empty]
  · intro name metric later h
    rw [run_append]
    exact find?_run_of_eq_some h later
  · intro metric hmetric
    refine ⟨find?_eq_some_iff.2 ⟨hmetric, rfl⟩, ?_⟩
    rw [run_builtIn, metrics_run] at hmetric
    obtain ⟨definition, hmem⟩ := mem_filterMap_metric?_iff.1 hmetric
    exact ⟨definition, hmem, describes_of_mem_attempts hmem⟩

def queueDepth : Definition := ⟨"QueueDepth", .number, .info, [.custom, .core, .custom]⟩

/-- Another definition of the same name. -/
def queueDepthText : Definition := ⟨"QueueDepth", .string, .error, [.all, .custom]⟩

/-- The second definition of a name fails and leaves no trace, and so does one of a built-in name. -/
theorem first_definition_stands_queueDepth :
    (builtIn.run [queueDepth]).answer queueDepthText = .error (.duplicate "QueueDepth") ∧
    (builtIn.run [queueDepth]).answer ⟨"ServiceId", .string, .error, []⟩ = .error (.duplicate "ServiceId") ∧
    builtIn.run [queueDepth, queueDepthText] = builtIn.run [queueDepth] ∧
    (builtIn.run [queueDepth, queueDepthText]).find? "QueueDepth" =
      some ⟨"QueueDepth", .number, .info, [.custom, .core, .all]⟩ ∧
    (builtIn.run [queueDepth, queueDepthText]).find? "QueueLength" = none := by
  obtain ⟨hfails, hkept, hfirst, hnone, hlasting, -⟩ := first_definition_stands [queueDepth]
  have htaken : (builtIn.run [queueDepth]).answer queueDepthText = .error (.duplicate "QueueDepth") :=
    (hfails queueDepthText _).2 ⟨rfl, .inr (by decide +kernel)⟩
  have hsame : builtIn.run [queueDepth, queueDepthText] = builtIn.run [queueDepth] :=
    hkept queueDepthText _ htaken
  refine ⟨htaken, (hfails _ _).2 ⟨rfl, .inl (by decide)⟩, hsame, ?_, ?_⟩
  · apply hlasting "QueueDepth" _ [queueDepthText]
    rw [hfirst]
    decide +kernel
  · rw [hsame, hnone]
    decide +kernel

end Registry
end MetricPipeline
