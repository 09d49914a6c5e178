import MetricPipeline.Metric

/-! The metrics defined so far. A name is defined once and for all: a second definition fails and changes
nothing, so a registered metric is known by its name. -/

namespace MetricPipeline

structure Registry where
  metrics : List Metric
  names_nodup : (metrics.map Metric.name).Nodup

inductive DefinitionError where
  | duplicate (name : String)
deriving DecidableEq

def DefinitionError.message : DefinitionError → String
  | duplicate name => "A metric named '" ++ name ++ "' has already been defined."

namespace Registry

def find? (registry : Registry) (name : String) : Option Metric :=
  registry.metrics.find? (·.name = name)

theorem find?_eq_none {registry : Registry} {name : String} :
    registry.find? name = none ↔ name ∉ registry.metrics.map Metric.name := by
  simp [find?]

theorem nodup_append_name {metrics : List Metric} {metric : Metric}
    (nodup : (metrics.map Metric.name).Nodup) (new : metric.name ∉ metrics.map Metric.name) :
    ((metrics ++ [metric]).map Metric.name).Nodup := by
  rw [List.map_append, List.nodup_append]
  refine ⟨nodup, by simp, fun a ha b hb => ?_⟩
  rw [List.map_singleton, List.mem_singleton] at hb
  exact fun hab => new (hb ▸ hab ▸ ha)

/-- Adds a metric under a new name. -/
def define (registry : Registry) (name : String) (valueType : ValueType) (level : Level)
    (categories : List Category) : Except DefinitionError (Registry × Metric) :=
  if h : name ∈ registry.metrics.map Metric.name then .error (.duplicate name)
  else
    let metric : Metric := ⟨name, valueType, level, Category.closure categories⟩
    .ok (⟨registry.metrics ++ [metric], nodup_append_name registry.names_nodup h⟩, metric)

end Registry
end MetricPipeline
