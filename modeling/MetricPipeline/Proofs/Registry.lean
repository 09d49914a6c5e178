import Mathlib.Data.List.Basic
import Mathlib.Data.List.Nodup
import MetricPipeline.Registry.BuiltIn

/-! Metrics are known by their names in every registry, and what else holds of those that definitions lead to
from the built-in metrics. -/

namespace MetricPipeline

theorem Category.all_mem_closure (given : List Category) : .all ∈ closure given := by
  rw [closure, List.mem_eraseDups]
  exact List.mem_append_right _ List.mem_cons_self

namespace Registry

/-! Names -/

section

variable {registry : Registry} {name : String} {metric : Metric}

theorem eq_of_name_eq (registry : Registry) {a b : Metric} (ha : a ∈ registry.metrics)
    (hb : b ∈ registry.metrics) (h : a.name = b.name) : a = b :=
  List.inj_on_of_nodup_map registry.names_nodup ha hb h

def Names (registry : Registry) (name : String) (metric : Metric) : Prop :=
  metric ∈ registry.metrics ∧ metric.name = name

theorem find?_eq_some_iff : registry.find? name = some metric ↔ registry.Names name metric := by
  constructor
  · intro h
    exact ⟨List.mem_of_find?_eq_some h, by simpa using List.find?_some h⟩
  · rintro ⟨hmem, rfl⟩
    cases hfind : registry.find? metric.name with
    | none => exact absurd (List.mem_map_of_mem hmem) (find?_eq_none.1 hfind)
    | some found =>
      have hname : found.name = metric.name := by simpa using List.find?_some hfind
      rw [registry.eq_of_name_eq (List.mem_of_find?_eq_some hfind) hmem hname]

theorem Names.unique {other : Metric} (h : registry.Names name metric) (hother : registry.Names name other) :
    metric = other :=
  Option.some.inj ((find?_eq_some_iff.2 h).symm.trans (find?_eq_some_iff.2 hother))

end

/-! Definitions from the built-in metrics on -/

/-- The registries that definitions lead to. -/
inductive Defined : Registry → Prop where
  | builtIn : Defined .builtIn
  | define {registry extended : Registry} {metric : Metric} (h : Defined registry) (name : String)
    (valueType : ValueType) (level : Level) (categories : List Category)
    (heq : registry.define name valueType level categories = .ok (extended, metric)) :
    Defined extended

/-- A definition that succeeds adds one metric, which carries the category of all metrics. -/
theorem metrics_define {registry extended : Registry} {name : String} {valueType : ValueType}
    {level : Level} {categories : List Category} {metric : Metric}
    (h : registry.define name valueType level categories = .ok (extended, metric)) :
    extended.metrics = registry.metrics ++ [⟨name, valueType, level, Category.closure categories⟩] := by
  unfold define at h
  split_ifs at h
  rw [← (Prod.mk.inj (Except.ok.inj h)).1]

theorem Defined.all_mem_categories {registry : Registry} (h : registry.Defined) :
    ∀ metric ∈ registry.metrics, .all ∈ metric.categories := by
  induction h with
  | builtIn => decide
  | define _ name valueType level categories heq ih =>
    intro metric hmetric
    rw [metrics_define heq, List.mem_append, List.mem_singleton] at hmetric
    rcases hmetric with hmetric | rfl
    · exact ih metric hmetric
    · exact Category.all_mem_closure categories

end Registry
end MetricPipeline
