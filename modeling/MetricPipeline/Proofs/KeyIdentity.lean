import Mathlib.Data.List.TFAE
import Mathlib.Tactic.TFAE
import MetricPipeline.Proofs.Aggregation.Groups
import MetricPipeline.Proofs.Dimensions

/-! The id of a key stands for the key. It names the metric only, while keys are equal when their metrics are
the same; since a registry has one metric of each name, and quoting keeps all names and values apart, this
comes to the same for registered metrics. -/

namespace MetricPipeline.AggregationKey

/-- Two keys agree in the name of the metric and, position by position, in the dimensions. -/
structure Agree (a b : AggregationKey) : Prop where
  name : a.metric.name = b.metric.name
  length : a.dimensions.length = b.dimensions.length
  each : ∀ (i : Nat) (ha : i < a.dimensions.length) (hb : i < b.dimensions.length),
    a.dimensions[i].name = b.dimensions[i].name ∧ a.dimensions[i].value = b.dimensions[i].value

variable {a b : AggregationKey}

theorem agree_iff : a.Agree b ↔ a.metric.name = b.metric.name ∧ a.dimensions = b.dimensions := by
  constructor
  · intro h
    refine ⟨h.name, List.ext_getElem h.length fun i ha hb => ?_⟩
    exact Dimension.eq_of_values (h.each i ha hb).1 (h.each i ha hb).2
  · rintro ⟨hname, hdimensions⟩
    refine ⟨hname, by rw [hdimensions], fun i ha hb => ?_⟩
    simp [hdimensions]

theorem equals_iff : a.equals b = true ↔ a.metric = b.metric ∧ a.id = b.id := by
  simp [equals]

/-- For registered metrics the same id, equality of keys and agreement in the metric's name and in all
dimensions are one and the same. -/
theorem id_tfae (registry : Registry) (a b : AggregationKey) (ha : a.metric ∈ registry.metrics)
    (hb : b.metric ∈ registry.metrics) : List.TFAE [a.id = b.id, a.equals b = true, a.Agree b] := by
  tfae_have 1 ↔ 3 := id_eq_iff.trans agree_iff.symm
  tfae_have 2 → 1 := fun h => (equals_iff.1 h).2
  tfae_have 3 → 2 := by
    intro h
    obtain ⟨hname, -⟩ := agree_iff.1 h
    exact equals_iff.2 ⟨registry.eq_of_name_eq ha hb hname, id_eq_iff.2 (agree_iff.1 h)⟩
  tfae_finish

/-- A key of the number of retries. -/
def retriesOf (dimensions : List (String × String)) : AggregationKey :=
  ⟨Registry.coreMetric "RetryCount" .number .error, dimensions.map fun d => ⟨d.1, d.2⟩⟩

/-- Separators and quotes within values do not make keys the same. -/
theorem id_tfae_separators :
    (retriesOf [("a", "b\",\"c")]).id ≠ (retriesOf [("a\",\"b", "c")]).id ∧
      (retriesOf [("a", "]"), ("", "\\")]).id = (retriesOf [("a", "]"), ("", "\\")]).id ∧
      (retriesOf [("a", "]"), ("", "\\")]).equals (retriesOf [("a", "]"), ("", "\\")]) = true := by
  have hquoted := (id_tfae .builtIn (retriesOf [("a", "b\",\"c")]) (retriesOf [("a\",\"b", "c")])
    (by decide) (by decide)).out 0 2
  have hsame := id_tfae .builtIn (retriesOf [("a", "]"), ("", "\\")])
    (retriesOf [("a", "]"), ("", "\\")]) (by decide) (by decide)
  have hagree : (retriesOf [("a", "]"), ("", "\\")]).Agree (retriesOf [("a", "]"), ("", "\\")]) :=
    agree_iff.2 ⟨rfl, rfl⟩
  refine ⟨fun h => ?_, (hsame.out 2 0).1 hagree, (hsame.out 2 1).1 hagree⟩
  exact absurd ((hquoted.1 h).each 0 (by decide) (by decide)).1 (by decide)

end MetricPipeline.AggregationKey
