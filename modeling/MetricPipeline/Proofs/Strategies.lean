import Mathlib.Algebra.BigOperators.Group.Finset.Basic
import MetricPipeline.Proofs.Binary64.Extremes
import MetricPipeline.Proofs.Binary64.WholeSum
import MetricPipeline.Registry.BuiltIn

/-! Summaries and exact histograms tell the same. A summary of values can be computed from their histogram, in
whatever order either has received them: the number of values is the sum of the counts, the extremes are
those of the distinct values, and a sum of whole numbers is that of the entries. -/

namespace MetricPipeline

/-- Adding up over a list is adding up over its distinct items, each as often as it comes. -/
theorem sum_map_eraseDups {α M : Type} [DecidableEq α] [AddCommMonoid M] (items : List α) (f : α → M) :
    (items.eraseDups.map fun a => items.count a • f a).sum = (items.map f).sum := by
  have hset : items.eraseDups.toFinset = items.toFinset := by
    ext a
    simp
  rw [Finset.sum_list_map_count items f, ← hset, List.sum_toFinset _ (nodup_eraseDups items)]

namespace Histogram

variable {values : List Binary64}

theorem sum_counts_ofList (values : List Binary64) :
    (ofList values).counts.toList.sum = values.length := by
  rw [(exact_ofList values).counts_eq]
  have h := sum_map_eraseDups values fun _ => 1
  simpa using h

theorem mem_values_ofList {v : Binary64} : v ∈ (ofList values).values.toList ↔ v ∈ values := by
  rw [(exact_ofList values).values_eq, List.mem_eraseDups]

/-- The sum of whole values, each times its count. -/
def wholeSum (histogram : Histogram) : Int :=
  (List.zipWith (fun (v : Binary64) (n : Nat) => v.toWhole * n) histogram.values.toList histogram.counts.toList).sum

theorem wholeSum_ofList (values : List Binary64) :
    (ofList values).wholeSum = (values.map Binary64.toWhole).sum := by
  have h := sum_map_eraseDups values Binary64.toWhole
  rw [wholeSum, (exact_ofList values).values_eq, (exact_ofList values).counts_eq,
    List.zipWith_map_right, List.zipWith_self, ← h]
  simp only [nsmul_eq_mul, mul_comm]

end Histogram

/-- What a summary and a histogram of the same values have in common. -/
structure Summary.Agrees (summary : Summary) (histogram : Histogram) : Prop where
  count : summary.count = histogram.counts.toList.sum
  minimum : summary.minimum = .least histogram.values.toList
  maximum : summary.maximum = .greatest histogram.values.toList

theorem Summary.agrees_ofList {xs ys : List Binary64} (h : xs.Perm ys) :
    (ofList xs).Agrees (.ofList ys) where
  count := by
    rw [Histogram.sum_counts_ofList]
    exact h.length_eq
  minimum := Binary64.least_congr fun v => by rw [Histogram.mem_values_ofList, h.mem_iff]
  maximum := Binary64.greatest_congr fun v => by rw [Histogram.mem_values_ofList, h.mem_iff]

theorem Summary.sum_ofList {xs ys : List Binary64} (h : xs.Perm ys)
    (hwhole : ∀ v ∈ xs, v.toInt?.isSome = true)
    (hsum : (xs.map fun v => v.toWhole.natAbs).sum ≤ 2 ^ 53) :
    (ofList xs).sum.toInt? = some (Histogram.ofList ys).wholeSum := by
  rw [Histogram.wholeSum_ofList, ← (h.map Binary64.toWhole).sum_eq]
  exact Binary64.toInt?_total hwhole hsum

/-- Of the values of a key, in any two orders, a summary and a histogram agree in number and extremes, and
in the sum of whole values that do not exceed `2 ^ 53` together. Number and extremes are the same in every
order. -/
theorem strategies_agree (key : AggregationKey) (summarizing detailing : List Metric)
    (hsummarizing : key.metric ∉ summarizing) (hdetailing : key.metric ∈ detailing)
    (xs ys : List Binary64) (hperm : xs.Perm ys) :
    ∃ summary reordered histogram,
      (Aggregator.collect summarizing key xs).tally = .summary summary ∧
      (Aggregator.collect summarizing key ys).tally = .summary reordered ∧
      (Aggregator.collect detailing key ys).tally = .detailed histogram ∧
      summary.Agrees histogram ∧
      ((∀ v ∈ xs, v.toInt?.isSome = true) → (xs.map fun v => v.toWhole.natAbs).sum ≤ 2 ^ 53 →
        summary.sum.toInt? = some histogram.wholeSum) ∧
      reordered.count = summary.count ∧ reordered.minimum = summary.minimum ∧
        reordered.maximum = summary.maximum := by
  refine ⟨.ofList xs, .ofList ys, .ofList ys, ?_, ?_, ?_, Summary.agrees_ofList hperm,
    Summary.sum_ofList hperm, hperm.symm.length_eq, Binary64.least_congr fun v => hperm.symm.mem_iff,
    Binary64.greatest_congr fun v => hperm.symm.mem_iff⟩
  · rw [Aggregator.tally_collect, if_neg hsummarizing]
  · rw [Aggregator.tally_collect, if_neg hsummarizing]
  · rw [Aggregator.tally_collect, if_pos hdetailing]

/-- Whole values with both zeros and a repeat, and the same ones the other way round. -/
theorem strategies_agree_zeros :
    ∃ summary histogram,
      (Aggregator.collect [] ⟨Registry.coreMetric "RetryCount" .number .error, []⟩
        [.ofInt 3, .zero true, .ofInt 3, .zero false, .ofInt (-2)]).tally = .summary summary ∧
      (Aggregator.collect [Registry.coreMetric "RetryCount" .number .error]
        ⟨Registry.coreMetric "RetryCount" .number .error, []⟩
        [.ofInt (-2), .zero false, .ofInt 3, .zero true, .ofInt 3]).tally = .detailed histogram ∧
      summary.Agrees histogram ∧ summary.sum.toInt? = some histogram.wholeSum := by
  obtain ⟨summary, -, histogram, hsummary, -, hhistogram, hagrees, hsum, -⟩ :=
    strategies_agree ⟨Registry.coreMetric "RetryCount" .number .error, []⟩ []
      [Registry.coreMetric "RetryCount" .number .error] List.not_mem_nil (List.mem_singleton_self _)
      [.ofInt 3, .zero true, .ofInt 3, .zero false, .ofInt (-2)]
      [.ofInt (-2), .zero false, .ofInt 3, .zero true, .ofInt 3] (by decide +kernel)
  exact ⟨summary, histogram, hsummary, hhistogram, hagrees, hsum (by decide +kernel) (by decide +kernel)⟩

end MetricPipeline
