import MetricPipeline.Histogram
import MetricPipeline.Proofs.OrderedMap

/-! The histogram of a list of values is exact: it lists the distinct values in the order they first came,
each with the number of times it came, and every value is found where it is listed. -/

namespace MetricPipeline.Histogram

/-- The histogram of values added in order. -/
def ofList (values : List Binary64) : Histogram := values.foldl add empty

structure Exact (values : List Binary64) (histogram : Histogram) : Prop where
  values_eq : histogram.values.toList = values.eraseDups
  counts_eq : histogram.counts.toList = values.eraseDups.map (values.count ·)
  index_iff : ∀ (v : Binary64) (i : Nat),
    histogram.index[v]? = some i ↔ v ≠ .zero true ∧ histogram.values[i]? = some v
  negativeZero_iff : ∀ i : Nat, histogram.negativeZero = some i ↔ histogram.values[i]? = some (.zero true)

variable {values : List Binary64} {histogram : Histogram}

theorem exact_empty : Exact [] empty where
  values_eq := rfl
  counts_eq := rfl
  index_iff v i := by simp [empty]
  negativeZero_iff i := by simp [empty]

theorem Exact.placeOf?_iff (h : Exact values histogram) (v : Binary64) (i : Nat) :
    histogram.placeOf? v = some i ↔ histogram.values[i]? = some v := by
  unfold placeOf?
  split_ifs with hv
  · rw [hv, h.negativeZero_iff]
  · rw [h.index_iff]
    exact and_iff_right hv

theorem Exact.mem_iff (h : Exact values histogram) (v : Binary64) :
    v ∈ values ↔ ∃ i : Nat, histogram.values[i]? = some v := by
  rw [← List.mem_eraseDups, ← h.values_eq, Array.mem_toList_iff, Array.mem_iff_getElem?]

/-- Counting one more of the value at a place of a list without repeats. -/
theorem modify_map_count {distinct : List Binary64} (nodup : distinct.Nodup) {v : Binary64} {i : Nat}
    (hi : distinct[i]? = some v) :
    (distinct.map (values.count ·)).modify i (· + 1) = distinct.map ((values ++ [v]).count ·) := by
  refine List.ext_getElem? fun j => ?_
  rw [List.getElem?_modify, List.getElem?_map, List.getElem?_map]
  cases hj : distinct[j]? with
  | none => rfl
  | some u =>
    have hiff : i = j ↔ v = u := by
      constructor
      · rintro rfl
        exact Option.some.inj (hi.symm.trans hj)
      · rintro rfl
        obtain ⟨hlt, -⟩ := List.getElem?_eq_some_iff.1 hi
        exact (List.getElem?_inj hlt nodup).1 (hi.trans hj.symm)
    by_cases hu : v = u
    · simp [hiff.2 hu, hu]
    · simp [hiff, hu]

theorem Exact.add_seen (h : Exact values histogram) {v : Binary64} {place : Nat}
    (hplace : histogram.placeOf? v = some place) : Exact (values ++ [v]) (histogram.add v) := by
  have hat := (h.placeOf?_iff v place).1 hplace
  have hmem : v ∈ values := (h.mem_iff v).2 ⟨place, hat⟩
  have hadd : histogram.add v =
      { histogram with counts := histogram.counts.modify place (· + 1) } := by
    rw [add, hplace]
  rw [← Array.getElem?_toList, h.values_eq] at hat
  rw [hadd]
  constructor
  · show histogram.values.toList = _
    rw [h.values_eq, eraseDups_concat, if_pos hmem]
  · show (histogram.counts.modify place (· + 1)).toList = _
    rw [Array.toList_modify, h.counts_eq, eraseDups_concat, if_pos hmem,
      modify_map_count (nodup_eraseDups values) hat]
  · exact h.index_iff
  · exact h.negativeZero_iff

theorem Exact.add_unseen (h : Exact values histogram) {v : Binary64}
    (hplace : histogram.placeOf? v = none) : Exact (values ++ [v]) (histogram.add v) := by
  have hmem : v ∉ values := by
    intro hv
    obtain ⟨i, hi⟩ := (h.mem_iff v).1 hv
    rw [(h.placeOf?_iff v i).2 hi] at hplace
    cases hplace
  have hadd : histogram.add v = histogram.addNew v := by rw [add, hplace]
  have hpush : ∀ (i : Nat) (u : Binary64), (histogram.values.push v)[i]? = some u ↔
      histogram.values[i]? = some u ∨ i = histogram.size ∧ u = v := by
    intro i u
    rw [Array.getElem?_push]
    split_ifs with hi
    · subst hi
      simp [size, eq_comm]
    · simp [size, hi]
  have hnever : ∀ i : Nat, histogram.values[i]? ≠ some v := fun i hi => hmem ((h.mem_iff v).2 ⟨i, hi⟩)
  rw [hadd]
  constructor
  · show (histogram.values.push v).toList = _
    rw [Array.toList_push, h.values_eq, eraseDups_concat, if_neg hmem]
  · show (histogram.counts.push 1).toList = _
    have hsame : ∀ u ∈ values.eraseDups, values.count u = (values ++ [v]).count u := by
      intro u hu
      have hne : v ≠ u := by
        rintro rfl
        exact hmem (List.mem_eraseDups.1 hu)
      simp [hne]
    rw [Array.toList_push, h.counts_eq, eraseDups_concat, if_neg hmem, List.map_append,
      List.map_congr_left hsame]
    simp [List.count_eq_zero_of_not_mem hmem]
  · intro u i
    show (if v = .zero true then histogram.index else histogram.index.insert v histogram.size)[u]? =
      some i ↔ u ≠ .zero true ∧ (histogram.values.push v)[i]? = some u
    rw [hpush]
    split_ifs with hz
    · rw [h.index_iff]
      grind
    · rw [Std.HashMap.getElem?_insert]
      have := h.index_iff u i
      grind
  · intro i
    show (if v = .zero true then some histogram.size else histogram.negativeZero) = some i ↔
      (histogram.values.push v)[i]? = some (.zero true)
    rw [hpush]
    split_ifs with hz
    · have := h.negativeZero_iff i
      grind
    · rw [h.negativeZero_iff]
      grind

theorem Exact.add (h : Exact values histogram) (v : Binary64) :
    Exact (values ++ [v]) (histogram.add v) := by
  cases hplace : histogram.placeOf? v with
  | some place => exact h.add_seen hplace
  | none => exact h.add_unseen hplace

theorem exact_ofList (values : List Binary64) : Exact values (ofList values) := by
  induction values using List.reverseRecOn with
  | nil => exact exact_empty
  | append_singleton values v ih =>
    rw [ofList, List.foldl_append]
    exact ih.add v

theorem size_ofList (values : List Binary64) : (ofList values).size = values.eraseDups.length := by
  rw [size, ← Array.length_toList, (exact_ofList values).values_eq]

theorem length_counts_ofList (values : List Binary64) :
    (ofList values).counts.toList.length = (ofList values).values.toList.length := by
  rw [(exact_ofList values).counts_eq, (exact_ofList values).values_eq, List.length_map]

end MetricPipeline.Histogram
