import Mathlib.Data.List.DropRight
import Mathlib.Data.List.TakeWhile
import MetricPipeline.Text.Blank

/-! Lists split at commas. Nothing but commas and blanks is left out, so a list has no items exactly when it
holds nothing else. -/

namespace MetricPipeline.Text

theorem split_ne_nil (separator : Char) (s : List Char) : split separator s ≠ [] := by
  cases s with
  | nil => exact List.cons_ne_nil _ _
  | cons c rest =>
    rw [split]
    split
    · exact List.cons_ne_nil _ _
    · split <;> exact List.cons_ne_nil _ _

/-- Only the separators are lost. -/
theorem flatten_split (separator : Char) (s : List Char) :
    (split separator s).flatten = s.filter (· ≠ separator) := by
  induction s with
  | nil => rfl
  | cons c rest ih =>
    rw [split]
    split_ifs with hc
    · rw [List.flatten_cons, List.nil_append, ih, List.filter_cons_of_neg (by simpa using hc)]
    · rw [List.filter_cons_of_pos (by simpa using hc), ← ih]
      cases hsplit : split separator rest with
      | nil => exact absurd hsplit (split_ne_nil separator rest)
      | cons piece pieces => rfl

theorem trim_eq_nil_iff {s : List Char} : trim s = [] ↔ ∀ c ∈ s, isBlank c = true := by
  have hback : ∀ t : List Char, t.reverse.dropWhile isBlank = [] ↔ ∀ c ∈ t, isBlank c = true := by
    intro t
    rw [List.dropWhile_eq_nil_iff]
    simp only [List.mem_reverse]
  rw [trim, List.reverse_eq_nil_iff, hback, ← List.dropWhile_eq_nil_iff, List.dropWhile_idempotent,
    List.dropWhile_eq_nil_iff]

theorem commaList_eq_nil_iff {s : String} :
    commaList s = [] ↔ ∀ c ∈ s.toList, c = ',' ∨ isBlank c = true := by
  have hpieces : commaList s = [] ↔ ∀ piece ∈ split ',' s.toList, ∀ c ∈ piece, isBlank c = true := by
    simp only [commaList, List.map_eq_nil_iff, List.filter_eq_nil_iff, List.forall_mem_map,
      decide_not, Bool.not_eq_true, Bool.not_eq_false', decide_eq_true_eq, trim_eq_nil_iff]
  have hflat : (∀ piece ∈ split ',' s.toList, ∀ c ∈ piece, isBlank c = true) ↔
      ∀ c ∈ (split ',' s.toList).flatten, isBlank c = true := List.forall_mem_flatten.symm
  rw [hpieces, hflat, flatten_split]
  simp only [List.mem_filter, decide_eq_true_eq, and_imp]
  exact forall₂_congr fun c _ => ⟨fun h => or_iff_not_imp_left.2 h, fun h => or_iff_not_imp_left.1 h⟩

end MetricPipeline.Text
