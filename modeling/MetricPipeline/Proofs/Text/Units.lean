import Mathlib.Data.List.Lex
import MetricPipeline.Text.Units

/-! Comparing code units orders strings totally. The units of a character are known from the first of them,
since no character is a surrogate, so strings with the same units are the same. -/

namespace MetricPipeline.Text

/-- A character of the basic plane is not a surrogate. -/
theorem toNat_ranges (c : Char) :
    c.toNat < 0xD800 ∨ 0xE000 ≤ c.toNat ∧ c.toNat < 0x110000 := by
  rcases c.valid with h | h
  · exact Or.inl h
  · exact Or.inr ⟨h.1, h.2⟩

theorem charUnits_append_inj {c d : Char} {s t : List Nat}
    (h : charUnits c ++ s = charUnits d ++ t) : c = d ∧ s = t := by
  have hc := toNat_ranges c
  have hd := toNat_ranges d
  suffices hsame : c.toNat = d.toNat ∧ s = t from ⟨Char.toNat_inj.1 hsame.1, hsame.2⟩
  unfold charUnits at h
  split_ifs at h with hcb hdb hdb <;> simp only [List.cons_append, List.nil_append, List.cons.injEq] at h
  · exact h
  -- one unit against the first of two: the latter is a surrogate, and no character is
  · omega
  · omega
  · obtain ⟨hhigh, hlow, hst⟩ := h
    exact ⟨by omega, hst⟩

theorem charUnits_ne_nil (c : Char) : charUnits c ≠ [] := by
  unfold charUnits
  split_ifs <;> simp

theorem flatMap_charUnits_inj {s t : List Char} (h : s.flatMap charUnits = t.flatMap charUnits) : s = t := by
  induction s generalizing t with
  | nil =>
    cases t with
    | nil => rfl
    | cons d t => simp [charUnits_ne_nil] at h
  | cons c s ih =>
    cases t with
    | nil => simp [charUnits_ne_nil] at h
    | cons d t =>
      simp only [List.flatMap_cons] at h
      obtain ⟨rfl, hrest⟩ := charUnits_append_inj h
      rw [ih hrest]

theorem units_injective : Function.Injective units := fun _ _ h =>
  String.toList_inj.1 (flatMap_charUnits_inj h)

theorem unitsLe_iff {a b : String} : unitsLe a b = true ↔ units a ≤ units b := by
  simp [unitsLe]

theorem unitsLe_trans {a b c : String} (hab : unitsLe a b = true) (hbc : unitsLe b c = true) :
    unitsLe a c = true := by
  rw [unitsLe_iff] at *
  exact le_trans hab hbc

theorem unitsLe_total (a b : String) : (unitsLe a b || unitsLe b a) = true := by
  rw [Bool.or_eq_true, unitsLe_iff, unitsLe_iff]
  exact le_total _ _

theorem unitsLe_antisymm {a b : String} (hab : unitsLe a b = true) (hba : unitsLe b a = true) : a = b := by
  rw [unitsLe_iff] at hab hba
  exact units_injective (le_antisymm hab hba)

end MetricPipeline.Text
