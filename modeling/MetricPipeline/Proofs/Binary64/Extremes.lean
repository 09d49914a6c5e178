import Mathlib.Data.Finset.Fold
import Mathlib.Order.WithBot
import MetricPipeline.Proofs.Aggregator
import MetricPipeline.Proofs.Limit

/-! The least and the greatest of doubles. NaN is below all others for the one and above all others for the
other, and every other double is known by its place; so the least and the greatest of a list are those of a
linear order, and depend on which doubles are in the list only, not on their order or number. -/

namespace MetricPipeline.Binary64

/-- Doubles other than NaN are told apart by their places, the two zeros included. -/
theorem place_inj {a b : Binary64} (ha : a.isNan = false) (hb : b.isNan = false)
    (h : a.place = b.place) : a = b := by
  cases a with
  | nan => simp [isNan] at ha
  | infinite p =>
    cases b with
    | nan => simp [isNan] at hb
    | infinite q => cases p <;> cases q <;> simp_all [place] <;> omega
    | finite q s => cases p <;> cases q <;> simp_all [place] <;> omega
  | finite p r =>
    cases b with
    | nan => simp [isNan] at hb
    | infinite q => cases p <;> cases q <;> simp_all [place] <;> omega
    | finite q s => cases p <;> cases q <;> simp_all [place] <;> omega

/-- Where a double stands when NaN is below all others. -/
def low (x : Binary64) : WithBot Int := if x.isNan then ⊥ else (x.place : WithBot Int)

/-- Where a double stands when NaN is above all others. -/
def high (x : Binary64) : WithTop Int := if x.isNan then ⊤ else (x.place : WithTop Int)

theorem isNan_iff {x : Binary64} : x.isNan = true ↔ x = .nan := by
  cases x <;> simp [isNan]

theorem min_nan (x : Binary64) : Binary64.min x .nan = .nan := by
  simp [Binary64.min, isNan]

theorem max_nan (x : Binary64) : Binary64.max x .nan = .nan := by
  simp [Binary64.max, isNan]

theorem low_of_isNan_eq_false {x : Binary64} (h : x.isNan = false) : low x = x.place := by
  simp [low, h]

theorem high_of_isNan_eq_false {x : Binary64} (h : x.isNan = false) : high x = x.place := by
  simp [high, h]

theorem low_injective : Function.Injective low := by
  intro a b h
  cases ha : a.isNan <;> cases hb : b.isNan <;> simp only [low, ha, hb] at h
  · exact place_inj ha hb (WithBot.coe_inj.1 h)
  · cases h
  · cases h
  · rw [isNan_iff.1 ha, isNan_iff.1 hb]

theorem high_injective : Function.Injective high := by
  intro a b h
  cases ha : a.isNan <;> cases hb : b.isNan <;> simp only [high, ha, hb] at h
  · exact place_inj ha hb (WithTop.coe_inj.1 h)
  · cases h
  · cases h
  · rw [isNan_iff.1 ha, isNan_iff.1 hb]

theorem low_min (a b : Binary64) : low (Binary64.min a b) = min (low a) (low b) := by
  cases ha : a.isNan with
  | true => rw [isNan_iff.1 ha]; exact (min_eq_left bot_le).symm
  | false =>
    cases hb : b.isNan with
    | true => rw [isNan_iff.1 hb, min_nan]; exact (min_eq_right bot_le).symm
    | false =>
      rw [low_of_isNan_eq_false ha, low_of_isNan_eq_false hb]
      rcases le_or_gt a.place b.place with h | h
      · rw [min_of_place_le ha hb h, low_of_isNan_eq_false ha, min_eq_left (WithBot.coe_le_coe.2 h)]
      · rw [min_of_place_lt ha hb h, low_of_isNan_eq_false hb, min_eq_right (WithBot.coe_le_coe.2 h.le)]

theorem high_max (a b : Binary64) : high (Binary64.max a b) = max (high a) (high b) := by
  cases ha : a.isNan with
  | true => rw [isNan_iff.1 ha]; exact (max_eq_left le_top).symm
  | false =>
    cases hb : b.isNan with
    | true => rw [isNan_iff.1 hb, max_nan]; exact (max_eq_right le_top).symm
    | false =>
      rw [high_of_isNan_eq_false ha, high_of_isNan_eq_false hb]
      rcases le_or_gt a.place b.place with h | h
      · rw [max_of_place_le ha hb h, high_of_isNan_eq_false hb, max_eq_right (WithTop.coe_le_coe.2 h)]
      · rw [max_of_place_lt ha hb h, high_of_isNan_eq_false ha, max_eq_left (WithTop.coe_le_coe.2 h.le)]

instance : Std.Commutative Binary64.min := ⟨fun a b => low_injective (by rw [low_min, low_min, min_comm])⟩

instance : Std.Associative Binary64.min := ⟨fun a b c => low_injective (by simp only [low_min, min_assoc])⟩

instance : Std.IdempotentOp Binary64.min := ⟨fun a => low_injective (by rw [low_min, min_self])⟩

instance : Std.Commutative Binary64.max := ⟨fun a b => high_injective (by rw [high_max, high_max, max_comm])⟩

instance : Std.Associative Binary64.max := ⟨fun a b c => high_injective (by simp only [high_max, max_assoc])⟩

instance : Std.IdempotentOp Binary64.max := ⟨fun a => high_injective (by rw [high_max, max_self])⟩

theorem foldl_eq_fold {α : Type} [DecidableEq α] (op : α → α → α) [Std.Commutative op]
    [Std.Associative op] [Std.IdempotentOp op] (initial : α) (items : List α) :
    items.foldl op initial = items.toFinset.fold op initial id := by
  -- from the end of the list, where the fold over the set takes its new member from
  induction items using List.reverseRecOn with
  | nil => rfl
  | append_singleton items a ih =>
    have hset : (items ++ [a]).toFinset = insert a items.toFinset := by
      ext b
      simp
    rw [List.foldl_append, List.foldl_cons, List.foldl_nil, ih, hset, Finset.fold_insert_idem]
    exact Std.Commutative.comm _ _

/-- What is selected from a list by an order depends on its members only. -/
theorem foldl_congr_of_mem_iff {α : Type} [DecidableEq α] (op : α → α → α) [Std.Commutative op]
    [Std.Associative op] [Std.IdempotentOp op] (initial : α) {xs ys : List α} (h : ∀ v, v ∈ xs ↔ v ∈ ys) :
    xs.foldl op initial = ys.foldl op initial := by
  have hset : xs.toFinset = ys.toFinset := by
    ext v
    simp [h]
  rw [foldl_eq_fold, foldl_eq_fold, hset]

theorem least_congr {xs ys : List Binary64} (h : ∀ v, v ∈ xs ↔ v ∈ ys) : least xs = least ys :=
  foldl_congr_of_mem_iff Binary64.min _ h

theorem greatest_congr {xs ys : List Binary64} (h : ∀ v, v ∈ xs ↔ v ∈ ys) :
    greatest xs = greatest ys :=
  foldl_congr_of_mem_iff Binary64.max _ h

end MetricPipeline.Binary64
