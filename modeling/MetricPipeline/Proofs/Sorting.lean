import Mathlib.Data.List.Basic
import Mathlib.Data.List.Perm.Basic

/-! A stable sort by keys keeps the items of each key in their order, and these are all that it depends on:
two lists are sorted into the same list exactly when they have the same items of each key in the same
order. -/

namespace MetricPipeline

/-- A comparison that orders keys totally. -/
structure TotalOrder {κ : Type} (le : κ → κ → Bool) : Prop where
  trans : ∀ {a b c}, le a b = true → le b c = true → le a c = true
  total : ∀ a b, (le a b || le b a) = true
  antisymm : ∀ {a b}, le a b = true → le b a = true → a = b

theorem TotalOrder.refl {κ : Type} {le : κ → κ → Bool} (h : TotalOrder le) (k : κ) : le k k = true := by
  simpa using h.total k k

namespace TotalOrder

variable {α κ : Type} {le : κ → κ → Bool} {key : α → κ}

theorem trans_key (h : TotalOrder le) (key : α → κ) (a b c : α) (hab : le (key a) (key b) = true)
    (hbc : le (key b) (key c) = true) : le (key a) (key c) = true := h.trans hab hbc

theorem total_key (h : TotalOrder le) (key : α → κ) (a b : α) :
    (le (key a) (key b) || le (key b) (key a)) = true := h.total _ _

theorem pairwise_mergeSort (h : TotalOrder le) (items : List α) :
    (items.mergeSort fun a b => le (key a) (key b)).Pairwise fun a b => le (key a) (key b) = true :=
  List.pairwise_mergeSort (h.trans_key key) (h.total_key key) items

variable [DecidableEq κ]

theorem pairwise_filter_key (h : TotalOrder le) (items : List α) (k : κ) :
    (items.filter fun a => key a = k).Pairwise fun a b => le (key a) (key b) = true := by
  refine List.pairwise_iff_forall_sublist.2 fun {a b} hab => ?_
  have ha := hab.subset List.mem_cons_self
  have hb := hab.subset (List.mem_cons_of_mem _ List.mem_cons_self)
  simp only [List.mem_filter, decide_eq_true_eq] at ha hb
  rw [ha.2, hb.2]
  exact h.refl k

/-- The items of one key are in the sorted list as they were. -/
theorem filter_mergeSort (h : TotalOrder le) (items : List α) (k : κ) :
    (items.mergeSort fun a b => le (key a) (key b)).filter (fun a => key a = k) =
      items.filter fun a => key a = k := by
  have hkept : (items.filter fun a => key a = k).Sublist
      (items.mergeSort fun a b => le (key a) (key b)) :=
    List.sublist_mergeSort (h.trans_key key) (h.total_key key) (h.pairwise_filter_key items k)
      List.filter_sublist
  have hsub := hkept.filter fun a => key a = k
  rw [List.filter_filter] at hsub
  simp only [Bool.and_self] at hsub
  exact (hsub.eq_of_length ((List.mergeSort_perm items _).filter _).length_eq.symm).symm

theorem mem_iff_of_filter_eq {xs ys : List α}
    (h : ∀ k, xs.filter (fun a => key a = k) = ys.filter fun a => key a = k) (a : α) :
    a ∈ xs ↔ a ∈ ys := by
  have hmem : a ∈ xs.filter (fun b => key b = key a) ↔ a ∈ ys.filter fun b => key b = key a := by
    rw [h]
  simpa using hmem

/-- Sorted lists with the same items of each key are the same: their first items are of the least key, and
each is the first item of its key. -/
theorem eq_of_filter_eq (h : TotalOrder le) {xs ys : List α}
    (hx : xs.Pairwise fun a b => le (key a) (key b) = true)
    (hy : ys.Pairwise fun a b => le (key a) (key b) = true)
    (hsame : ∀ k, xs.filter (fun a => key a = k) = ys.filter fun a => key a = k) : xs = ys := by
  have hmem := mem_iff_of_filter_eq hsame
  induction xs generalizing ys with
  | nil => exact (List.eq_nil_iff_forall_not_mem.2 fun a ha => List.not_mem_nil ((hmem a).2 ha)).symm
  | cons a xs ih =>
    cases ys with
    | nil => exact absurd ((hmem a).1 List.mem_cons_self) List.not_mem_nil
    | cons b ys =>
      rw [List.pairwise_cons] at hx hy
      have hab : le (key a) (key b) = true := by
        rcases List.mem_cons.1 ((hmem b).2 List.mem_cons_self) with rfl | hb
        · exact h.refl _
        · exact hx.1 b hb
      have hba : le (key b) (key a) = true := by
        rcases List.mem_cons.1 ((hmem a).1 List.mem_cons_self) with rfl | ha
        · exact h.refl _
        · exact hy.1 a ha
      -- `a` and `b` share their key but may differ: that they do not is known from the items of this key
      have hkey := h.antisymm hab hba
      have hfirst := hsame (key a)
      rw [List.filter_cons_of_pos (by simp), List.filter_cons_of_pos (by simp [hkey])] at hfirst
      obtain rfl : a = b := (List.cons.inj hfirst).1
      have hrest : ∀ k, xs.filter (fun a => key a = k) = ys.filter fun a => key a = k := by
        intro k
        have hk := hsame k
        rw [List.filter_cons, List.filter_cons] at hk
        split_ifs at hk
        · exact (List.cons.inj hk).2
        · exact hk
      rw [ih hx.2 hy.2 hrest (mem_iff_of_filter_eq hrest)]

theorem mergeSort_eq_iff (h : TotalOrder le) (key : α → κ) {xs ys : List α} :
    (xs.mergeSort fun a b => le (key a) (key b)) = (ys.mergeSort fun a b => le (key a) (key b)) ↔
      ∀ k, xs.filter (fun a => key a = k) = ys.filter fun a => key a = k := by
  constructor
  · intro heq k
    rw [← h.filter_mergeSort xs, ← h.filter_mergeSort ys, heq]
  · intro hsame
    refine h.eq_of_filter_eq (h.pairwise_mergeSort xs) (h.pairwise_mergeSort ys) fun k => ?_
    rw [h.filter_mergeSort, h.filter_mergeSort, hsame k]

end TotalOrder
end MetricPipeline
