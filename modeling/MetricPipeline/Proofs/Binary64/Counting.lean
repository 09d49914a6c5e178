import MetricPipeline.Proofs.Binary64.Extremes
import MetricPipeline.Proofs.Binary64.Order
import MetricPipeline.Proofs.Binary64.WholeSum

/-! Counting in doubles. Numbers below `2 ^ 53` are added, subtracted and compared as numbers. -/

namespace MetricPipeline.Binary64

theorem toInt?_ofNat {n : Nat} (h : n < 2 ^ 53) : (ofNat n).toInt? = some (n : Int) :=
  toInt?_ofInt (by rwa [Int.natAbs_natCast])

theorem toInt?_neg {x : Binary64} {z : Int} (h : x.toInt? = some z) : (-x).toInt? = some (-z) := by
  cases x with
  | nan => cases h
  | infinite negative => cases h
  | finite negative r =>
    show (finite (!negative) r).toInt? = _
    rw [toInt?] at h ⊢
    split_ifs at h ⊢
    obtain rfl := Option.some.inj h
    rw [signed_not]

theorem eq_ofNat_of_toInt? {x : Binary64} {n : Nat} (h : x.toInt? = some (n : Int)) (hpos : 0 < n)
    (hn : n < 2 ^ 53) : x = ofNat n := by
  rw [ofNat_eq_whole hn]
  exact eq_whole_of_toInt? h hpos hn

theorem ofNat_add_ofNat {m n : Nat} (hpos : 0 < m + n) (h : m + n < 2 ^ 53) :
    ofNat m + ofNat n = ofNat (m + n) := by
  refine eq_ofNat_of_toInt? ?_ hpos h
  exact toInt?_add (toInt?_ofNat (by omega)) (toInt?_ofNat (by omega)) (by omega)

theorem ofNat_sub_ofNat {m n : Nat} (hlt : n < m) (h : m < 2 ^ 53) : ofNat m - ofNat n = ofNat (m - n) := by
  refine eq_ofNat_of_toInt? ?_ (by omega) (by omega)
  have hadd := toInt?_add (toInt?_ofNat h) (toInt?_neg (toInt?_ofNat (hlt.trans h))) (by omega)
  rw [Int.ofNat_sub hlt.le]
  exact hadd

theorem lt_ofNat {m n : Nat} (hm : m < 2 ^ 53) (hn : n < 2 ^ 53) :
    (ofNat m).lt (ofNat n) = decide (m < n) := by
  rw [ofNat, ofNat, lt_ofInt (by rwa [Int.natAbs_natCast]) (by rwa [Int.natAbs_natCast])]
  exact decide_eq_decide.2 Int.ofNat_lt

/-- Above the numbers that are doubles there are doubles that no such number exceeds. -/
theorem le_ofNat {m n : Nat} (hm : m < 2 ^ 53) : (ofNat m).le (ofNat n) = decide (m ≤ n) := by
  rcases Nat.lt_or_ge n m with hlt | hge
  · have hrank := (rankOfNat_lt_rankOfNat (hlt.trans hm) hm).2 hlt
    rw [ofNat_eq_whole hm, ofNat_eq_whole (hlt.trans hm)]
    show decide ((rankOfNat m : Int) ≤ rankOfNat n) = decide (m ≤ n)
    exact decide_eq_decide.2 (by omega)
  · rw [le_ofNat_of_toInt?_le (toInt?_ofNat hm) (Int.ofNat_le.2 hge)]
    exact (decide_eq_true hge).symm

theorem min_ofNat {m n : Nat} (hm : m < 2 ^ 53) (hn : n < 2 ^ 53) :
    Binary64.min (ofNat m) (ofNat n) = ofNat (Nat.min m n) := by
  have hplace := place_whole_false hm
  have hplace' := place_whole_false hn
  rw [ofNat_eq_whole hm, ofNat_eq_whole hn]
  rcases Nat.lt_or_ge n m with hlt | hge
  · have hrank := (rankOfNat_lt_rankOfNat hn hm).2 hlt
    rw [min_of_place_lt rfl rfl (by omega), ← ofNat_eq_whole hn]
    exact congrArg ofNat (Nat.min_eq_right hlt.le).symm
  · have hrank := (rankOfNat_le hm hn).2 hge
    rw [min_of_place_le rfl rfl (by omega), ← ofNat_eq_whole hm]
    exact congrArg ofNat (Nat.min_eq_left hge).symm

/-! What is not a number stays so -/

theorem nan_sub (x : Binary64) : nan - x = nan := rfl

theorem add_nan (x : Binary64) : x + nan = nan := by cases x <;> rfl

theorem nan_min (x : Binary64) : Binary64.min nan x = nan := rfl

theorem nan_le (x : Binary64) : nan.le x = false := rfl

theorem nan_lt (x : Binary64) : nan.lt x = false := rfl

end MetricPipeline.Binary64
