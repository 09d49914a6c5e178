import MetricPipeline.Proofs.Aggregator
import MetricPipeline.Proofs.Binary64.Whole

/-! Adding whole numbers in doubles. A sum of whole numbers is rounded only beyond `2 ^ 53`, so a sum from
left to right is exact as long as the magnitudes do not sum up to more, and then no partial sum does. -/

namespace MetricPipeline.Binary64

theorem unitExponent_add_lt : 53 + unitExponent < 2046 := by decide

attribute [local irreducible] unitExponent

/-- The last whole number up to which all are doubles is a power of two. -/
theorem exists_last_eq : ∃ k, k < 2046 ∧ 2 ^ 53 * one = 1 * 2 ^ k :=
  ⟨53 + unitExponent, unitExponent_add_lt, by rw [one_eq, one_mul, pow_add]⟩

attribute [local irreducible] one

theorem unitsOfRank_rankOfNat_of_le {n : Nat} (h : n ≤ 2 ^ 53) :
    unitsOfRank (rankOfNat n) = n * one := by
  rcases h.lt_or_eq with h | rfl
  · exact unitsOfRank_rankOfNat h
  · obtain ⟨k, -, hk⟩ := exists_last_eq
    rw [rankOfNat, hk, unitsOfRank_rankBelow_shifted (by omega)]

theorem rankOfNat_lt_of_le {n : Nat} (h : n ≤ 2 ^ 53) : rankOfNat n < finiteRanks := by
  rcases h.lt_or_eq with h | rfl
  · exact rankOfNat_lt h
  · obtain ⟨k, hlt, hk⟩ := exists_last_eq
    rw [← unitsOfRank_lt, unitsOfRank_rankOfNat_of_le le_rfl, hk]
    exact shifted_lt_unitsOfRank (by omega) hlt

/-- Whole numbers up to `2 ^ 53` are not rounded. -/
theorem toInt?_ofUnits (negative : Bool) {n : Nat} (h : n ≤ 2 ^ 53) :
    (ofUnits negative (n * one) 1).toInt? = some (signed negative n) := by
  have hrank : nearestRank (n * one) 1 = rankOfNat n := by
    rw [← unitsOfRank_rankOfNat_of_le h, ← mul_one (unitsOfRank _), nearestRank_unitsOfRank Nat.one_pos]
  rw [ofUnits, hrank, ofRank, dif_pos (rankOfNat_lt_of_le h)]
  simp only [toInt?, unitsOfRank_rankOfNat_of_le h, Nat.mul_mod_left, if_true,
    Nat.mul_div_cancel n one_pos]

/-- There is one double for each whole number above zero. -/
theorem eq_whole_of_toInt? {x : Binary64} {n : Nat} (h : x.toInt? = some (n : Int)) (hpos : 0 < n)
    (hn : n < 2 ^ 53) : x = whole false n hn := by
  obtain ⟨negative, r, rfl, hunits⟩ := signedUnits_of_toInt? h
  have hcast : ((n * one : Nat) : Int) = (n : Int) * one := Nat.cast_mul n one
  have hpositive : 0 < n * one := Nat.mul_pos hpos one_pos
  obtain ⟨rfl, hr⟩ : negative = false ∧ unitsOfRank r = n * one := by
    rw [← hcast] at hunits
    generalize n * one = units at hunits hpositive
    unfold signedUnits signed at hunits
    cases negative with
    | true =>
      rw [if_pos rfl] at hunits
      omega
    | false =>
      rw [if_neg (by decide)] at hunits
      exact ⟨rfl, by omega⟩
  rw [← unitsOfRank_rankOfNat hn] at hr
  rw [whole]
  exact congrArg (finite false) (Fin.ext (unitsOfRank_strictMono.injective hr))

theorem toInt?_add {x y : Binary64} {a b : Int} (hx : x.toInt? = some a) (hy : y.toInt? = some b)
    (h : (a + b).natAbs ≤ 2 ^ 53) : (x + y).toInt? = some (a + b) := by
  obtain ⟨p, r, rfl, hr⟩ := signedUnits_of_toInt? hx
  obtain ⟨q, s, rfl, hs⟩ := signedUnits_of_toInt? hy
  have hpos : (0 : Int) < one := by exact_mod_cast one_pos
  show (Binary64.add _ _).toInt? = _
  simp only [Binary64.add, hr, hs, ← add_mul]
  split_ifs with hzero
  · have hab : a + b = 0 := (mul_eq_zero.1 hzero).resolve_right hpos.ne'
    rw [hab, zero, toInt?, unitsOfRank_low (by decide)]
    cases p <;> cases q <;> simp [signed]
  · have hneg : decide ((a + b) * (one : Int) < 0) = decide (a + b < 0) :=
      decide_eq_decide.2 (by rw [mul_neg_iff]; omega)
    rw [hneg, Int.natAbs_mul, Int.natAbs_natCast, toInt?_ofUnits _ h, signed_natAbs]

/-- The value of a whole double, zero of others. -/
def toWhole (x : Binary64) : Int := x.toInt?.getD 0

theorem toInt?_foldl_add {values : List Binary64} {initial : Binary64} {z : Int}
    (hinitial : initial.toInt? = some z) (hwhole : ∀ v ∈ values, v.toInt?.isSome = true)
    (hsum : z.natAbs + (values.map fun v => v.toWhole.natAbs).sum ≤ 2 ^ 53) :
    (values.foldl (· + ·) initial).toInt? = some (z + (values.map toWhole).sum) := by
  induction values generalizing initial z with
  | nil => simpa using hinitial
  | cons v values ih =>
    obtain ⟨w, hw⟩ := Option.isSome_iff_exists.1 (hwhole v List.mem_cons_self)
    have hv : v.toWhole = w := by rw [toWhole, hw, Option.getD_some]
    rw [List.map_cons, List.sum_cons, hv] at hsum
    -- the bound is on the magnitudes, so it holds of every partial sum whatever the signs are
    have hadd := toInt?_add hinitial hw (by omega)
    rw [List.foldl_cons, ih hadd (fun u hu => hwhole u (List.mem_cons_of_mem v hu)) (by omega),
      List.map_cons, List.sum_cons, hv, add_assoc]

/-- A sum of whole numbers whose magnitudes sum up to `2 ^ 53` at most is exact. -/
theorem toInt?_total {values : List Binary64} (hwhole : ∀ v ∈ values, v.toInt?.isSome = true)
    (hsum : (values.map fun v => v.toWhole.natAbs).sum ≤ 2 ^ 53) :
    (total values).toInt? = some (values.map toWhole).sum := by
  have hzero : (zero false).toInt? = some 0 := by
    rw [zero, toInt?, unitsOfRank_low (by decide)]
    simp [signed]
  have h := toInt?_foldl_add hzero hwhole (by simpa using hsum)
  rwa [zero_add] at h

end MetricPipeline.Binary64
