import MetricPipeline.Proofs.Binary64.Rounding

/-! Whole numbers below `2 ^ 53` are doubles: building one from an integer, rounding to it and reading the
integer back are exact. -/

namespace MetricPipeline.Binary64

theorem one_pos : 0 < one := by
  obtain ⟨k, -, -, hk⟩ := exists_one_eq
  rw [hk]
  exact Nat.two_pow_pos k

/-- The rank of a whole number. -/
def rankOfNat (n : Nat) : Nat := rankBelow (n * one)

/-- A number of at most 53 binary digits followed by zeros is a magnitude. -/
theorem unitsOfRank_rankBelow_shifted {n k : Nat} (h : n < 2 ^ 53) :
    unitsOfRank (rankBelow (n * 2 ^ k)) = n * 2 ^ k := by
  have hk : (n * 2 ^ k).log2 - 52 ≤ k := by
    rcases Nat.eq_zero_or_pos (n * 2 ^ k) with h0 | hpos
    · rw [h0]
      exact Nat.zero_le _
    · have hlt : n * 2 ^ k < 2 ^ (53 + k) := by
        rw [pow_add]
        exact Nat.mul_lt_mul_of_pos_right h (Nat.two_pow_pos k)
      have := (Nat.log2_lt hpos.ne').2 hlt
      omega
  rw [unitsOfRank_rankBelow, Nat.div_mul_cancel (Dvd.dvd.mul_left (pow_dvd_pow 2 hk) n)]

theorem unitsOfRank_rankOfNat {n : Nat} (h : n < 2 ^ 53) : unitsOfRank (rankOfNat n) = n * one := by
  obtain ⟨k, -, -, hk⟩ := exists_one_eq
  rw [rankOfNat, hk]
  exact unitsOfRank_rankBelow_shifted h

theorem shifted_lt_unitsOfRank {n k e : Nat} (h : n < 2 ^ 53) (hk : k < e) :
    n * 2 ^ k < unitsOfRank ((e + 1) * 2 ^ 52) := by
  rw [← Nat.add_zero ((e + 1) * 2 ^ 52), unitsOfRank_block (by omega)]
  calc n * 2 ^ k < 2 ^ 53 * 2 ^ k := Nat.mul_lt_mul_of_pos_right h (Nat.two_pow_pos k)
    _ = 2 ^ 52 * 2 ^ (k + 1) := by ring
    _ ≤ (2 ^ 52 + 0) * 2 ^ e := Nat.mul_le_mul_left _ (Nat.pow_le_pow_right (by omega) hk)

theorem rankOfNat_lt {n : Nat} (h : n < 2 ^ 53) : rankOfNat n < finiteRanks := by
  obtain ⟨k, -, hlt, hk⟩ := exists_one_eq
  rw [← unitsOfRank_lt, unitsOfRank_rankOfNat h, hk]
  exact shifted_lt_unitsOfRank h hlt

theorem rankOfNat_le {m n : Nat} (hm : m < 2 ^ 53) (hn : n < 2 ^ 53) :
    rankOfNat m ≤ rankOfNat n ↔ m ≤ n := by
  rw [← unitsOfRank_le, unitsOfRank_rankOfNat hm, unitsOfRank_rankOfNat hn]
  exact Nat.mul_le_mul_right_iff one_pos

theorem rankOfNat_lt_rankOfNat {m n : Nat} (hm : m < 2 ^ 53) (hn : n < 2 ^ 53) :
    rankOfNat m < rankOfNat n ↔ m < n := by
  rw [← not_le, rankOfNat_le hn hm, not_le]

/-- A whole number as a double of either sign. -/
def whole (negative : Bool) (n : Nat) (h : n < 2 ^ 53) : Binary64 :=
  .finite negative ⟨rankOfNat n, rankOfNat_lt h⟩

theorem ofUnits_mul (negative : Bool) {n den : Nat} (hden : 0 < den) (h : n < 2 ^ 53) :
    ofUnits negative (n * one * den) den = whole negative n h := by
  rw [ofUnits, ← unitsOfRank_rankOfNat h, nearestRank_unitsOfRank hden, ofRank,
    dif_pos (rankOfNat_lt h), whole]

theorem ofUnits_whole (negative : Bool) {n : Nat} (h : n < 2 ^ 53) :
    ofUnits negative (n * one) 1 = whole negative n h := by
  have := ofUnits_mul negative Nat.one_pos h
  rwa [mul_one] at this

theorem ofInt_eq_whole {z : Int} (h : z.natAbs < 2 ^ 53) : ofInt z = whole (z < 0) z.natAbs h :=
  ofUnits_whole _ h

theorem ofNat_eq_whole {n : Nat} (h : n < 2 ^ 53) : ofNat n = whole false n h := by
  have hneg : decide ((n : Int) < 0) = false := by simp
  rw [ofNat, ofInt, hneg, Int.natAbs_natCast, ofUnits_whole]

theorem ofInt_natCast_eq_whole {n : Nat} (h : n < 2 ^ 53) : ofInt (n : Int) = whole false n h :=
  ofNat_eq_whole h

theorem ofInt_neg_eq_whole {n : Nat} (hpos : 0 < n) (h : n < 2 ^ 53) :
    ofInt (-(n : Int)) = whole true n h := by
  have hneg : decide (-(n : Int) < 0) = true := by simpa using hpos
  rw [ofInt, hneg, Int.natAbs_neg, Int.natAbs_natCast, ofUnits_whole]

theorem toInt?_whole (negative : Bool) {n : Nat} (h : n < 2 ^ 53) :
    (whole negative n h).toInt? = some (signed negative n) := by
  simp only [toInt?, whole, unitsOfRank_rankOfNat h, Nat.mul_mod_left, if_true,
    Nat.mul_div_cancel n one_pos]

theorem truncate?_whole (negative : Bool) {n : Nat} (h : n < 2 ^ 53) :
    (whole negative n h).truncate? = some (signed negative n) := by
  simp only [truncate?, whole, unitsOfRank_rankOfNat h, Nat.mul_div_cancel n one_pos]

theorem signed_natAbs (z : Int) : signed (z < 0) z.natAbs = z := by
  unfold signed
  split_ifs with h
  · have : z < 0 := by simpa using h
    omega
  · have : ¬z < 0 := by simpa using h
    omega

theorem toInt?_ofInt {z : Int} (h : z.natAbs < 2 ^ 53) : (ofInt z).toInt? = some z := by
  rw [ofInt_eq_whole h, toInt?_whole, signed_natAbs]

theorem truncate?_ofInt {z : Int} (h : z.natAbs < 2 ^ 53) : (ofInt z).truncate? = some z := by
  rw [ofInt_eq_whole h, truncate?_whole, signed_natAbs]

/-! Doubles that are whole -/

section

attribute [local irreducible] one

theorem signedUnits_of_toInt? {x : Binary64} {z : Int} (h : x.toInt? = some z) :
    ∃ negative r, x = .finite negative r ∧ signedUnits negative r = z * one := by
  cases x with
  | nan => cases h
  | infinite negative => cases h
  | finite negative r =>
    refine ⟨negative, r, rfl, ?_⟩
    unfold toInt? at h
    dsimp only at h
    split_ifs at h with hwhole
    obtain rfl := Option.some.inj h
    have hunits : unitsOfRank r = unitsOfRank r / one * one :=
      (Nat.div_mul_cancel (Nat.dvd_of_mod_eq_zero hwhole)).symm
    have hcast : (unitsOfRank r : Int) = (unitsOfRank r / one : Nat) * (one : Int) := by
      exact_mod_cast hunits
    unfold signedUnits signed
    split_ifs
    · rw [neg_mul, ← hcast]
    · exact hcast

/-- A whole double is its own floor. -/
theorem floor_of_toInt? {x : Binary64} {z : Int} (h : x.toInt? = some z) : x.floor = x := by
  have hround : ∀ (negative : Bool) (r : Fin finiteRanks),
      ofUnits negative (unitsOfRank r) 1 = .finite negative r := by
    intro negative r
    have hrank := nearestRank_unitsOfRank Nat.one_pos r
    rw [Nat.mul_one] at hrank
    rw [ofUnits, hrank, ofRank, dif_pos r.isLt]
  cases x with
  | nan => rfl
  | infinite negative => rfl
  | finite negative r =>
    rw [toInt?] at h
    split_ifs at h with hwhole
    have hdown : unitsOfRank r / one * one = unitsOfRank r :=
      Nat.div_mul_cancel (Nat.dvd_of_mod_eq_zero hwhole)
    cases negative with
    | false => rw [floor, hdown, hround]
    | true =>
      have hup : (unitsOfRank r + (one - 1)) / one = unitsOfRank r / one := by
        have hpos := one_pos
        rw [← hdown, Nat.mul_comm, Nat.mul_add_div hpos, Nat.mul_div_cancel_left _ hpos,
          Nat.div_eq_of_lt (Nat.sub_one_lt hpos.ne'), Nat.add_zero]
      rw [floor, hup, hdown, hround]

end

end MetricPipeline.Binary64
