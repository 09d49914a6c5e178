import MetricPipeline.Proofs.Binary64.Whole

/-! Doubles are compared by their positions on the number line, which for whole numbers are in the order of
the integers. -/

namespace MetricPipeline.Binary64

theorem le_iff {a b : Binary64} :
    a.le b = true ↔ ∃ p q, a.position? = some p ∧ b.position? = some q ∧ p ≤ q := by
  unfold le
  split
  · next p q hp hq => simp [hp, hq]
  · next hnone =>
    constructor
    · exact fun h => absurd h Bool.false_ne_true
    · rintro ⟨p, q, hp, hq, -⟩
      exact absurd hq (hnone p q hp)

theorem le_trans {a b c : Binary64} (hab : a.le b = true) (hbc : b.le c = true) : a.le c = true := by
  obtain ⟨p, q, hp, hq, hpq⟩ := le_iff.1 hab
  obtain ⟨q', r, hq', hr, hqr⟩ := le_iff.1 hbc
  obtain rfl : q = q' := Option.some.inj (hq.symm.trans hq')
  exact le_iff.2 ⟨p, r, hp, hr, hpq.trans hqr⟩

theorem rankOfNat_zero : rankOfNat 0 = 0 := by
  rw [rankOfNat, Nat.zero_mul]
  rfl

theorem rankOfNat_pos {n : Nat} (h : n < 2 ^ 53) : 0 < rankOfNat n ↔ 0 < n := by
  have hlt := rankOfNat_lt_rankOfNat (m := 0) (by omega) h
  rwa [rankOfNat_zero] at hlt

/-- A quotient by a whole number is rounded once. -/
theorem finite_div_ofNat (negative : Bool) (r : Fin finiteRanks) {n : Nat} (hpos : 0 < n) (hn : n < 2 ^ 53) :
    finite negative r / ofNat n = ofUnits negative (unitsOfRank r * one) (n * one) := by
  have hrank : rankOfNat n ≠ 0 := ((rankOfNat_pos hn).2 hpos).ne'
  rw [ofNat_eq_whole hn]
  show Binary64.div (finite _ _) (whole _ _ _) = _
  simp only [Binary64.div, whole, hrank, if_false, Bool.bne_false, unitsOfRank_rankOfNat hn]

theorem position?_ofInt {z : Int} (h : z.natAbs < 2 ^ 53) :
    (ofInt z).position? = some (signed (z < 0) (rankOfNat z.natAbs)) := by
  rw [ofInt_eq_whole h]
  rfl

theorem lt_ofInt {a b : Int} (ha : a.natAbs < 2 ^ 53) (hb : b.natAbs < 2 ^ 53) :
    (ofInt a).lt (ofInt b) = decide (a < b) := by
  have horder := rankOfNat_lt_rankOfNat ha hb
  have horder' := rankOfNat_lt_rankOfNat hb ha
  have hposa := rankOfNat_pos ha
  have hposb := rankOfNat_pos hb
  rw [lt, position?_ofInt ha, position?_ofInt hb]
  refine decide_eq_decide.2 ?_
  unfold signed
  split_ifs with h₁ h₂ h₂ <;> simp only [decide_eq_true_eq] at h₁ h₂ <;> omega

/-- Whole doubles are in the order of the integers. -/
theorem le_of_toInt? {x y : Binary64} {a b : Int} (hx : x.toInt? = some a) (hy : y.toInt? = some b) :
    x.le y = decide (a ≤ b) := by
  obtain ⟨p, r, rfl, hr⟩ := signedUnits_of_toInt? hx
  obtain ⟨q, s, rfl, hs⟩ := signedUnits_of_toInt? hy
  have hpos : (0 : Int) < one := by exact_mod_cast one_pos
  have horder : signedUnits p r ≤ signedUnits q s ↔ a ≤ b := by
    rw [hr, hs, mul_le_mul_iff_of_pos_right hpos]
  have hle : unitsOfRank r ≤ unitsOfRank s ↔ (r : Nat) ≤ s := unitsOfRank_le
  have hge : unitsOfRank s ≤ unitsOfRank r ↔ (s : Nat) ≤ r := unitsOfRank_le
  have hzero : unitsOfRank 0 = 0 := rfl
  have hr0 : unitsOfRank 0 < unitsOfRank r ↔ 0 < (r : Nat) := unitsOfRank_lt
  have hs0 : unitsOfRank 0 < unitsOfRank s ↔ 0 < (s : Nat) := unitsOfRank_lt
  show decide (signed p r ≤ signed q s) = decide (a ≤ b)
  rw [decide_eq_decide, ← horder]
  unfold signedUnits signed
  split_ifs <;> omega

/-- A whole number above zero is not at most zero. -/
theorem le_zero_of_toInt?_pos {x : Binary64} {z : Int} (h : x.toInt? = some z) (hz : 0 < z) :
    x.le (ofNat 0) = false := by
  have hzero : (ofNat 0).toInt? = some 0 := toInt?_ofInt (by decide)
  rw [le_of_toInt? h hzero]
  exact decide_eq_false (by omega)

/-- A double that is rounded to stands at the rank nearest to the exact value, infinity after all finite ranks. -/
theorem position?_ofUnits (negative : Bool) (num den : Nat) : (ofUnits negative num den).position? =
    some (signed negative (min (nearestRank num den) finiteRanks)) := by
  rw [ofUnits, ofRank]
  split_ifs with h
  · rw [Nat.min_eq_left h.le]
    rfl
  · rw [Nat.min_eq_right (Nat.le_of_not_lt h)]
    rfl

/-- Rounding keeps the order of integers. -/
theorem ofInt_le_ofInt {a b : Int} (h : a ≤ b) : (ofInt a).le (ofInt b) = true := by
  have hmono : ∀ {m n : Nat}, m ≤ n →
      min (nearestRank (m * one) 1) finiteRanks ≤ min (nearestRank (n * one) 1) finiteRanks := fun hle =>
    min_le_min_right _ (nearestRank_mono Nat.one_pos (Nat.mul_le_mul_right one hle))
  have hnegative := fun hle : b.natAbs ≤ a.natAbs => hmono hle
  have hpositive := fun hle : a.natAbs ≤ b.natAbs => hmono hle
  refine le_iff.2 ⟨_, _, position?_ofUnits _ _ _, position?_ofUnits _ _ _, ?_⟩
  generalize min (nearestRank (a.natAbs * one) 1) finiteRanks = ra at hnegative hpositive ⊢
  generalize min (nearestRank (b.natAbs * one) 1) finiteRanks = rb at hnegative hpositive ⊢
  unfold signed
  split_ifs with ha hb hb <;> simp only [decide_eq_true_eq] at ha hb <;> omega

theorem signed_not (negative : Bool) (n : Nat) : signed (!negative) n = -signed negative n := by
  cases negative <;> simp [signed]

theorem position?_neg (x : Binary64) : (-x).position? = x.position?.map (- ·) := by
  cases x with
  | nan => rfl
  | infinite negative => exact congrArg some (signed_not negative finiteRanks)
  | finite negative r => exact congrArg some (signed_not negative r)

/-- An integer of the other sign is rounded to the double of the other sign, up to the sign of zero. -/
theorem position?_ofInt_neg (z : Int) : (ofInt (-z)).position? = (-ofInt z).position? := by
  rw [position?_neg, ofInt, ofInt, position?_ofUnits, position?_ofUnits, Option.map_some, Int.natAbs_neg,
    ← signed_not]
  rcases eq_or_ne z 0 with rfl | hz
  · have hzero : nearestRank (Int.natAbs 0 * one) 1 = 0 := by
      rw [Int.natAbs_zero, zero_mul]
      rfl
    rw [hzero, Nat.zero_min]
    rfl
  · have hsign : decide (-z < 0) = !decide (z < 0) := by
      rw [← decide_not]
      exact decide_eq_decide.2 (by omega)
    rw [hsign]

theorem position?_ofNat (n : Nat) :
    (ofNat n).position? = some (min (nearestRank (n * one) 1) finiteRanks : Nat) := by
  rw [ofNat, ofInt, position?_ofUnits, Int.natAbs_natCast, decide_eq_false (by omega)]
  rfl

/-- A whole number is at most the double that is nearest to a number above it. -/
theorem le_ofNat_of_toInt?_le {x : Binary64} {z : Int} {n : Nat} (h : x.toInt? = some z) (hle : z ≤ n) :
    x.le (ofNat n) = true := by
  cases x with
  | nan => cases h
  | infinite negative => cases h
  | finite negative r =>
    rw [toInt?] at h
    split_ifs at h with hwhole
    obtain rfl := Option.some.inj h
    apply le_iff.2 ⟨_, _, rfl, position?_ofNat n, ?_⟩
    cases negative with
    | true =>
      rw [signed, if_pos rfl]
      omega
    | false =>
      rw [signed, if_neg (by decide)] at hle ⊢
      have hunits : unitsOfRank r * 1 ≤ n * one := by
        rw [Nat.mul_one, ← Nat.div_mul_cancel (Nat.dvd_of_mod_eq_zero hwhole)]
        exact Nat.mul_le_mul_right one (by exact_mod_cast hle)
      have hnearest := le_nearestRank Nat.one_pos hunits
      have hfinite := r.isLt
      exact_mod_cast le_min hnearest hfinite.le

end MetricPipeline.Binary64
