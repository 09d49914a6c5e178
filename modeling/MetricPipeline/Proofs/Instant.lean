import MetricPipeline.Instant
import MetricPipeline.Proofs.Binary64.Order
import MetricPipeline.Store

/-! The minute of an instant, computed in doubles, is exact over the whole range of instants. The quotient
by a minute is rounded, and near the ends of the range the next double below a whole number is less than
two milliseconds away from it. What decides is that half of that distance is still less than a
millisecond, so no quotient is rounded up to a whole number that it does not reach. -/

namespace MetricPipeline

open Binary64

attribute [local irreducible] one

namespace Binary64

/-- Below `2 ^ 38` neighbouring doubles are at most `2 ^ -15` apart. -/
theorem gapOfRank_mul_le_one {r : Nat} (h : unitsOfRank r < 2 ^ 38 * one) :
    gapOfRank r * 2 ^ 15 ≤ one := by
  obtain ⟨k, hlow, -, hk⟩ := exists_one_eq
  rw [hk] at h ⊢
  rcases Nat.lt_or_ge r (2 ^ 52) with hr | hr
  · have hg : r / 2 ^ 52 - 1 = 0 := by omega
    rw [gapOfRank, hg, pow_zero, one_mul]
    exact Nat.pow_le_pow_right (by omega) hlow
  · have hlt := (gapOfRank_mul_le hr).trans_lt h
    rw [gapOfRank, ← pow_add, ← pow_add, Nat.pow_lt_pow_iff_right (by omega)] at hlt
    rw [gapOfRank, ← pow_add]
    exact Nat.pow_le_pow_right (by omega) (by omega)

end Binary64

namespace Instant

/-- The rank of the quotient of `n` milliseconds by a minute. -/
def quotientRank (n : Nat) : Nat := nearestRank (n * one * one) (60000 * one)

theorem minute_den_pos : 0 < 60000 * one := Nat.mul_pos (by omega) Binary64.one_pos

theorem rankOfNat_le_quotientRank {n k : Nat} (hk : k < 2 ^ 53) (h : 60000 * k ≤ n) :
    rankOfNat k ≤ quotientRank n := by
  refine le_nearestRank minute_den_pos ?_
  rw [unitsOfRank_rankOfNat hk]
  calc k * one * (60000 * one) = 60000 * k * one * one := by ring
    _ ≤ n * one * one := by gcongr

theorem quotientRank_le_rankOfNat {n k : Nat} (hk : k < 2 ^ 53) (h : n ≤ 60000 * k) :
    quotientRank n ≤ rankOfNat k := by
  refine nearestRank_le_of_le minute_den_pos ?_
  rw [unitsOfRank_rankOfNat hk]
  calc n * one * one ≤ 60000 * k * one * one := by gcongr
    _ = k * one * (60000 * one) := by ring

/-- A quotient below a whole number is not rounded up to it. -/
theorem quotientRank_lt {n k : Nat} (hk : k ≤ 2 ^ 38) (h : n < 60000 * k) :
    quotientRank n < rankOfNat k := by
  have hunits := unitsOfRank_rankOfNat (show k < 2 ^ 53 by omega)
  cases hR : rankOfNat k with
  | zero =>
    rw [hR, show unitsOfRank 0 = 0 from rfl] at hunits
    have := Nat.mul_pos (show 0 < k by omega) Binary64.one_pos
    omega
  | succ R =>
    rw [hR] at hunits
    have hsum := unitsOfRank_succ R
    have hgap : gapOfRank R * 2 ^ 15 ≤ one := by
      refine gapOfRank_mul_le_one ?_
      have := gapOfRank_pos R
      have : k * one ≤ 2 ^ 38 * one := Nat.mul_le_mul_right _ hk
      omega
    have hn : (n + 1) * one ≤ 60000 * k * one := Nat.mul_le_mul_right _ h
    rw [Nat.add_mul, Nat.mul_assoc] at hn
    refine Nat.lt_succ_of_le (nearestRank_le ?_)
    have hpos := Binary64.one_pos
    calc 2 * (n * one * one) = 2 * (n * one) * one := by ring
      _ < (unitsOfRank R + unitsOfRank (R + 1)) * 60000 * one :=
        Nat.mul_lt_mul_of_pos_right (by omega) hpos
      _ = (unitsOfRank R + unitsOfRank (R + 1)) * (60000 * one) := by ring

/-- A quotient above a whole number is not rounded down to it. -/
theorem lt_quotientRank {n k : Nat} (hk : k < 2 ^ 38) (h : 60000 * k < n) :
    rankOfNat k < quotientRank n := by
  have hunits := unitsOfRank_rankOfNat (show k < 2 ^ 53 by omega)
  have hsum := unitsOfRank_succ (rankOfNat k)
  have hgap : gapOfRank (rankOfNat k) * 2 ^ 15 ≤ one := by
    refine gapOfRank_mul_le_one ?_
    rw [hunits]
    exact Nat.mul_lt_mul_of_pos_right hk Binary64.one_pos
  have hn : (60000 * k + 1) * one ≤ n * one := Nat.mul_le_mul_right _ h
  rw [Nat.add_mul, Nat.mul_assoc] at hn
  refine succ_le_nearestRank minute_den_pos ?_
  have hpos := Binary64.one_pos
  calc (unitsOfRank (rankOfNat k) + unitsOfRank (rankOfNat k + 1)) * (60000 * one) =
        (unitsOfRank (rankOfNat k) + unitsOfRank (rankOfNat k + 1)) * 60000 * one := by ring
    _ < 2 * (n * one) * one := Nat.mul_lt_mul_of_pos_right (by omega) hpos
    _ = 2 * (n * one * one) := by ring

theorem quotientRank_lt_finiteRanks {n : Nat} (h : n ≤ bound) : quotientRank n < finiteRanks := by
  have hb : bound = 8640000000000000 := rfl
  exact (quotientRank_lt (k := n / 60000 + 1) (by omega) (by omega)).trans (rankOfNat_lt (by omega))

theorem floor_quotient {n : Nat} (h : n ≤ bound) :
    unitsOfRank (quotientRank n) / one = n / 60000 := by
  have hb : bound = 8640000000000000 := rfl
  have hlow := unitsOfRank_le.2 (rankOfNat_le_quotientRank (n := n) (k := n / 60000) (by omega) (by omega))
  have hhigh := unitsOfRank_lt.2 (quotientRank_lt (n := n) (k := n / 60000 + 1) (by omega) (by omega))
  rw [unitsOfRank_rankOfNat (by omega)] at hlow hhigh
  exact Nat.div_eq_of_lt_le hlow hhigh

theorem ceil_quotient {n : Nat} (hpos : 0 < n) (h : n ≤ bound) :
    (unitsOfRank (quotientRank n) + (one - 1)) / one = (n + 59999) / 60000 := by
  have hb : bound = 8640000000000000 := rfl
  obtain ⟨k, hk⟩ : ∃ k, (n + 59999) / 60000 = k + 1 := ⟨(n + 59999) / 60000 - 1, by omega⟩
  have hlow := unitsOfRank_lt.2 (lt_quotientRank (n := n) (k := k) (by omega) (by omega))
  have hhigh := unitsOfRank_le.2 (quotientRank_le_rankOfNat (n := n) (k := k + 1) (by omega) (by omega))
  rw [unitsOfRank_rankOfNat (by omega)] at hlow hhigh
  have hpos := Binary64.one_pos
  rw [hk]
  refine Nat.div_eq_of_lt_le ?_ ?_
  · rw [Nat.add_mul, one_mul]
    omega
  · rw [Nat.add_mul (k + 1) 1, one_mul]
    omega

theorem whole_div_bucketMillis (negative : Bool) {n : Nat} (h : n < 2 ^ 53) (hn : n ≤ bound) :
    whole negative n h / bucketMillis =
      .finite negative ⟨quotientRank n, quotientRank_lt_finiteRanks hn⟩ := by
  rw [bucketMillis, whole, finite_div_ofNat _ _ (by omega) (by omega), unitsOfRank_rankOfNat h, ofUnits, ofRank]
  exact dif_pos (quotientRank_lt_finiteRanks hn)

theorem whole_mul_bucketMillis (negative : Bool) {k : Nat} (h : k < 2 ^ 53) (hk : k * 60000 < 2 ^ 53) :
    whole negative k h * bucketMillis = whole negative (k * 60000) hk := by
  have hunits : unitsOfRank (rankOfNat 60000) = 60000 * one := unitsOfRank_rankOfNat (by omega)
  rw [bucketMillis, ofNat_eq_whole (by omega)]
  show Binary64.mul (whole _ _ _) (whole _ _ _) = _
  simp only [Binary64.mul, whole, Bool.bne_false, hunits, unitsOfRank_rankOfNat h]
  rw [show k * one * (60000 * one) = k * 60000 * one * one by ring, ofUnits_mul _ Binary64.one_pos hk]
  rfl

/-- The minute of a valid instant is the last multiple of a minute that is not after it. -/
theorem minute_millis (t : Int) (h : t.natAbs ≤ bound) :
    (Instant.millis t h).minute = .ofInt (60000 * (t / 60000)) := by
  have hb : bound = 8640000000000000 := rfl
  rw [minute, toMillis]
  rcases lt_or_ge t 0 with ht | ht
  · obtain ⟨n, rfl⟩ : ∃ n : Nat, t = -(n : Int) := ⟨t.natAbs, by omega⟩
    rw [Int.natAbs_neg, Int.natAbs_natCast] at h
    have hz : 60000 * (-(n : Int) / 60000) = -(((n + 59999) / 60000 * 60000 : Nat) : Int) := by omega
    rw [ofInt_neg_eq_whole (by omega) (by omega), whole_div_bucketMillis true (by omega) h, floor,
      ceil_quotient (by omega) h, ofUnits_whole true (by omega),
      whole_mul_bucketMillis true (by omega) (by omega), hz,
      ofInt_neg_eq_whole (by omega) (by omega)]
  · obtain ⟨n, rfl⟩ : ∃ n : Nat, t = (n : Int) := ⟨t.natAbs, by omega⟩
    rw [Int.natAbs_natCast] at h
    have hz : 60000 * ((n : Int) / 60000) = ((n / 60000 * 60000 : Nat) : Int) := by omega
    rw [ofInt_natCast_eq_whole (by omega), whole_div_bucketMillis false (by omega) h, floor,
      floor_quotient h, ofUnits_whole false (by omega),
      whole_mul_bucketMillis false (by omega) (by omega), hz, ofInt_natCast_eq_whole (by omega)]

/-- The UTC minute of a valid instant, counted from the epoch. -/
def utcMinute? : Instant → Option Int
  | .invalid => none
  | .millis t _ => some (t / 60000)

/-- The start of a UTC minute. -/
def ofMinute (m : Int) : Instant := .ofInt (60000 * m)

theorem utcMinute?_range {time : Instant} {m : Int} (h : time.utcMinute? = some m) :
    (60000 * m).natAbs ≤ bound := by
  have hb : bound = 8640000000000000 := rfl
  cases time with
  | invalid => simp [utcMinute?] at h
  | millis t ht =>
    simp only [utcMinute?, Option.some.injEq] at h
    omega

theorem minute_eq {time : Instant} {m : Int} (h : time.utcMinute? = some m) :
    time.minute = .ofInt (60000 * m) := by
  cases time with
  | invalid => simp [utcMinute?] at h
  | millis t ht =>
    simp only [utcMinute?, Option.some.injEq] at h
    rw [minute_millis, h]

theorem ofMillis_minute {time : Instant} {m : Int} (h : time.utcMinute? = some m) :
    ofMillis time.minute = ofMinute m := by
  have hb : bound = 8640000000000000 := rfl
  have hr := utcMinute?_range h
  rw [minute_eq h, ofMillis, truncate?_ofInt (by omega), ofMinute]

theorem minute_eq_nan {time : Instant} (h : time.utcMinute? = none) : time.minute = .nan := by
  cases time with
  | invalid => rfl
  | millis t ht => simp [utcMinute?] at h

theorem ofMinute_valid {time : Instant} {m : Int} (h : time.utcMinute? = some m) :
    ofMinute m = .millis (60000 * m) (utcMinute?_range h) :=
  dif_pos (utcMinute?_range h)

/-- Buckets show different times when their minutes differ, one without a valid time included. -/
theorem ofMillis_minute_inj {a b : Instant} (h : ofMillis a.minute = ofMillis b.minute) :
    a.minute = b.minute := by
  cases ha : a.utcMinute? with
  | none =>
    cases hb : b.utcMinute? with
    | none => rw [minute_eq_nan ha, minute_eq_nan hb]
    | some n =>
      rw [minute_eq_nan ha, ofMillis_minute hb, ofMinute_valid hb] at h
      cases h
  | some m =>
    cases hb : b.utcMinute? with
    | none =>
      rw [minute_eq_nan hb, ofMillis_minute ha, ofMinute_valid ha] at h
      cases h
    | some n =>
      rw [ofMillis_minute ha, ofMillis_minute hb, ofMinute_valid ha, ofMinute_valid hb] at h
      rw [minute_eq ha, minute_eq hb, Instant.millis.inj h]

end Instant
end MetricPipeline
