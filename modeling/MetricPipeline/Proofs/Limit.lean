import MetricPipeline.Limit
import MetricPipeline.Proofs.Binary64.Whole

/-! Whatever number is asked for, the limit that is derived from it is a whole number from one to what the
service allows. -/

namespace MetricPipeline

namespace Binary64

theorem place_whole_false {n : Nat} (h : n < 2 ^ 53) : (whole false n h).place = rankOfNat n := rfl

theorem place_finite_true_neg (r : Fin finiteRanks) : (Binary64.finite true r).place < 0 := by
  show -(r.val : Int) - 1 < 0
  omega

theorem place_ofRank_true_neg (r : Nat) : (ofRank true r).place < 0 := by
  unfold ofRank
  split_ifs with h
  · exact place_finite_true_neg ⟨r, h⟩
  · decide

theorem le_place_ofRank_false {r s : Nat} (hr : r < finiteRanks) (h : r ≤ s) :
    (r : Int) ≤ (ofRank false s).place := by
  unfold ofRank
  split_ifs with hs
  · exact Int.ofNat_le.2 h
  · exact Int.ofNat_le.2 hr.le

/-- The floor of a number is below zero, a whole number, or beyond all numbers that matter here. -/
theorem floor_cases {x : Binary64} (h : x ≠ .nan) :
    x.floor.place < 0 ∨ (∃ k, ∃ hk : k < 2 ^ 53, x.floor = whole false k hk) ∨
      (rankOfNat (2 ^ 53 - 1) : Int) ≤ x.floor.place := by
  have hlast : rankOfNat (2 ^ 53 - 1) < finiteRanks := rankOfNat_lt (by omega)
  cases x with
  | nan => exact absurd rfl h
  | infinite negative =>
    cases negative with
    | false => exact Or.inr (Or.inr (Int.ofNat_le.2 hlast.le))
    | true => exact Or.inl (by decide)
  | finite negative r =>
    cases negative with
    | true => exact Or.inl (place_ofRank_true_neg _)
    | false =>
      rcases Nat.lt_or_ge (unitsOfRank r / one) (2 ^ 53) with hk | hk
      · exact Or.inr (Or.inl ⟨_, hk, ofUnits_whole false hk⟩)
      · refine Or.inr (Or.inr (le_place_ofRank_false hlast (le_nearestRank Nat.one_pos ?_)))
        rw [unitsOfRank_rankOfNat (by omega), mul_one]
        exact Nat.mul_le_mul_right _ (by omega)

theorem isNan_floor {x : Binary64} (h : x ≠ .nan) : x.floor.isNan = false := by
  have hofRank : ∀ (negative : Bool) (r : Nat), (ofRank negative r).isNan = false := by
    intro negative r
    unfold ofRank
    split_ifs <;> rfl
  cases x with
  | nan => exact absurd rfl h
  | infinite negative => rfl
  | finite negative r =>
    cases negative with
    | false => exact hofRank _ _
    | true => exact hofRank _ _

theorem min_of_place_le {a b : Binary64} (ha : a.isNan = false) (hb : b.isNan = false)
    (h : a.place ≤ b.place) : Binary64.min a b = a := by
  rw [Binary64.min, ha, hb, if_neg (by decide), if_pos h]

theorem min_of_place_lt {a b : Binary64} (ha : a.isNan = false) (hb : b.isNan = false)
    (h : b.place < a.place) : Binary64.min a b = b := by
  rw [Binary64.min, ha, hb, if_neg (by decide), if_neg (by omega)]

theorem max_of_place_le {a b : Binary64} (ha : a.isNan = false) (hb : b.isNan = false)
    (h : a.place ≤ b.place) : Binary64.max a b = b := by
  rw [Binary64.max, ha, hb, if_neg (by decide), if_pos h]

theorem max_of_place_lt {a b : Binary64} (ha : a.isNan = false) (hb : b.isNan = false)
    (h : b.place < a.place) : Binary64.max a b = a := by
  rw [Binary64.max, ha, hb, if_neg (by decide), if_neg (by omega)]

end Binary64

namespace Limit

open Binary64

/-- A whole number within the bounds is brought no further. -/
theorem max_min_whole {service n : Nat} (hpos : 0 < n) (hle : n ≤ service) (hs : service < 2 ^ 53)
    (hn : n < 2 ^ 53) :
    Binary64.max (ofNat 1) (Binary64.min (whole false n hn) (ofNat service)) = whole false n hn := by
  have hplace := place_whole_false hn
  have hone := place_whole_false (show 1 < 2 ^ 53 by omega)
  have hservice := place_whole_false hs
  have hone_le := (rankOfNat_le (show 1 < 2 ^ 53 by omega) hn).2 hpos
  have hle_service := (rankOfNat_le hn hs).2 hle
  rw [ofNat_eq_whole (show 1 < 2 ^ 53 by omega), ofNat_eq_whole hs,
    min_of_place_le rfl rfl (by omega), max_of_place_le rfl rfl (by omega)]

theorem clamp_whole {service n : Nat} (hpos : 0 < n) (hle : n ≤ service) (hs : service < 2 ^ 53)
    (hn : n < 2 ^ 53) : clamp service (some (whole false n hn)) = whole false n hn := by
  have hfloor : (whole false n hn).floor = whole false n hn := floor_of_toInt? (toInt?_whole false hn)
  rw [clamp, hfloor, max_min_whole hpos hle hs hn]

theorem clamp_eq_whole {service : Nat} (hpos : 0 < service) (hs : service < 2 ^ 53 - 1)
    {asked : Option Binary64} (hasked : asked ≠ some .nan) :
    ∃ n, 0 < n ∧ n ≤ service ∧ ∃ hn : n < 2 ^ 53, clamp service asked = whole false n hn := by
  cases asked with
  | none => exact ⟨service, hpos, le_rfl, by omega, ofNat_eq_whole (by omega)⟩
  | some x =>
    have hx : x ≠ .nan := fun h => hasked (by rw [h])
    have hfloor := isNan_floor hx
    have hone := place_whole_false (show 1 < 2 ^ 53 by omega)
    have hservice := place_whole_false (show service < 2 ^ 53 by omega)
    have hzero : (0 : Int) < rankOfNat 1 := by
      have := (rankOfNat_lt_rankOfNat (m := 0) (n := 1) (by omega) (by omega)).2 (by omega)
      omega
    have hle : rankOfNat 1 ≤ rankOfNat service := (rankOfNat_le (by omega) (by omega)).2 hpos
    rw [clamp, ofNat_eq_whole (show 1 < 2 ^ 53 by omega),
      ofNat_eq_whole (show service < 2 ^ 53 by omega)]
    rcases floor_cases hx with hneg | ⟨k, hk, hk'⟩ | hbig
    · refine ⟨1, Nat.one_pos, hpos, by omega, ?_⟩
      rw [min_of_place_le hfloor rfl (by omega), max_of_place_lt rfl hfloor (by omega)]
    · rw [hk']
      have hplace := place_whole_false hk
      rcases Nat.lt_or_ge service k with hlt | hge
      · have := (rankOfNat_lt_rankOfNat (by omega) hk).2 hlt
        refine ⟨service, hpos, le_rfl, by omega, ?_⟩
        rw [min_of_place_lt rfl rfl (by omega), max_of_place_le rfl rfl (by omega)]
      · have hks := (rankOfNat_le hk (by omega)).2 hge
        rw [min_of_place_le rfl rfl (by omega)]
        rcases Nat.eq_zero_or_pos k with rfl | hkpos
        · refine ⟨1, Nat.one_pos, hpos, by omega, ?_⟩
          have := (rankOfNat_lt_rankOfNat (m := 0) (n := 1) (by omega) (by omega)).2 (by omega)
          exact max_of_place_lt rfl rfl (by omega)
        · have h1k := (rankOfNat_le (m := 1) (by omega) hk).2 hkpos
          exact ⟨k, hkpos, hge, hk, max_of_place_le rfl rfl (by omega)⟩
    · have := (rankOfNat_lt_rankOfNat (m := service) (n := 2 ^ 53 - 1) (by omega) (by omega)).2 hs
      refine ⟨service, hpos, le_rfl, by omega, ?_⟩
      rw [min_of_place_lt hfloor rfl (by omega), max_of_place_le rfl rfl (by omega)]

theorem ofBinary64_of_toInt? {x : Binary64} {n : Nat} (hpos : 0 < n) (h : x.toInt? = some (n : Int)) :
    ofBinary64 x = .atMost n hpos := by
  simp only [ofBinary64, h, Int.toNat_natCast, hpos, dite_true]

theorem ofBinary64_clamp (service : Nat) (hpos : 0 < service) (hs : service < 2 ^ 53 - 1)
    {asked : Option Binary64} (hasked : asked ≠ some .nan) :
    ∃ n, ∃ hn : 0 < n, n ≤ service ∧ (clamp service asked).toInt? = some (n : Int) ∧
      ofBinary64 (clamp service asked) = .atMost n hn := by
  obtain ⟨n, hn, hle, hlt, heq⟩ := clamp_eq_whole hpos hs hasked
  have hint : (clamp service asked).toInt? = some (n : Int) := by
    rw [heq]
    exact toInt?_whole false hlt
  exact ⟨n, hn, hle, hint, ofBinary64_of_toInt? hn hint⟩

end Limit
end MetricPipeline
