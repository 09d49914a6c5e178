import Mathlib.Algebra.Order.Field.Rat
import Mathlib.Tactic.FieldSimp
import Mathlib.Tactic.Linarith
import Mathlib.Tactic.NormNum
import Mathlib.Tactic.Positivity
import MetricPipeline.Proofs.Binary64.Order

/-! Rounding to the nearest double, measured by exact values. A finite double is a significand of 53 binary digits
times a power of two. What a quotient is rounded to has the least distance from it of all finite doubles, of two at
the same distance the one with the even significand, and from the middle between the greatest finite double and
the next power of two on it is infinity. This leaves one double for each exact value. -/

namespace MetricPipeline.Binary64

/-! Exact values -/

/-- The significand of a magnitude, with the leading digit that is not stored. -/
def significand (r : Nat) : Nat := if r / 2 ^ 52 = 0 then r % 2 ^ 52 else 2 ^ 52 + r % 2 ^ 52

/-- The power of two that the last digit of a significand stands for. -/
def exponent (r : Nat) : Int := (max 1 (r / 2 ^ 52) : Nat) - 1075

def magnitude (r : Nat) : ℚ := significand r * 2 ^ exponent r

def signedMagnitude (negative : Bool) (r : Nat) : ℚ := if negative then -magnitude r else magnitude r

/-- The exact value of a finite double. -/
def value? : Binary64 → Option ℚ
  | .finite negative r => some (signedMagnitude negative r)
  | _ => none

theorem even_significand_iff {r : Nat} : Even (significand r) ↔ r % 2 = 0 := by
  rw [Nat.even_iff, significand]
  split_ifs <;> omega

theorem unitsOfRank_eq_significand (r : Nat) : unitsOfRank r = significand r * 2 ^ (r / 2 ^ 52 - 1) := by
  rw [unitsOfRank_eq, significand]
  congr 1
  split_ifs <;> omega

theorem unitExponent_eq : unitExponent = 1074 := rfl

section

attribute [local irreducible] unitExponent

theorem magnitude_eq (r : Nat) : magnitude r = unitsOfRank r / one := by
  have hexponent : exponent r = (r / 2 ^ 52 - 1 : Nat) - (unitExponent : Int) := by
    have := unitExponent_eq
    rw [exponent]
    omega
  rw [magnitude, hexponent, zpow_sub₀ two_ne_zero, zpow_natCast, zpow_natCast, unitsOfRank_eq_significand,
    one_eq]
  push_cast
  ring

end

theorem one_cast_pos : (0 : ℚ) < one := by exact_mod_cast one_pos

theorem magnitude_lt {r s : Nat} : magnitude r < magnitude s ↔ r < s := by
  rw [magnitude_eq, magnitude_eq, div_lt_div_iff_of_pos_right one_cast_pos, Nat.cast_lt, unitsOfRank_lt]

theorem magnitude_le {r s : Nat} : magnitude r ≤ magnitude s ↔ r ≤ s := by
  rw [← not_lt, magnitude_lt, not_lt]

theorem magnitude_zero : magnitude 0 = 0 := by
  rw [magnitude_eq, unitsOfRank_low (by omega), Nat.cast_zero, zero_div]

theorem magnitude_nonneg (r : Nat) : 0 ≤ magnitude r := magnitude_zero ▸ magnitude_le.2 (Nat.zero_le r)

/-! The nearest rank -/

/-- An exact magnitude lies between the middles of a rank and its neighbours, and on one of these middles only when
the rank is even. -/
structure Nearest (a : ℚ) (r : Nat) : Prop where
  below : ∀ s, s < r → magnitude s + magnitude (s + 1) ≤ 2 * a
  above : 2 * a ≤ magnitude r + magnitude (r + 1)
  even : ∀ s, magnitude s + magnitude (s + 1) = 2 * a → r % 2 = 0

theorem magnitude_add_eq (r : Nat) {den : Nat} (hden : 0 < den) : magnitude r + magnitude (r + 1) =
    ((unitsOfRank r + unitsOfRank (r + 1)) * den : Nat) / (den * one) := by
  have hden' : (den : ℚ) ≠ 0 := by exact_mod_cast hden.ne'
  have hone := one_cast_pos.ne'
  rw [magnitude_eq, magnitude_eq]
  push_cast
  field_simp

theorem nearest_nearestRank (num : Nat) {den : Nat} (hden : 0 < den) :
    Nearest (num / (den * one)) (nearestRank num den) := by
  have hpos : (0 : ℚ) < den * one := mul_pos (by exact_mod_cast hden) one_cast_pos
  have htwice : 2 * ((num : ℚ) / (den * one)) = (2 * num : Nat) / (den * one) := by
    push_cast
    ring
  constructor
  case below =>
    intro s hs
    rw [htwice, magnitude_add_eq s hden, div_le_div_iff_of_pos_right hpos, Nat.cast_le]
    by_contra hlt
    have := nearestRank_le (not_le.1 hlt)
    omega
  case above =>
    rw [htwice, magnitude_add_eq _ hden, div_le_div_iff_of_pos_right hpos, Nat.cast_le]
    by_contra hlt
    have := succ_le_nearestRank hden (not_le.1 hlt)
    omega
  case even =>
    intro s hs
    rw [htwice, magnitude_add_eq s hden, div_left_inj' hpos.ne', Nat.cast_inj] at hs
    exact nearestRank_even hden hs.symm

namespace Nearest

variable {a : ℚ} {r : Nat}

theorem add_le_of_lt (h : Nearest a r) {s : Nat} (hs : s < r) : magnitude s + magnitude r ≤ 2 * a := by
  obtain ⟨t, rfl⟩ : ∃ t, r = t + 1 := ⟨r - 1, by omega⟩
  have hbelow := h.below t (by omega)
  have hle : magnitude s ≤ magnitude t := magnitude_le.2 (by omega)
  linarith

theorem le_add_of_lt (h : Nearest a r) {s : Nat} (hs : r < s) : 2 * a ≤ magnitude r + magnitude s := by
  have habove := h.above
  have hle : magnitude (r + 1) ≤ magnitude s := magnitude_le.2 hs
  linarith

/-- No magnitude is nearer. -/
theorem abs_sub_le (h : Nearest a r) (s : Nat) : |magnitude r - a| ≤ |magnitude s - a| := by
  rcases lt_trichotomy s r with hs | rfl | hs
  · have hsum := h.add_le_of_lt hs
    have hlt := magnitude_lt.2 hs
    rw [abs_sub_comm (magnitude s)]
    exact (abs_le.2 ⟨by linarith, by linarith⟩ : _ ≤ a - magnitude s).trans (le_abs_self _)
  · exact le_rfl
  · have hsum := h.le_add_of_lt hs
    have hlt := magnitude_lt.2 hs
    exact (abs_le.2 ⟨by linarith, by linarith⟩ : _ ≤ magnitude s - a).trans (le_abs_self _)

/-- Of two magnitudes at the same distance it is the even one. -/
theorem even_of_abs_sub_eq (h : Nearest a r) {s : Nat} (hne : r ≠ s)
    (heq : |magnitude r - a| = |magnitude s - a|) : r % 2 = 0 := by
  -- the exact value is in the middle of the two, so there is no magnitude between them
  have hmiddle : magnitude r + magnitude s = 2 * a := by
    rcases abs_eq_abs.1 heq with hsame | hopposite
    · have hrs : magnitude r = magnitude s := by linarith
      exact absurd (le_antisymm (magnitude_le.1 hrs.le) (magnitude_le.1 hrs.ge)) hne
    · linarith
  rcases Nat.lt_or_gt_of_ne hne with hlt | hgt
  · have hle : magnitude (r + 1) ≤ magnitude s := magnitude_le.2 hlt
    exact h.even r (le_antisymm (by linarith) h.above)
  · obtain ⟨t, rfl⟩ : ∃ t, r = t + 1 := ⟨r - 1, by omega⟩
    have hle : magnitude s ≤ magnitude t := magnitude_le.2 (by omega)
    exact h.even t (le_antisymm (h.below t (by omega)) (by linarith))

end Nearest

/-! The nearest double -/

/-- The least magnitude that is too great for a finite double: the middle between the greatest finite magnitude and
the power of two after it. -/
def overflowBound : ℚ := 2 ^ 1024 - 2 ^ 970

theorem magnitude_last : magnitude (finiteRanks - 1) + magnitude finiteRanks = 2 * overflowBound := by
  have hlow : finiteRanks - 1 = 2046 * 2 ^ 52 + (2 ^ 52 - 1) := rfl
  have hhigh : finiteRanks = 2047 * 2 ^ 52 := rfl
  have hmagnitudes : magnitude (finiteRanks - 1) = (2 ^ 53 - 1) * 2 ^ (970 + 1) ∧
      magnitude finiteRanks = 2 ^ 52 * 2 ^ (970 + 2) := by
    constructor <;> norm_num [magnitude, hlow, hhigh, significand, exponent]
  rw [hmagnitudes.1, hmagnitudes.2, overflowBound, show 1024 = 970 + 54 from rfl, pow_add, pow_add, pow_add]
  generalize (2 : ℚ) ^ 970 = unit
  ring

theorem Nearest.overflow_iff {a : ℚ} {r : Nat} (h : Nearest a r) : finiteRanks ≤ r ↔ overflowBound ≤ a := by
  have hlast : finiteRanks - 1 + 1 = finiteRanks := rfl
  have hmiddle := magnitude_last
  constructor
  · intro hr
    have hbelow := h.below (finiteRanks - 1) (by omega)
    rw [hlast] at hbelow
    linarith
  · intro ha
    by_contra hlt
    have habove := h.above
    have hle : magnitude r ≤ magnitude (finiteRanks - 1) := magnitude_le.2 (by omega)
    have hle' : magnitude (r + 1) ≤ magnitude finiteRanks := magnitude_le.2 (by omega)
    -- the bound is a middle, from which the odd last rank is left for the even one after it
    have hr : r = finiteRanks - 1 := by
      apply le_antisymm (by omega)
      exact magnitude_le.1 (by linarith)
    have heven := h.even (finiteRanks - 1) (by rw [hlast]; linarith)
    rw [hr] at heven
    exact absurd heven (by decide)

/-- The double that an exact value is rounded to. -/
structure IsNearest (q : ℚ) (x : Binary64) : Prop where
  overflow : overflowBound ≤ |q| → x = .infinite (q < 0)
  finite : |q| < overflowBound → ∃ r v, x = .finite (q < 0) r ∧ x.value? = some v ∧
    ∀ (y : Binary64) (w : ℚ), y.value? = some w →
      |v - q| ≤ |w - q| ∧ (|v - q| = |w - q| → v ≠ w → Even (significand r))

theorem value?_eq_some_iff {x : Binary64} {v : ℚ} :
    x.value? = some v ↔ ∃ negative r, x = .finite negative r ∧ signedMagnitude negative r = v := by
  cases x <;> simp [value?]

section

variable {q : ℚ} {negative : Bool}

theorem abs_signedMagnitude_sub (h : negative = decide (q < 0)) (r : Nat) :
    |signedMagnitude negative r - q| = abs (magnitude r - |q|) := by
  rcases lt_or_ge q 0 with hq | hq
  · rw [h, decide_eq_true hq, signedMagnitude, if_pos rfl, abs_of_neg hq, ← abs_neg (magnitude r - -q)]
    congr 1
    ring
  · rw [h, decide_eq_false hq.not_gt, signedMagnitude, if_neg Bool.false_ne_true, abs_of_nonneg hq]

/-- Across zero the distances add up. -/
theorem abs_signedMagnitude_sub_of_ne (h : negative ≠ decide (q < 0)) (r : Nat) :
    |signedMagnitude negative r - q| = magnitude r + |q| := by
  have hr := magnitude_nonneg r
  rcases lt_or_ge q 0 with hq | hq
  · rw [decide_eq_true hq] at h
    obtain rfl := eq_false_of_ne_true h
    rw [signedMagnitude, if_neg Bool.false_ne_true, abs_of_neg hq, abs_of_nonneg (by linarith)]
    ring
  · rw [decide_eq_false hq.not_gt] at h
    obtain rfl := eq_true_of_ne_false h
    rw [signedMagnitude, if_pos rfl, abs_of_nonneg hq, abs_of_nonpos (by linarith)]
    ring

theorem signedMagnitude_eq_zero (negative : Bool) {r : Nat} (h : magnitude r = 0) :
    signedMagnitude negative r = 0 := by
  rw [signedMagnitude, h, neg_zero, ite_self]

theorem signedMagnitude_injective : Function.Injective (signedMagnitude negative) := by
  intro r s h
  have hmagnitude : magnitude r = magnitude s := by
    cases negative with
    | false => exact h
    | true => exact neg_injective h
  exact le_antisymm (magnitude_le.1 hmagnitude.le) (magnitude_le.1 hmagnitude.ge)

/-- The rank nearest to the magnitude of an exact value gives the nearest double of its sign and of the other. -/
theorem Nearest.abs_signedMagnitude_le {r : Nat} (h : Nearest |q| r) (hsign : negative = decide (q < 0))
    (other : Bool) (s : Nat) :
    |signedMagnitude negative r - q| ≤ |signedMagnitude other s - q| ∧
      (|signedMagnitude negative r - q| = |signedMagnitude other s - q| →
        signedMagnitude negative r ≠ signedMagnitude other s → r % 2 = 0) := by
  have hq := abs_nonneg q
  rw [abs_signedMagnitude_sub hsign]
  by_cases hother : other = decide (q < 0)
  · rw [abs_signedMagnitude_sub hother]
    refine ⟨h.abs_sub_le s, fun heq hne => h.even_of_abs_sub_eq ?_ heq⟩
    rintro rfl
    rw [hsign, hother] at hne
    exact hne rfl
  · -- zero has both signs, and what lies across zero is not nearer than zero
    rw [abs_signedMagnitude_sub_of_ne hother]
    have hzero := h.abs_sub_le 0
    have hs := magnitude_nonneg s
    rw [magnitude_zero, zero_sub, abs_neg, abs_abs] at hzero
    refine ⟨by linarith, fun heq hne => h.even_of_abs_sub_eq (s := 0) ?_ ?_⟩
    · rintro rfl
      have hs0 : magnitude s = 0 := by linarith
      exact hne (by rw [signedMagnitude_eq_zero _ magnitude_zero, signedMagnitude_eq_zero _ hs0])
    · rw [magnitude_zero, zero_sub, abs_neg, abs_abs]
      linarith

end

/-- Rounding gives the nearest double. -/
theorem isNearest_ofUnits {num den : Nat} (hden : 0 < den) {q : ℚ} (hq : |q| = num / (den * one)) :
    IsNearest q (ofUnits (q < 0) num den) := by
  have hnearest : Nearest |q| (nearestRank num den) := hq ▸ nearest_nearestRank num hden
  constructor
  case overflow =>
    intro hover
    rw [ofUnits, ofRank, dif_neg (Nat.not_lt.2 (hnearest.overflow_iff.2 hover))]
  case finite =>
    intro hunder
    have hrank : nearestRank num den < finiteRanks := by
      rw [← not_le, hnearest.overflow_iff, not_le]
      exact hunder
    rw [ofUnits, ofRank, dif_pos hrank]
    refine ⟨_, _, rfl, rfl, fun y w hy => ?_⟩
    obtain ⟨other, s, -, rfl⟩ := value?_eq_some_iff.1 hy
    rw [even_significand_iff]
    exact hnearest.abs_signedMagnitude_le rfl other s

theorem isNearest_ofInt (z : Int) : IsNearest z (ofInt z) := by
  have hsign : decide (z < 0) = decide ((z : ℚ) < 0) := decide_eq_decide.2 Int.cast_lt_zero.symm
  rw [ofInt, hsign]
  apply isNearest_ofUnits Nat.one_pos
  have hone := one_cast_pos.ne'
  rw [Nat.cast_mul, Nat.cast_natAbs, Int.cast_abs, Nat.cast_one, one_mul, mul_div_cancel_right₀ _ hone]

/-- Between two magnitudes that are not neighbours there is one that is nearer to their middle. -/
theorem abs_magnitude_succ_sub_lt {a : ℚ} {r s : Nat} (hlt : r + 1 < s)
    (heq : |magnitude r - a| = |magnitude s - a|) : |magnitude (r + 1) - a| < |magnitude r - a| := by
  have hlow : magnitude r < magnitude (r + 1) := magnitude_lt.2 (Nat.lt_succ_self r)
  have hhigh : magnitude (r + 1) < magnitude s := magnitude_lt.2 hlt
  have hmiddle : magnitude r + magnitude s = 2 * a := by
    rcases abs_eq_abs.1 heq with hsame | hopposite <;> linarith
  have hr : |magnitude r - a| = a - magnitude r := by
    rw [abs_sub_comm, abs_of_pos (by linarith)]
  rw [hr, abs_lt]
  constructor <;> linarith

/-- There is no other nearest double. -/
theorem IsNearest.unique {q : ℚ} {x y : Binary64} (hx : IsNearest q x) (hy : IsNearest q y) : x = y := by
  rcases le_or_gt overflowBound |q| with hover | hunder
  · rw [hx.overflow hover, hy.overflow hover]
  obtain ⟨r, v, rfl, hv, hleast⟩ := hx.finite hunder
  obtain ⟨s, w, rfl, hw, hleast'⟩ := hy.finite hunder
  have heq : |v - q| = |w - q| := le_antisymm (hleast _ w hw).1 (hleast' _ v hv).1
  obtain rfl := Option.some.inj hv
  obtain rfl := Option.some.inj hw
  by_cases hne : signedMagnitude (q < 0) r = signedMagnitude (q < 0) s
  · rw [Fin.ext (signedMagnitude_injective hne)]
  · have hr := even_significand_iff.1 ((hleast _ _ hw).2 heq hne)
    have hs := even_significand_iff.1 ((hleast' _ _ hv).2 heq.symm (Ne.symm hne))
    have hdistance : ∀ t : Nat, |signedMagnitude (q < 0) t - q| = abs (magnitude t - |q|) :=
      fun t => abs_signedMagnitude_sub rfl t
    -- both ranks are even, so unless they are one there is a nearer double between them
    rcases lt_trichotomy (r : Nat) s with hlt | hsame | hgt
    · have hnext := (hleast (.finite (q < 0) ⟨r + 1, by omega⟩) _ rfl).1
      rw [hdistance, hdistance] at heq hnext
      exact absurd hnext (not_le.2 (abs_magnitude_succ_sub_lt (by omega) heq))
    · rw [Fin.ext hsame]
    · have hnext := (hleast' (.finite (q < 0) ⟨s + 1, by omega⟩) _ rfl).1
      rw [hdistance, hdistance] at heq hnext
      exact absurd hnext (not_le.2 (abs_magnitude_succ_sub_lt (by omega) heq.symm))

end MetricPipeline.Binary64
