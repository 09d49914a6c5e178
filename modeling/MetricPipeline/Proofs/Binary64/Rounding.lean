import Mathlib.Order.Monotone.Basic
import Mathlib.Tactic.Linarith
import Mathlib.Tactic.Ring
import MetricPipeline.Binary64.Arithmetic

/-! Rounding against the ranks of magnitudes. Magnitudes grow with their rank, so where an exact value
lies between two neighbouring magnitudes, or on which side of their middle, decides the rank it is
rounded to. A whole number below `2 ^ 53` is a magnitude itself. -/

namespace MetricPipeline.Binary64

theorem unitExponent_bounds : 15 ≤ unitExponent ∧ unitExponent < 2046 := by decide

attribute [local irreducible] unitExponent

theorem one_eq : one = 2 ^ unitExponent := Nat.pow_eq

theorem exists_one_eq : ∃ k, 15 ≤ k ∧ k < 2046 ∧ one = 2 ^ k :=
  ⟨unitExponent, unitExponent_bounds.1, unitExponent_bounds.2, one_eq⟩

theorem unitsOfRank_eq (r : Nat) :
    unitsOfRank r = (r - (r / 2 ^ 52 - 1) * 2 ^ 52) * 2 ^ (r / 2 ^ 52 - 1) := rfl

theorem rankBelow_eq (n : Nat) :
    rankBelow n = n / 2 ^ (n.log2 - 52) + (n.log2 - 52) * 2 ^ 52 := rfl

/-- The distance from the magnitude of a rank to that of the next one, in units. -/
def gapOfRank (r : Nat) : Nat := 2 ^ (r / 2 ^ 52 - 1)

theorem gapOfRank_pos (r : Nat) : 0 < gapOfRank r := Nat.two_pow_pos _

theorem unitsOfRank_low {r : Nat} (h : r < 2 ^ 53) : unitsOfRank r = r := by
  have hb : r / 2 ^ 52 - 1 = 0 := by omega
  rw [unitsOfRank_eq, hb, zero_mul, Nat.sub_zero, pow_zero, mul_one]

theorem unitsOfRank_block {e f : Nat} (hf : f < 2 ^ 52) :
    unitsOfRank ((e + 1) * 2 ^ 52 + f) = (2 ^ 52 + f) * 2 ^ e := by
  have hb : ((e + 1) * 2 ^ 52 + f) / 2 ^ 52 - 1 = e := by omega
  rw [unitsOfRank_eq, hb]
  congr 1
  omega

theorem unitsOfRank_succ (r : Nat) : unitsOfRank (r + 1) = unitsOfRank r + gapOfRank r := by
  rcases Nat.lt_or_ge (r + 1) (2 ^ 53) with h | h
  · have hg : r / 2 ^ 52 - 1 = 0 := by omega
    rw [unitsOfRank_low h, unitsOfRank_low (by omega), gapOfRank, hg, pow_zero]
  · obtain ⟨e, f, hf, hr⟩ : ∃ e f, f < 2 ^ 52 ∧ r = (e + 1) * 2 ^ 52 + f :=
      ⟨r / 2 ^ 52 - 1, r % 2 ^ 52, by omega, by omega⟩
    have hg : r / 2 ^ 52 - 1 = e := by omega
    rw [gapOfRank, hg, hr, unitsOfRank_block hf]
    rcases Nat.lt_or_ge (f + 1) (2 ^ 52) with hf' | hf'
    · rw [Nat.add_assoc, unitsOfRank_block hf']
      ring
    · -- the last rank of its block is followed by the first one of the next
      have hnext : (e + 1) * 2 ^ 52 + f + 1 = (e + 1 + 1) * 2 ^ 52 + 0 := by omega
      rw [hnext, unitsOfRank_block (by omega), show f = 2 ^ 52 - 1 by omega, pow_succ]
      ring

/-- Magnitudes of full precision are far larger than the gaps above them. -/
theorem gapOfRank_mul_le {r : Nat} (h : 2 ^ 52 ≤ r) : gapOfRank r * 2 ^ 52 ≤ unitsOfRank r := by
  obtain ⟨e, f, hf, rfl⟩ : ∃ e f, f < 2 ^ 52 ∧ r = (e + 1) * 2 ^ 52 + f :=
    ⟨r / 2 ^ 52 - 1, r % 2 ^ 52, by omega, by omega⟩
  have hg : ((e + 1) * 2 ^ 52 + f) / 2 ^ 52 - 1 = e := by omega
  rw [gapOfRank, hg, unitsOfRank_block hf, Nat.mul_comm]
  exact Nat.mul_le_mul_right _ (Nat.le_add_right _ _)

theorem unitsOfRank_strictMono : StrictMono unitsOfRank := by
  refine strictMono_nat_of_lt_succ fun r => ?_
  rw [unitsOfRank_succ]
  exact Nat.lt_add_of_pos_right (gapOfRank_pos r)

theorem unitsOfRank_le {r s : Nat} : unitsOfRank r ≤ unitsOfRank s ↔ r ≤ s :=
  unitsOfRank_strictMono.le_iff_le

theorem unitsOfRank_lt {r s : Nat} : unitsOfRank r < unitsOfRank s ↔ r < s :=
  unitsOfRank_strictMono.lt_iff_lt

theorem log2_sub_of_lt {n : Nat} (h : n < 2 ^ 53) : n.log2 - 52 = 0 := by
  rcases Nat.eq_zero_or_pos n with rfl | hn
  · rfl
  · have := (Nat.log2_lt (by omega)).2 h
    omega

/-- The leading 53 binary digits of a number that has as many. -/
theorem exists_leading {n : Nat} (h : 2 ^ 53 ≤ n) :
    ∃ f, f < 2 ^ 52 ∧ n / 2 ^ (n.log2 - 52) = 2 ^ 52 + f := by
  have hn : n ≠ 0 := by omega
  have hlog : 53 ≤ n.log2 := (Nat.le_log2 hn).2 h
  have hlow : 2 ^ 52 ≤ n / 2 ^ (n.log2 - 52) := by
    rw [Nat.le_div_iff_mul_le (Nat.two_pow_pos _), ← pow_add, Nat.add_sub_cancel' (by omega)]
    exact Nat.log2_self_le hn
  have hhigh : n / 2 ^ (n.log2 - 52) < 2 ^ 53 := by
    rw [Nat.div_lt_iff_lt_mul (Nat.two_pow_pos _), ← pow_add,
      show 53 + (n.log2 - 52) = n.log2 + 1 by omega]
    exact Nat.lt_log2_self
  exact ⟨n / 2 ^ (n.log2 - 52) - 2 ^ 52, by omega, by omega⟩

theorem unitsOfRank_rankBelow (n : Nat) :
    unitsOfRank (rankBelow n) = n / 2 ^ (n.log2 - 52) * 2 ^ (n.log2 - 52) := by
  rcases Nat.lt_or_ge n (2 ^ 53) with h | h
  · rw [rankBelow_eq, log2_sub_of_lt h, pow_zero, Nat.div_one, zero_mul, Nat.add_zero, mul_one,
      unitsOfRank_low h]
  · obtain ⟨f, hf, hq⟩ := exists_leading h
    have hrank : rankBelow n = (n.log2 - 52 + 1) * 2 ^ 52 + f := by
      rw [rankBelow_eq, hq]
      ring
    rw [hrank, unitsOfRank_block hf, hq]

theorem gapOfRank_rankBelow (n : Nat) : gapOfRank (rankBelow n) = 2 ^ (n.log2 - 52) := by
  rcases Nat.lt_or_ge n (2 ^ 53) with h | h
  · have hb : n / 2 ^ 52 - 1 = 0 := by omega
    rw [rankBelow_eq, log2_sub_of_lt h, pow_zero, Nat.div_one, zero_mul, Nat.add_zero, gapOfRank, hb,
      pow_zero]
  · obtain ⟨f, hf, hq⟩ := exists_leading h
    rw [gapOfRank, rankBelow_eq, hq]
    congr 1
    omega

theorem unitsOfRank_rankBelow_le (n : Nat) : unitsOfRank (rankBelow n) ≤ n := by
  rw [unitsOfRank_rankBelow]
  exact Nat.div_mul_le_self _ _

theorem lt_unitsOfRank_rankBelow_succ (n : Nat) : n < unitsOfRank (rankBelow n + 1) := by
  rw [unitsOfRank_succ, unitsOfRank_rankBelow, gapOfRank_rankBelow]
  exact Nat.lt_div_mul_add (Nat.two_pow_pos _)

/-! Rounding of a quotient -/

theorem unitsOfRank_rankBelow_mul_le (num den : Nat) : unitsOfRank (rankBelow (num / den)) * den ≤ num :=
  (Nat.mul_le_mul_right _ (unitsOfRank_rankBelow_le _)).trans (Nat.div_mul_le_self _ _)

theorem le_rankBelow {num den r : Nat} (hden : 0 < den) (h : unitsOfRank r * den ≤ num) :
    r ≤ rankBelow (num / den) := by
  have hq : unitsOfRank r ≤ num / den := (Nat.le_div_iff_mul_le hden).2 h
  have := unitsOfRank_lt.1 (hq.trans_lt (lt_unitsOfRank_rankBelow_succ _))
  omega

theorem le_nearestRank {num den r : Nat} (hden : 0 < den) (h : unitsOfRank r * den ≤ num) :
    r ≤ nearestRank num den := by
  have hr := le_rankBelow hden h
  unfold nearestRank
  dsimp only
  split_ifs <;> omega

/-- A value below the middle of two neighbouring magnitudes is not rounded above the lower one. -/
theorem nearestRank_le {num den r : Nat}
    (h : 2 * num < (unitsOfRank r + unitsOfRank (r + 1)) * den) : nearestRank num den ≤ r := by
  have hbelow := unitsOfRank_rankBelow_mul_le num den
  have hr : rankBelow (num / den) ≤ r := by
    by_contra hlt
    have hle : unitsOfRank r + unitsOfRank (r + 1) ≤ 2 * unitsOfRank (rankBelow (num / den)) := by
      have h1 : unitsOfRank r ≤ unitsOfRank (rankBelow (num / den)) := unitsOfRank_le.2 (by omega)
      have h2 : unitsOfRank (r + 1) ≤ unitsOfRank (rankBelow (num / den)) :=
        unitsOfRank_le.2 (by omega)
      omega
    have := Nat.mul_le_mul_right den hle
    rw [Nat.mul_assoc] at this
    omega
  unfold nearestRank
  dsimp only
  rcases hr.lt_or_eq with hlt | heq
  · split_ifs <;> omega
  · rw [heq, if_pos h]

/-- A value above the middle of two neighbouring magnitudes is not rounded below the upper one. -/
theorem succ_le_nearestRank {num den r : Nat} (hden : 0 < den)
    (h : (unitsOfRank r + unitsOfRank (r + 1)) * den < 2 * num) : r + 1 ≤ nearestRank num den := by
  have hlow : unitsOfRank r * den ≤ num := by
    have hle : 2 * unitsOfRank r ≤ unitsOfRank r + unitsOfRank (r + 1) := by
      rw [unitsOfRank_succ]
      omega
    have := Nat.mul_le_mul_right den hle
    rw [Nat.mul_assoc] at this
    omega
  have hr := le_nearestRank hden hlow
  by_contra hlt
  have heq : nearestRank num den = r := by omega
  have hbelow := le_rankBelow hden hlow
  unfold nearestRank at heq
  dsimp only at heq
  split_ifs at heq with h1 h2 h3
  · rw [heq] at h1
    omega
  · omega
  · rw [heq] at h2
    omega
  · omega

theorem nearestRank_le_of_le {num den r : Nat} (hden : 0 < den) (h : num ≤ unitsOfRank r * den) :
    nearestRank num den ≤ r := by
  refine nearestRank_le ?_
  have : 0 < gapOfRank r * den := Nat.mul_pos (gapOfRank_pos r) hden
  calc 2 * num ≤ 2 * (unitsOfRank r * den) := Nat.mul_le_mul_left 2 h
    _ < 2 * (unitsOfRank r * den) + gapOfRank r * den := by omega
    _ = (unitsOfRank r + unitsOfRank (r + 1)) * den := by rw [unitsOfRank_succ]; ring

/-- A magnitude is rounded to itself. -/
theorem nearestRank_unitsOfRank {den : Nat} (hden : 0 < den) (r : Nat) :
    nearestRank (unitsOfRank r * den) den = r :=
  le_antisymm (nearestRank_le_of_le hden le_rfl) (le_nearestRank hden le_rfl)

theorem rankBelow_eq_of_le_of_lt {num den r : Nat} (hden : 0 < den) (hlow : unitsOfRank r * den ≤ num)
    (hhigh : num < unitsOfRank (r + 1) * den) : rankBelow (num / den) = r := by
  have hle := le_rankBelow hden hlow
  have hlt := unitsOfRank_lt.1 (Nat.lt_of_mul_lt_mul_right ((unitsOfRank_rankBelow_mul_le num den).trans_lt hhigh))
  omega

/-- A value in the middle of two neighbouring magnitudes is rounded to the even rank. -/
theorem nearestRank_even {num den r : Nat} (hden : 0 < den)
    (h : 2 * num = (unitsOfRank r + unitsOfRank (r + 1)) * den) : nearestRank num den % 2 = 0 := by
  have hgap : 0 < gapOfRank r * den := Nat.mul_pos (gapOfRank_pos r) hden
  have hsum : 2 * num = 2 * (unitsOfRank r * den) + gapOfRank r * den := by
    rw [h, unitsOfRank_succ]
    ring
  have hsucc : unitsOfRank (r + 1) * den = unitsOfRank r * den + gapOfRank r * den := by
    rw [unitsOfRank_succ]
    ring
  have hbelow : rankBelow (num / den) = r := rankBelow_eq_of_le_of_lt hden (by omega) (by omega)
  unfold nearestRank
  dsimp only
  rw [hbelow]
  split_ifs <;> omega

/-- Greater values are not rounded to lower ranks. -/
theorem nearestRank_mono {m n den : Nat} (hden : 0 < den) (h : m ≤ n) :
    nearestRank m den ≤ nearestRank n den := by
  rcases h.eq_or_lt with rfl | hlt
  · exact le_rfl
  · apply nearestRank_le
    by_contra hle
    have hsucc : nearestRank n den + 1 ≤ nearestRank n den := succ_le_nearestRank hden (by omega)
    omega

end MetricPipeline.Binary64
