import MetricPipeline.Collection
import MetricPipeline.Proofs.Binary64.Nearest

/-! What records measure, said without the arithmetic that finds it: for a number metric the numbers that are
reported, for a duration metric the milliseconds of the spans, which are a millionth of their nanoseconds,
rounded once. -/

namespace MetricPipeline

/-- How long a span is in milliseconds: the double nearest to a millionth of its nanoseconds. A zero keeps its
sign, and what is infinite or not a number stays so. -/
structure Duration.InMillis (d : Duration) (millis : Binary64) : Prop where
  nan : d.nanos = .nan → millis = .nan
  infinite : ∀ negative, d.nanos = .infinite negative → millis = .infinite negative
  zero : ∀ negative, d.nanos = .zero negative → millis = .zero negative
  nearest : ∀ nanos, d.nanos.value? = some nanos → nanos ≠ 0 →
    Binary64.IsNearest (nanos / 10 ^ 6) millis

/-- What a record measures; one whose value is not of the kind of its metric measures nothing. -/
inductive Record.Measures : Record → Binary64 → Prop where
  | number {metric : Metric} {x : Binary64} (kind : metric.valueType = .number) :
    Measures ⟨metric, .number x⟩ x
  | duration {metric : Metric} {d : Duration} {millis : Binary64} (kind : metric.valueType = .duration)
    (inMillis : d.InMillis millis) : Measures ⟨metric, .duration d⟩ millis

namespace Binary64

theorem value?_finite (negative : Bool) (r : Fin finiteRanks) :
    (finite negative r).value? = some (signedMagnitude negative r) := rfl

theorem signedMagnitude_ne_zero (negative : Bool) {r : Nat} (h : 0 < r) : signedMagnitude negative r ≠ 0 := by
  have hpos : 0 < magnitude r := magnitude_zero ▸ magnitude_lt.2 h
  cases negative with
  | false => exact hpos.ne'
  | true => exact neg_ne_zero.2 hpos.ne'

theorem decide_signedMagnitude_div_neg {negative : Bool} {r n : Nat} (hr : 0 < r) (hn : 0 < n) :
    decide (signedMagnitude negative r / n < 0) = negative := by
  have hpos : 0 < magnitude r := magnitude_zero ▸ magnitude_lt.2 hr
  have hn' : (0 : ℚ) < n := by exact_mod_cast hn
  cases negative with
  | false => exact decide_eq_false (div_pos hpos hn').not_gt
  | true => exact decide_eq_true (div_neg_of_neg_of_pos (neg_lt_zero.2 hpos) hn')

/-- The quotient by a whole number is the double nearest to the exact quotient. -/
theorem isNearest_div_ofNat (negative : Bool) {r : Fin finiteRanks} {n : Nat} (hr : 0 < (r : Nat))
    (hpos : 0 < n) (hn : n < 2 ^ 53) :
    IsNearest (signedMagnitude negative r / n) (finite negative r / ofNat n) := by
  have hone := one_cast_pos.ne'
  have hn' : (0 : ℚ) < n := by exact_mod_cast hpos
  have habs : |signedMagnitude negative r| = magnitude r := by
    cases negative with
    | false => exact abs_of_nonneg (magnitude_nonneg r)
    | true => exact (abs_neg _).trans (abs_of_nonneg (magnitude_nonneg r))
  have hexact : |signedMagnitude negative r / n| =
      (unitsOfRank r * one : Nat) / ((n * one : Nat) * (one : ℚ)) :=
    calc |signedMagnitude negative r / n| = unitsOfRank r / one / n := by
          rw [abs_div, habs, abs_of_pos hn', magnitude_eq]
      _ = unitsOfRank r * one / (n * one * one) := by
          rw [div_div, ← mul_div_mul_right _ _ hone, mul_comm (one : ℚ) n]
      _ = (unitsOfRank r * one : Nat) / ((n * one : Nat) * (one : ℚ)) := by
          rw [Nat.cast_mul, Nat.cast_mul]
  have hnearest := isNearest_ofUnits (Nat.mul_pos hpos one_pos) hexact
  rwa [decide_signedMagnitude_div_neg hr hpos, ← finite_div_ofNat negative r hpos hn] at hnearest

end Binary64

namespace Duration

open Binary64

theorem inMillis_toMillis (d : Duration) : d.InMillis d.toMillis := by
  have hmillion : (1000000 : Nat) < 2 ^ 53 := by decide
  constructor
  case nan =>
    intro h
    rw [toMillis, h]
    rfl
  case infinite =>
    intro negative h
    rw [toMillis, h, nanosPerMilli, ofNat_eq_whole hmillion]
    exact congrArg Binary64.infinite (Bool.xor_false negative)
  case zero =>
    intro negative h
    have hrank := nearestRank_unitsOfRank (Nat.mul_pos (show 0 < 1000000 by decide) Binary64.one_pos) 0
    rw [unitsOfRank_low (by decide), Nat.zero_mul] at hrank
    rw [toMillis, h, nanosPerMilli, Binary64.zero, finite_div_ofNat _ _ (by decide) hmillion,
      unitsOfRank_low (by decide), Nat.zero_mul, ofUnits, hrank, ofRank, dif_pos finiteRanks_pos]
  case nearest =>
    intro nanos hnanos hne
    obtain ⟨negative, r, h, rfl⟩ := value?_eq_some_iff.1 hnanos
    have hr : 0 < (r : Nat) := by
      refine Nat.pos_of_ne_zero fun hzero => hne ?_
      rw [hzero, signedMagnitude_eq_zero _ magnitude_zero]
    have hnearest := isNearest_div_ofNat negative hr (by decide) hmillion
    have hcast : ((1000000 : Nat) : ℚ) = 10 ^ 6 := by norm_num
    rwa [toMillis, h, nanosPerMilli, ← hcast]

theorem InMillis.unique {d : Duration} {x y : Binary64} (hx : d.InMillis x) (hy : d.InMillis y) : x = y := by
  cases h : d.nanos with
  | nan => rw [hx.nan h, hy.nan h]
  | infinite negative => rw [hx.infinite negative h, hy.infinite negative h]
  | finite negative r =>
    rcases Nat.eq_zero_or_pos r with hzero | hpos
    · have hnanos : d.nanos = .zero negative := h.trans (congrArg _ (Fin.ext hzero))
      rw [hx.zero negative hnanos, hy.zero negative hnanos]
    · have hvalue : d.nanos.value? = some (signedMagnitude negative r) := by rw [h, value?_finite]
      have hne := signedMagnitude_ne_zero negative hpos
      exact (hx.nearest _ hvalue hne).unique (hy.nearest _ hvalue hne)

theorem toMillis_eq_iff {d : Duration} {millis : Binary64} : d.toMillis = millis ↔ d.InMillis millis := by
  constructor
  · rintro rfl
    exact d.inMillis_toMillis
  · exact d.inMillis_toMillis.unique

end Duration

namespace Record

/-- The number that a record adds to its group is what it measures. -/
theorem numeric?_eq_some_iff {record : Record} {x : Binary64} :
    record.numeric? = some x ↔ record.Measures x := by
  obtain ⟨metric, value⟩ := record
  constructor
  · intro h
    cases value with
    | string s => cases h
    | boolean b => cases h
    | number y =>
      rw [numeric?] at h
      split_ifs at h with hkind
      obtain rfl := Option.some.inj h
      exact .number hkind
    | duration d =>
      rw [numeric?] at h
      split_ifs at h with hkind
      exact .duration hkind (Duration.toMillis_eq_iff.1 (Option.some.inj h))
  · rintro (hkind | ⟨hkind, hmillis⟩)
    · exact if_pos hkind
    · rw [numeric?, if_pos hkind, Duration.toMillis_eq_iff.2 hmillis]

end Record

end MetricPipeline
