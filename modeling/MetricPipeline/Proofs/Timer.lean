import MetricPipeline.Proofs.Binary64.Order
import MetricPipeline.Timer

/-! How long timers run. A whole number of milliseconds is run as it is given if timers take it, and else as a
single millisecond, so a timer runs too short only when it is given more than timers take. -/

namespace MetricPipeline.Timer

variable {given : Binary64} {n : Int}

theorem delay_of_toInt? (h : given.toInt? = some n) :
    delay given = if 1 ≤ n ∧ n ≤ longestDelay then given else .ofNat 1 := by
  have hone : (Binary64.ofNat 1).toInt? = some 1 := Binary64.toInt?_ofInt (by decide)
  have hlongest : (Binary64.ofNat longestDelay).toInt? = some (longestDelay : Int) :=
    Binary64.toInt?_ofInt (by decide)
  rw [delay, Binary64.le_of_toInt? hone h, Binary64.le_of_toInt? h hlongest, Binary64.floor_of_toInt? h,
    ← Bool.decide_and]
  simp only [decide_eq_true_eq]

theorem delay_eq_given (h : given.toInt? = some n) (hone : 1 ≤ n) (hlongest : n ≤ longestDelay) :
    delay given = given := by
  rw [delay_of_toInt? h, if_pos ⟨hone, hlongest⟩]

theorem delay_eq_one (h : given.toInt? = some n) (hout : n < 1 ∨ (longestDelay : Int) < n) :
    delay given = .ofNat 1 := by
  rw [delay_of_toInt? h, if_neg (by omega)]

example : delay (.ofInt longestDelay) = .ofInt longestDelay ∧ delay (.ofInt (longestDelay + 1)) = .ofNat 1 := by
  decide +kernel

/-- What is not a number, or is infinite, is run as a single millisecond too. -/
theorem delay_of_not_finite (h : given.truncate? = none) : delay given = .ofNat 1 := by
  cases given with
  | nan => decide +kernel
  | infinite negative => cases negative <;> decide +kernel
  | finite negative r => cases h

/-- A delay is not cut short unless it is too long. -/
theorem le_delay (h : given.toInt? = some n) (hlongest : n ≤ longestDelay) :
    given.le (delay given) = true := by
  rcases lt_or_ge n 1 with hlt | hge
  · have hone : (Binary64.ofNat 1).toInt? = some 1 := Binary64.toInt?_ofInt (by decide)
    rw [delay_eq_one h (Or.inl hlt), Binary64.le_of_toInt? h hone]
    exact decide_eq_true hlt.le
  · rw [delay_eq_given h hge hlongest, Binary64.le_of_toInt? h h]
    exact decide_eq_true le_rfl

end MetricPipeline.Timer
