import MetricPipeline.Duration
import MetricPipeline.Proofs.Binary64.Nearest
import MetricPipeline.Proofs.Binary64.WholeSum

/-! The span between two readings of a clock. The readings may be of any size, only their difference counts: it is
rounded once, so it is exact up to `2 ^ 53` nanoseconds, and longer spans keep their order. -/

namespace MetricPipeline

namespace Binary64

theorem value?_of_toInt? {x : Binary64} {z : Int} (h : x.toInt? = some z) : x.value? = some (z : ℚ) := by
  obtain ⟨negative, r, rfl, hunits⟩ := signedUnits_of_toInt? h
  have hmagnitude : signedMagnitude negative r = (signedUnits negative r : ℚ) / one := by
    rw [signedMagnitude, signedUnits, signed, magnitude_eq]
    split_ifs
    · push_cast
      ring
    · rw [Int.cast_natCast]
  rw [value?, hmagnitude, hunits, Int.cast_mul, Int.cast_natCast, mul_div_cancel_right₀ _ one_cast_pos.ne']

theorem value?_ofInt {z : Int} (h : z.natAbs ≤ 2 ^ 53) : (ofInt z).value? = some (z : ℚ) := by
  apply value?_of_toInt?
  rw [ofInt, toInt?_ofUnits _ h, signed_natAbs]

end Binary64

/-- The span between two readings is the double nearest to their exact difference, and there is one such double;
a difference of at most `2 ^ 53` nanoseconds is not rounded; readings with the same difference have the same span
between them and readings with a greater difference no shorter one; and the span back is the opposite number. -/
theorem Duration.between_nearest (start stop : Int) :
    (∀ x, (between start stop).nanos = x ↔ Binary64.IsNearest (stop - start : Int) x) ∧
    ((stop - start).natAbs ≤ 2 ^ 53 → (between start stop).nanos.value? = some ((stop - start : Int) : ℚ)) ∧
    (∀ start' stop', stop' - start' = stop - start → between start' stop' = between start stop) ∧
    (∀ start' stop', stop - start ≤ stop' - start' →
      (between start stop).nanos.le (between start' stop').nanos = true) ∧
    (between stop start).nanos.le (-(between start stop).nanos) = true ∧
    (-(between start stop).nanos).le (between stop start).nanos = true := by
  have hnearest : Binary64.IsNearest (stop - start : Int) (between start stop).nanos :=
    Binary64.isNearest_ofInt (stop - start)
  refine ⟨fun x => ⟨?_, hnearest.unique⟩, Binary64.value?_ofInt, ?_, ?_, ?_⟩
  · rintro rfl
    exact hnearest
  · intro start' stop' h
    rw [between, between, h]
  · exact fun start' stop' => Binary64.ofInt_le_ofInt
  · have hback : (between stop start).nanos.position? = (-(between start stop).nanos).position? := by
      rw [between, between, ← neg_sub stop start]
      exact Binary64.position?_ofInt_neg (stop - start)
    obtain ⟨p, hp⟩ : ∃ p, (between stop start).nanos.position? = some p :=
      ⟨_, Binary64.position?_ofUnits _ _ _⟩
    exact ⟨Binary64.le_iff.2 ⟨p, p, hp, hback ▸ hp, le_rfl⟩,
      Binary64.le_iff.2 ⟨p, p, hback ▸ hp, hp, le_rfl⟩⟩

/-- Three milliseconds are exact between readings of any size, and the difference from which on spans are infinite
is not shorter. -/
theorem Duration.between_nearest_large :
    (between (10 ^ 30) (10 ^ 30 + 3000000)).nanos.value? = some 3000000 ∧
    between (-2999999) 1 = between (10 ^ 30) (10 ^ 30 + 3000000) ∧
    (between (2 ^ 970) (2 ^ 1024)).nanos = .infinite false ∧
    (between (10 ^ 30) (10 ^ 30 + 3000000)).nanos.le (between (2 ^ 970) (2 ^ 1024)).nanos = true := by
  obtain ⟨-, hexact, hsame, hordered, -⟩ := between_nearest (10 ^ 30) (10 ^ 30 + 3000000)
  obtain ⟨hnearest, -⟩ := between_nearest (2 ^ 970) (2 ^ 1024)
  have hdifference : ((2 ^ 1024 - 2 ^ 970 : Int) : ℚ) = Binary64.overflowBound := by
    rw [Binary64.overflowBound, Int.cast_sub, Int.cast_pow, Int.cast_pow, Int.cast_ofNat]
  have hpos : 0 < Binary64.overflowBound := sub_pos.2 (pow_lt_pow_right₀ one_lt_two (by decide))
  refine ⟨?_, hsame _ _ (by decide), ?_, hordered _ _ ?_⟩
  · rw [hexact (by decide)]
    norm_num
  · have hover := ((hnearest _).1 rfl).overflow
    rw [hdifference, abs_of_pos hpos, decide_eq_false hpos.not_gt] at hover
    exact hover le_rfl
  · decide +kernel

/-- Halfway between two doubles the even one is taken, here the lower and here the upper one. -/
example : (Duration.between (10 ^ 30) (10 ^ 30 + 9007199254740993)).nanos = .ofInt 9007199254740992 ∧
    (Duration.between (10 ^ 30) (10 ^ 30 + 9007199254740995)).nanos = .ofInt 9007199254740996 := by
  decide +kernel

end MetricPipeline
