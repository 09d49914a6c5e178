import Mathlib.Tactic.SplitIfs
import MetricPipeline.Proofs.Text.Units
import MetricPipeline.Text.Utf8

/-! Reading bytes as UTF-8 gives back the characters that were written. What the first byte of a character
begins is described once for each length, with the bounds of the byte after it. -/

namespace MetricPipeline.Text.Utf8

theorem begin?_one {n : Nat} (h : n < 128) : begin? n = .inl (Char.ofNat n) := by
  rw [begin?, if_pos h]

theorem begin?_two {n : Nat} (hlow : 2 ≤ n) (hhigh : n < 32) :
    begin? (n + 192) = .inr { bits := n, missing := 1 } := by
  unfold begin?
  rw [if_neg (by omega), if_pos (by omega), Nat.add_sub_cancel]

/-- Neither characters that two bytes can write nor surrogates are written in three. -/
theorem begin?_three (n next : Nat) (hn : n < 16) (hnext : next < 64) (hlow : n = 0 → 32 ≤ next)
    (hsurrogate : n = 13 → next < 32) :
    ∃ lower upper, begin? (n + 224) = .inr ⟨n, 2, lower, upper⟩ ∧
      lower ≤ next + 128 ∧ next + 128 ≤ upper := by
  unfold begin?
  rw [if_neg (by omega), if_neg (by omega)]
  split_ifs with hzero hthirteen hother
  · exact ⟨0xA0, 0xBF, by rw [show n = 0 by omega], by omega, by omega⟩
  · exact ⟨0x80, 0x9F, by rw [show n = 13 by omega], by omega, by omega⟩
  · exact ⟨0x80, 0xBF, by rw [Nat.add_sub_cancel], by omega, by omega⟩
  all_goals omega

/-- Four bytes write the characters beyond three, up to the last one. -/
theorem begin?_four (n next : Nat) (hn : n < 5) (hnext : next < 64) (hlow : n = 0 → 16 ≤ next)
    (hlast : n = 4 → next < 16) :
    ∃ lower upper, begin? (n + 240) = .inr ⟨n, 3, lower, upper⟩ ∧
      lower ≤ next + 128 ∧ next + 128 ≤ upper := by
  unfold begin?
  rw [if_neg (by omega), if_neg (by omega), if_neg (by omega), if_neg (by omega), if_neg (by omega)]
  split_ifs with hzero hfour hother
  · exact ⟨0x90, 0xBF, by rw [show n = 0 by omega], by omega, by omega⟩
  · exact ⟨0x80, 0x8F, by rw [show n = 4 by omega], by omega, by omega⟩
  · exact ⟨0x80, 0xBF, by rw [Nat.add_sub_cancel], by omega, by omega⟩
  · omega

theorem toNat_ofNat_of_lt {n : Nat} (h : n < 256) : (UInt8.ofNat n).toNat = n := by
  rw [UInt8.toNat_ofNat', Nat.mod_eq_of_lt h]

theorem decodeFrom_begin {n : Nat} {u : Unfinished} (rest : List UInt8) (hn : n < 256)
    (h : begin? n = .inr u) : decodeFrom none (UInt8.ofNat n :: rest) = decodeFrom (some u) rest := by
  rw [decodeFrom, toNat_ofNat_of_lt hn, h]

/-- A byte that is not the last one of its character. -/
theorem decodeFrom_next {n bits lower upper : Nat} (missing : Nat) (rest : List UInt8) (hn : n < 64)
    (hlower : lower ≤ n + 128) (hupper : n + 128 ≤ upper) :
    decodeFrom (some ⟨bits, missing + 2, lower, upper⟩) (UInt8.ofNat (n + 128) :: rest) =
      decodeFrom (some { bits := bits * 64 + n, missing := missing + 1 }) rest := by
  rw [decodeFrom, toNat_ofNat_of_lt (by omega), if_pos ⟨hlower, hupper⟩, Nat.add_sub_cancel]
  exact if_neg (Nat.not_le_of_gt (Nat.lt_add_left missing Nat.one_lt_two))

theorem decodeFrom_last {n bits lower upper : Nat} (rest : List UInt8) (hn : n < 64)
    (hlower : lower ≤ n + 128) (hupper : n + 128 ≤ upper) :
    decodeFrom (some ⟨bits, 1, lower, upper⟩) (UInt8.ofNat (n + 128) :: rest) =
      Char.ofNat (bits * 64 + n) :: decodeFrom none rest := by
  rw [decodeFrom, toNat_ofNat_of_lt (by omega), if_pos ⟨hlower, hupper⟩, Nat.add_sub_cancel]
  exact if_pos (Nat.le_refl 1)

/-- Each length of writing a character is read back by its own chain of bytes. -/
theorem decodeFrom_encodeChar (c : Char) (rest : List UInt8) :
    decodeFrom none (String.utf8EncodeChar c ++ rest) = c :: decodeFrom none rest := by
  have hc : c.toNat < 0xD800 ∨ 0xE000 ≤ c.toNat ∧ c.toNat < 0x110000 := toNat_ranges c
  have hread : ∀ n, n = c.toNat → Char.ofNat n :: decodeFrom none rest = c :: decodeFrom none rest := by
    rintro n rfl
    rw [Char.ofNat_toNat]
  rw [String.utf8EncodeChar, show c.val.toNat = c.toNat from rfl]
  generalize c.toNat = v at hc hread
  split_ifs with hone htwo hthree
  · rw [List.singleton_append, decodeFrom, toNat_ofNat_of_lt (by omega), begin?_one (by omega)]
    exact hread v rfl
  · rw [List.cons_append, List.singleton_append,
      decodeFrom_begin _ (by omega) (begin?_two (by omega) (by omega)),
      decodeFrom_last rest (by omega) (by omega) (by omega)]
    exact hread _ (by omega)
  · obtain ⟨lower, upper, hbegin, hlower, hupper⟩ :=
      begin?_three (v / 4096 % 16) (v / 64 % 64) (by omega) (by omega) (by omega) (by omega)
    rw [List.cons_append, List.cons_append, List.singleton_append, decodeFrom_begin _ (by omega) hbegin,
      decodeFrom_next 0 _ (by omega) hlower hupper,
      decodeFrom_last rest (by omega) (by omega) (by omega)]
    exact hread _ (by omega)
  · obtain ⟨lower, upper, hbegin, hlower, hupper⟩ :=
      begin?_four (v / 262144 % 8) (v / 4096 % 64) (by omega) (by omega) (by omega) (by omega)
    rw [List.cons_append, List.cons_append, List.cons_append, List.singleton_append,
      decodeFrom_begin _ (by omega) hbegin, decodeFrom_next 1 _ (by omega) hlower hupper,
      decodeFrom_next 0 _ (by omega) (by omega) (by omega),
      decodeFrom_last rest (by omega) (by omega) (by omega)]
    exact hread _ (by omega)

theorem decode_encode (s : List Char) : decode (encode s) = s := by
  induction s with
  | nil => rfl
  | cons c s ih =>
    rw [encode, List.flatMap_cons, decode, decodeFrom_encodeChar]
    exact congrArg (c :: ·) ih

end MetricPipeline.Text.Utf8
