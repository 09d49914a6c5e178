import Mathlib.Data.List.TakeWhile
import Mathlib.Tactic.IntervalCases
import MetricPipeline.Proofs.Text.Utf8
import MetricPipeline.Text.Form

/-! Names and values in the form encoding are read back as they were written, whatever characters they
have: a text through its escapes and bytes, a pair through its equals sign, a list through its ampersands. -/

namespace MetricPipeline.Text

/-! Pieces between separators -/

theorem split_of_not_mem {separator : Char} {piece : List Char} (h : separator ∉ piece) :
    split separator piece = [piece] := by
  induction piece with
  | nil => rfl
  | cons c piece ih =>
    obtain ⟨hc, hpiece⟩ := not_or.1 (mt List.mem_cons.2 h)
    rw [split, if_neg (Ne.symm hc), ih hpiece]

theorem split_append_cons {separator : Char} {piece : List Char} (h : separator ∉ piece)
    (rest : List Char) :
    split separator (piece ++ separator :: rest) = piece :: split separator rest := by
  induction piece with
  | nil => rw [List.nil_append, split, if_pos rfl]
  | cons c piece ih =>
    obtain ⟨hc, hpiece⟩ := not_or.1 (mt List.mem_cons.2 h)
    rw [List.cons_append, split, if_neg (Ne.symm hc), ih hpiece]

/-! Percent escapes -/

theorem hexValue?_upperHex {n : Nat} (h : n < 16) : hexValue? (upperHex n) = some n := by
  interval_cases n <;> decide

variable {plain : Char → List UInt8}

theorem percentBytes_cons {c : Char} (h : c ≠ '%') (rest : List Char) :
    percentBytes plain (c :: rest) = plain c ++ percentBytes plain rest := by
  match rest with
  | [] => rw [percentBytes, percentBytes, List.append_nil]
  | [b] => rw [percentBytes, percentBytes]
  | b :: d :: rest => rw [percentBytes, if_neg h]

theorem percentBytes_percentEscape (b : UInt8) (rest : List Char) :
    percentBytes plain (percentEscape b ++ rest) = b :: percentBytes plain rest := by
  have hb : b.toNat < 256 := b.toNat_lt
  rw [percentEscape, List.cons_append, List.cons_append, List.cons_append, List.nil_append, percentBytes,
    if_pos rfl, hexValue?_upperHex (by omega), hexValue?_upperHex (by omega)]
  dsimp only
  rw [show b.toNat / 16 * 16 + b.toNat % 16 = b.toNat by omega, UInt8.ofNat_toNat]

theorem percentBytes_flatMap_percentEscape (bytes : List UInt8) (rest : List Char) :
    percentBytes plain (bytes.flatMap percentEscape ++ rest) = bytes ++ percentBytes plain rest := by
  induction bytes with
  | nil => rfl
  | cons b bytes ih =>
    rw [List.flatMap_cons, List.append_assoc, percentBytes_percentEscape, ih, List.cons_append]

namespace Form

/-! Texts -/

/-- The characters that encoded text is made of. -/
def Written (c : Char) : Prop := isPlain c = true ∨ c = '+' ∨ c = '%'

theorem Written.ne {c separator : Char} (h : Written c)
    (hseparator : separator = '&' ∨ separator = '=' ∨ separator = '#' ∨ separator = '?') :
    c ≠ separator := by
  rintro rfl
  rcases h with h | rfl | rfl
  · rcases hseparator with rfl | rfl | rfl | rfl <;> exact absurd h (by decide)
  · simp at hseparator
  · simp at hseparator

theorem Written.visible {c : Char} (h : Written c) : 32 < c.toNat := by
  have hplain : ∀ n < 33, isPlain (Char.ofNat n) = false := by decide
  rcases h with h | rfl | rfl
  · by_contra hle
    have hnot := hplain c.toNat (by omega)
    rw [Char.ofNat_toNat, h] at hnot
    cases hnot
  · decide
  · decide

theorem written_upperHex {n : Nat} (h : n < 16) : Written (upperHex n) := by
  refine Or.inl ?_
  interval_cases n <;> decide

theorem written_of_mem_percentEscape {b : UInt8} {c : Char} (h : c ∈ percentEscape b) : Written c := by
  have hb : b.toNat < 256 := b.toNat_lt
  simp only [percentEscape, List.mem_cons, List.not_mem_nil, or_false] at h
  rcases h with rfl | rfl | rfl
  · exact Or.inr (Or.inr rfl)
  · exact written_upperHex (by omega)
  · exact written_upperHex (by omega)

theorem written_of_mem_encodeText {s : String} {c : Char} (h : c ∈ encodeText s) : Written c := by
  obtain ⟨d, -, hc⟩ := List.mem_flatMap.1 h
  unfold encodeChar at hc
  split_ifs at hc with hplain hspace
  · rw [List.mem_singleton.1 hc]
    exact Or.inl hplain
  · rw [List.mem_singleton.1 hc]
    exact Or.inr (Or.inl rfl)
  · obtain ⟨b, -, hb⟩ := List.mem_flatMap.1 hc
    exact written_of_mem_percentEscape hb

theorem percentBytes_encodeChar (c : Char) (rest : List Char) :
    percentBytes plainBytes (encodeChar c ++ rest) =
      String.utf8EncodeChar c ++ percentBytes plainBytes rest := by
  unfold encodeChar
  split_ifs with hplain hspace
  · have hpercent : c ≠ '%' := by
      rintro rfl
      exact absurd hplain (by decide)
    have hplus : c ≠ '+' := by
      rintro rfl
      exact absurd hplain (by decide)
    rw [List.singleton_append, percentBytes_cons hpercent, plainBytes, if_neg hplus]
  · rw [hspace, List.singleton_append, percentBytes_cons (by decide)]
    rfl
  · exact percentBytes_flatMap_percentEscape _ rest

theorem percentBytes_encodeText (s : List Char) :
    percentBytes plainBytes (s.flatMap encodeChar) = Utf8.encode s := by
  induction s with
  | nil => rfl
  | cons c s ih =>
    rw [List.flatMap_cons, percentBytes_encodeChar, ih]
    rfl

theorem decodeText_encodeText (s : String) : decodeText (encodeText s) = s := by
  rw [decodeText, encodeText, percentBytes_encodeText, Utf8.decode_encode, String.ofList_toList]

/-! Pairs and lists of them -/

theorem decodePair_encodePair (pair : String × String) : decodePair (encodePair pair) = pair := by
  have hname : ∀ c ∈ encodeText pair.1, decide (c ≠ '=') = true := fun c hc =>
    decide_eq_true ((written_of_mem_encodeText hc).ne (Or.inr (Or.inl rfl)))
  rw [decodePair, encodePair, List.takeWhile_append_of_pos hname, List.dropWhile_append_of_pos hname,
    List.takeWhile_cons_of_neg (by decide), List.dropWhile_cons_of_neg (by decide), List.append_nil,
    List.drop_one, List.tail_cons, decodeText_encodeText, decodeText_encodeText]

theorem mem_encodePair {pair : String × String} {c : Char} (h : c ∈ encodePair pair) :
    Written c ∨ c = '=' := by
  rcases List.mem_append.1 h with hname | hvalue
  · exact Or.inl (written_of_mem_encodeText hname)
  · exact (List.mem_cons.1 hvalue).symm.imp written_of_mem_encodeText id

theorem mem_encode {pairs : List (String × String)} {c : Char} (h : c ∈ encode pairs) :
    Written c ∨ c = '=' ∨ c = '&' := by
  cases pairs with
  | nil => cases h
  | cons pair pairs =>
    rcases List.mem_append.1 h with hfirst | hrest
    · exact (mem_encodePair hfirst).imp id Or.inl
    · obtain ⟨other, -, hother⟩ := List.mem_flatMap.1 hrest
      rcases List.mem_cons.1 hother with rfl | hother
      · exact Or.inr (Or.inr rfl)
      · exact (mem_encodePair hother).imp id Or.inl

theorem ampersand_not_mem_encodePair (pair : String × String) : '&' ∉ encodePair pair := by
  intro h
  rcases mem_encodePair h with hwritten | heq
  · exact hwritten.ne (Or.inl rfl) rfl
  · exact absurd heq (by decide)

theorem encodePair_ne_nil (pair : String × String) : encodePair pair ≠ [] :=
  List.append_ne_nil_of_right_ne_nil _ (List.cons_ne_nil _ _)

theorem split_encode (pair : String × String) (pairs : List (String × String)) :
    split '&' (encode (pair :: pairs)) = (pair :: pairs).map encodePair := by
  rw [encode]
  induction pairs generalizing pair with
  | nil =>
    rw [List.flatMap_nil, List.append_nil, split_of_not_mem (ampersand_not_mem_encodePair pair)]
    rfl
  | cons other pairs ih =>
    rw [List.flatMap_cons, List.cons_append, split_append_cons (ampersand_not_mem_encodePair pair),
      ih other]
    rfl

theorem decode_encode (pairs : List (String × String)) : decode (encode pairs) = pairs := by
  cases pairs with
  | nil => rfl
  | cons pair pairs =>
    have hkept : ∀ piece ∈ (pair :: pairs).map encodePair, decide (piece ≠ []) = true := by
      intro piece hpiece
      obtain ⟨other, -, rfl⟩ := List.mem_map.1 hpiece
      exact decide_eq_true (encodePair_ne_nil other)
    rw [decode, split_encode, List.filter_eq_self.2 hkept, List.map_map]
    exact (List.map_congr_left fun other _ => decodePair_encodePair other).trans (List.map_id _)

end Form
end MetricPipeline.Text
