import Mathlib.Tactic.SplitIfs
import MetricPipeline.Text.Quoted

/-! Quoted text can be read back from the front of any text: an escaped character is known by how it
starts, and no escape starts with the quote that ends the text. Hence equal texts that start with quoted
ones start with the same one. -/

namespace MetricPipeline.Text

def hexValue (c : Char) : Nat := if c.toNat < 58 then c.toNat - 48 else c.toNat - 87

/-- The character that a mark after a backslash stands for. -/
def markedChar (mark : Char) : Char :=
  match mark with
  | 'b' => Char.ofNat 8
  | 't' => Char.ofNat 9
  | 'n' => Char.ofNat 10
  | 'f' => Char.ofNat 12
  | 'r' => Char.ofNat 13
  | _ => mark

/-- The character at the front of escaped text, and what follows it; none at a quote. -/
def readChar : List Char → Option (Char × List Char)
  | [] => none
  | '\\' :: 'u' :: '0' :: '0' :: a :: b :: rest => some (Char.ofNat (16 * hexValue a + hexValue b), rest)
  | '\\' :: mark :: rest => some (markedChar mark, rest)
  | c :: rest => if c = '"' then none else some (c, rest)

theorem readChar_plain {c : Char} (s : List Char) (hq : c ≠ '"') (hb : c ≠ '\\') :
    readChar (c :: s) = some (c, s) := by
  unfold readChar
  split
  · contradiction
  · next heq => exact absurd (List.cons.inj heq).1 hb
  · next heq => exact absurd (List.cons.inj heq).1 hb
  · next heq =>
    obtain ⟨rfl, rfl⟩ := List.cons.inj heq
    rw [if_neg hq]

theorem readChar_hex {c : Char} (s : List Char) (h : c.toNat < 32) :
    readChar ('\\' :: 'u' :: '0' :: '0' :: Nat.digitChar (c.toNat / 16) ::
      Nat.digitChar (c.toNat % 16) :: s) = some (c, s) := by
  have hd : ∀ d, d < 16 → hexValue (Nat.digitChar d) = d := by decide
  simp only [readChar, hd _ (show c.toNat / 16 < 16 by omega), hd _ (show c.toNat % 16 < 16 by omega)]
  rw [Nat.div_add_mod, Char.ofNat_toNat]

theorem eq_ofNat {c : Char} {n : Nat} (h : c.toNat = n) : c = Char.ofNat n := by
  rw [← h, Char.ofNat_toNat]

theorem readChar_escape (c : Char) (s : List Char) : readChar (escape c ++ s) = some (c, s) := by
  unfold escape
  split_ifs with hq hb h8 h9 h10 h12 h13 hc
  · rw [hq]; rfl
  · rw [hb]; rfl
  · rw [eq_ofNat h8]; rfl
  · rw [eq_ofNat h9]; rfl
  · rw [eq_ofNat h10]; rfl
  · rw [eq_ofNat h12]; rfl
  · rw [eq_ofNat h13]; rfl
  · exact readChar_hex s hc
  · exact readChar_plain s hq hb

theorem escaped_append_inj {a b s t : List Char}
    (h : a.flatMap escape ++ '"' :: s = b.flatMap escape ++ '"' :: t) : a = b ∧ s = t := by
  induction a generalizing b with
  | nil =>
    cases b with
    | nil => exact ⟨rfl, (List.cons.inj h).2⟩
    | cons d b =>
      have hread := congrArg readChar h
      rw [List.flatMap_cons, List.append_assoc, readChar_escape] at hread
      cases hread
  | cons c a ih =>
    have hread := congrArg readChar h
    rw [List.flatMap_cons, List.append_assoc, readChar_escape] at hread
    cases b with
    | nil => cases hread
    | cons d b =>
      rw [List.flatMap_cons, List.append_assoc, readChar_escape, Option.some.injEq, Prod.mk.injEq] at hread
      obtain ⟨rfl, rfl⟩ := ih hread.2
      exact ⟨by rw [hread.1], rfl⟩

theorem quote_append_inj {a b : String} {s t : List Char} (h : quote a ++ s = quote b ++ t) :
    a = b ∧ s = t := by
  simp only [quote, List.cons_append, List.append_assoc, List.nil_append, List.cons.injEq,
    true_and] at h
  obtain ⟨hab, hst⟩ := escaped_append_inj h
  exact ⟨String.toList_inj.1 hab, hst⟩

end MetricPipeline.Text
