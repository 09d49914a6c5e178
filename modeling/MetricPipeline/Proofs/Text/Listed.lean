import Mathlib.Data.List.Forall2
import MetricPipeline.Proofs.Text.Blank

/-! The texts that a list of items can be written as: items between commas, with any blanks around them, and
places between commas that are left empty. A text is read as the one list that it is a writing of. -/

namespace MetricPipeline.Text

/-! Pieces between separators -/

theorem split_eq_splitOn (separator : Char) (s : List Char) : split separator s = s.splitOn separator := by
  induction s with
  | nil => rfl
  | cons c rest ih =>
    rw [split, ih, List.splitOn_cons_eq_if_modifyHead]
    simp only [beq_iff_eq]
    split_ifs with hc
    · rfl
    · cases hsplit : rest.splitOn separator with
      | nil => exact absurd (ih.trans hsplit) (split_ne_nil separator rest)
      | cons piece pieces => rfl

theorem not_mem_of_mem_split {separator : Char} {s piece : List Char} (h : piece ∈ split separator s) :
    separator ∉ piece := by
  intro hmem
  have hlost := List.mem_flatten.2 ⟨piece, h, hmem⟩
  rw [flatten_split] at hlost
  simpa using (List.mem_filter.1 hlost).2

/-- Splitting undoes joining, and nothing else does. -/
theorem split_eq_iff {separator : Char} {s : List Char} {pieces : List (List Char)} :
    split separator s = pieces ↔
      pieces ≠ [] ∧ (∀ piece ∈ pieces, separator ∉ piece) ∧ s = [separator].intercalate pieces := by
  constructor
  · rintro rfl
    refine ⟨split_ne_nil separator s, fun piece h => not_mem_of_mem_split h, ?_⟩
    rw [split_eq_splitOn, List.intercalate_splitOn]
  · rintro ⟨hne, hpieces, rfl⟩
    rw [split_eq_splitOn, List.splitOn_intercalate separator hpieces hne]

/-! Items in their pieces -/

/-- An item that neither begins nor ends with a blank, with any blanks around it. -/
structure Padded (item piece : List Char) : Prop where
  around : ∃ before after, piece = before ++ item ++ after ∧ (∀ c ∈ before, isBlank c = true) ∧
    ∀ c ∈ after, isBlank c = true
  head : ∀ c ∈ item.head?, isBlank c = false
  last : ∀ c ∈ item.getLast?, isBlank c = false

theorem dropWhile_of_head {s : List Char} (h : ∀ c ∈ s.head?, isBlank c = false) :
    s.dropWhile isBlank = s := by
  cases s with
  | nil => rfl
  | cons c rest => exact List.dropWhile_cons_of_neg (by simp [h c rfl])

theorem padded_trim (piece : List Char) : Padded (trim piece) piece := by
  have hfront : (piece.dropWhile isBlank).rdropWhile isBlank = trim piece := rfl
  constructor
  case around =>
    refine ⟨piece.takeWhile isBlank, (piece.dropWhile isBlank).rtakeWhile isBlank, ?_,
      fun c hc => List.mem_takeWhile_imp hc, fun c hc => List.mem_rtakeWhile_imp hc⟩
    rw [← hfront, List.append_assoc, List.rdropWhile_append_rtakeWhile, List.takeWhile_append_dropWhile]
  case head =>
    -- what is left of the front after the back is trimmed is still its front
    intro c hc
    obtain ⟨rest, hrest⟩ := List.rdropWhile_prefix isBlank (piece.dropWhile isBlank)
    rw [hfront] at hrest
    have hnot := List.head?_dropWhile_not isBlank piece
    rw [← hrest, List.head?_append, Option.mem_def.1 hc] at hnot
    simpa using hnot
  case last =>
    intro c hc
    have hne : (piece.dropWhile isBlank).rdropWhile isBlank ≠ [] := by
      rw [hfront]
      rintro hnil
      simp [hnil] at hc
    have hnot := List.rdropWhile_last_not isBlank _ hne
    rw [← hfront, Option.mem_def, List.getLast?_eq_some_getLast hne, Option.some.injEq] at hc
    simpa [hc] using hnot

theorem Padded.trim_eq {item piece : List Char} (h : Padded item piece) : trim piece = item := by
  obtain ⟨before, after, rfl, hbefore, hafter⟩ := h.around
  by_cases hnil : item = []
  · subst hnil
    rw [trim_eq_nil_iff]
    intro c hc
    simp only [List.append_nil, List.mem_append] at hc
    exact hc.elim (hbefore c) (hafter c)
  · have hhead : ∀ c ∈ (item ++ after).head?, isBlank c = false := by
      rw [List.head?_append_of_ne_nil _ hnil]
      exact h.head
    have hlast : ∀ c ∈ item.reverse.head?, isBlank c = false := by
      rw [List.head?_reverse]
      exact h.last
    rw [trim, List.append_assoc, List.dropWhile_append_of_pos hbefore, dropWhile_of_head hhead,
      List.reverse_append, List.dropWhile_append_of_pos (by simpa using hafter), dropWhile_of_head hlast,
      List.reverse_reverse]

theorem trim_eq_iff {piece item : List Char} : trim piece = item ↔ Padded item piece := by
  constructor
  · rintro rfl
    exact padded_trim piece
  · exact Padded.trim_eq

/-! Lists of items -/

/-- A text that is a writing of some items: pieces with commas between them, each piece an item in blanks,
or nothing but blanks. -/
def Lists (s : String) (items : List String) : Prop :=
  ∃ pieces trimmed : List (List Char), pieces ≠ [] ∧ (∀ piece ∈ pieces, ',' ∉ piece) ∧
    s.toList = [','].intercalate pieces ∧ List.Forall₂ Padded trimmed pieces ∧
    items = (trimmed.filter (· ≠ [])).map String.ofList

theorem lists_iff {s : String} {items : List String} : Lists s items ↔ items = commaList s := by
  have hpadded : Padded = fun item piece => item = trim piece := by
    funext item piece
    exact propext (trim_eq_iff.symm.trans eq_comm)
  have htrimmed : ∀ trimmed pieces : List (List Char),
      List.Forall₂ Padded trimmed pieces ↔ trimmed = pieces.map trim := by
    intro trimmed pieces
    rw [hpadded, ← List.forall₂_map_right_iff, List.forall₂_eq_eq_eq]
  unfold Lists commaList
  constructor
  · rintro ⟨pieces, trimmed, hne, hcomma, hjoined, hpadded, rfl⟩
    rw [split_eq_iff.2 ⟨hne, hcomma, hjoined⟩, (htrimmed trimmed pieces).1 hpadded]
  · rintro rfl
    obtain ⟨hne, hcomma, hjoined⟩ := split_eq_iff.1 (Eq.refl (split ',' s.toList))
    exact ⟨_, _, hne, hcomma, hjoined, (htrimmed _ _).2 rfl, rfl⟩

/-- Blank items, and blanks that are not spaces. -/
example : Lists " a b,,\t\n, c\u00a0," ["a b", "c"] :=
  lists_iff.2 (by decide +kernel)

end MetricPipeline.Text
