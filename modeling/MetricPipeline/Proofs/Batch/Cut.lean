import Mathlib.Data.Finset.Card
import Mathlib.Data.Finset.Dedup
import Mathlib.Tactic.Linarith

/-! Cutting a list into consecutive groups, each of at most so many items and so many distinct ones. Going
through the list and starting a new group only where the next item does not fit gives as few groups as
there can be: in the time in which any cut closes one group, this one closes at most one, since from the
item on that opens its new group the rest of the other's group fits in. -/

namespace MetricPipeline

/-- The groups closed so far and the one under way. -/
structure Cut (α : Type) where
  closed : List (List α)
  current : List α

/-- The two limits that a group has to keep. -/
structure Admissible {α : Type} [DecidableEq α] (distinct items : Nat) (group : List α) : Prop where
  nonempty : group ≠ []
  length_le : group.length ≤ items
  card_le : group.toFinset.card ≤ distinct

/-- A cut of a list into consecutive groups within both limits. -/
structure IsCut {α : Type} [DecidableEq α] (distinct items : Nat) (list : List α)
    (groups : List (List α)) : Prop where
  flatten : groups.flatten = list
  admissible : ∀ group ∈ groups, Admissible distinct items group

namespace Cut

variable {α : Type} [DecidableEq α] {D V : Nat}

def empty : Cut α := ⟨[], []⟩

/-- Whether the group under way has room for one more item. -/
def Takes (D V : Nat) (cut : Cut α) (a : α) : Prop :=
  cut.current.length < V ∧ (a ∈ cut.current ∨ cut.current.toFinset.card < D)

instance (cut : Cut α) (a : α) : Decidable (Takes D V cut a) :=
  inferInstanceAs (Decidable (_ ∧ _))

def put (D V : Nat) (cut : Cut α) (a : α) : Cut α :=
  if cut.Takes D V a then ⟨cut.closed, cut.current ++ [a]⟩ else ⟨cut.closed ++ [cut.current], [a]⟩

def groups (cut : Cut α) : List (List α) :=
  if cut.current = [] then cut.closed else cut.closed ++ [cut.current]

/-- The cut of a list that starts a new group only where it must. -/
def greedy (D V : Nat) (list : List α) : Cut α := list.foldl (put D V) empty

theorem put_of_takes {cut : Cut α} {a : α} (h : cut.Takes D V a) :
    cut.put D V a = ⟨cut.closed, cut.current ++ [a]⟩ := if_pos h

theorem put_of_not_takes {cut : Cut α} {a : α} (h : ¬cut.Takes D V a) :
    cut.put D V a = ⟨cut.closed ++ [cut.current], [a]⟩ := if_neg h

theorem current_put_ne (cut : Cut α) (a : α) : (cut.put D V a).current ≠ [] := by
  unfold put
  split_ifs <;> simp

omit [DecidableEq α] in
theorem length_groups_of_ne {cut : Cut α} (h : cut.current ≠ []) :
    cut.groups.length = cut.closed.length + 1 := by
  rw [groups, if_neg h, List.length_append, List.length_singleton]

theorem takes_of_current_nil {cut : Cut α} (hD : 0 < D) (hV : 0 < V) (h : cut.current = []) (a : α) :
    cut.Takes D V a := by
  simp [Takes, h, hD, hV]

theorem current_foldl_put_ne {list : List α} (h : list ≠ []) (cut : Cut α) :
    (list.foldl (put D V) cut).current ≠ [] := by
  induction list generalizing cut with
  | nil => exact absurd rfl h
  | cons a rest ih =>
    cases rest with
    | nil => exact current_put_ne cut a
    | cons b rest => exact ih (List.cons_ne_nil b rest) (cut.put D V a)

/-! The greedy cut keeps the limits -/

theorem card_concat_of_notMem {group : List α} {a : α} (h : a ∉ group) :
    (group ++ [a]).toFinset.card = group.toFinset.card + 1 := by
  have h' : a ∉ group.toFinset := fun hm => h (List.mem_toFinset.1 hm)
  rw [← Finset.card_insert_of_notMem h']
  congr 1
  ext b
  simp

theorem card_concat_of_mem {group : List α} {a : α} (h : a ∈ group) :
    (group ++ [a]).toFinset.card = group.toFinset.card := by
  congr 1
  ext b
  simp only [List.mem_toFinset, List.mem_append, List.mem_singleton]
  exact ⟨fun hb => hb.elim id fun e => e ▸ h, Or.inl⟩

/-- What holds of a cut at each item: the closed groups keep the limits, and so does the one under way. -/
structure Kept (D V : Nat) (list : List α) (cut : Cut α) : Prop where
  flatten : cut.closed.flatten ++ cut.current = list
  closed : ∀ group ∈ cut.closed, Admissible D V group
  length_le : cut.current.length ≤ V
  card_le : cut.current.toFinset.card ≤ D

theorem Kept.put {list : List α} {cut : Cut α} (hD : 0 < D) (hV : 0 < V) (h : Kept D V list cut)
    (a : α) : Kept D V (list ++ [a]) (cut.put D V a) := by
  by_cases ht : cut.Takes D V a
  · rw [put_of_takes ht]
    refine ⟨?_, h.closed, ?_, ?_⟩
    · rw [← List.append_assoc, h.flatten]
    · rw [List.length_append, List.length_singleton]
      exact ht.1
    · show (cut.current ++ [a]).toFinset.card ≤ D
      by_cases hm : a ∈ cut.current
      · rw [card_concat_of_mem hm]
        exact h.card_le
      · rw [card_concat_of_notMem hm]
        exact ht.2.resolve_left hm
  · rw [put_of_not_takes ht]
    have hne : cut.current ≠ [] := fun hnil => ht (takes_of_current_nil hD hV hnil a)
    refine ⟨?_, ?_, hV, hD⟩
    · simp only [List.flatten_append, List.flatten_singleton, h.flatten]
    · intro group hg
      rcases List.mem_append.1 hg with hg | hg
      · exact h.closed group hg
      · rw [List.mem_singleton.1 hg]
        exact ⟨hne, h.length_le, h.card_le⟩

theorem kept_greedy (hD : 0 < D) (hV : 0 < V) (list : List α) : Kept D V list (greedy D V list) := by
  have hfold : ∀ (rest done : List α) (cut : Cut α), Kept D V done cut →
      Kept D V (done ++ rest) (rest.foldl (put D V) cut) := by
    intro rest
    induction rest with
    | nil => intro done cut h; rwa [List.append_nil]
    | cons a rest ih =>
      intro done cut h
      have := ih (done ++ [a]) (cut.put D V a) (h.put hD hV a)
      rwa [List.append_assoc] at this
  exact hfold list [] empty ⟨rfl, by simp [empty], by simp [empty], by simp [empty]⟩

theorem isCut_greedy (hD : 0 < D) (hV : 0 < V) (list : List α) :
    IsCut D V list (greedy D V list).groups := by
  have h := kept_greedy hD hV list
  unfold groups
  split_ifs with hnil
  · refine ⟨?_, h.closed⟩
    have := h.flatten
    rwa [hnil, List.append_nil] at this
  · refine ⟨?_, fun group hg => ?_⟩
    · rw [List.flatten_append, List.flatten_singleton, h.flatten]
    · rcases List.mem_append.1 hg with hg | hg
      · exact h.closed group hg
      · rw [List.mem_singleton.1 hg]
        exact ⟨hnil, h.length_le, h.card_le⟩

/-! No cut has fewer groups -/

/-- Items that fit in together all go into the group under way. -/
theorem foldl_put_of_fits (rest : List α) (cut : Cut α) (hlen : (cut.current ++ rest).length ≤ V)
    (hcard : (cut.current ++ rest).toFinset.card ≤ D) :
    rest.foldl (put D V) cut = ⟨cut.closed, cut.current ++ rest⟩ := by
  induction rest generalizing cut with
  | nil => rw [List.append_nil, List.foldl_nil]
  | cons a rest ih =>
    have htakes : cut.Takes D V a := by
      refine ⟨?_, ?_⟩
      · rw [List.length_append, List.length_cons] at hlen
        omega
      · by_cases hm : a ∈ cut.current
        · exact Or.inl hm
        · refine Or.inr (lt_of_lt_of_le ?_ hcard)
          rw [← Nat.succ_le_iff, Nat.succ_eq_add_one, ← card_concat_of_notMem hm]
          refine Finset.card_le_card fun b hb => ?_
          simp only [List.mem_toFinset, List.mem_append, List.mem_cons, List.not_mem_nil,
            or_false] at hb ⊢
          exact hb.imp id Or.inl
    rw [List.foldl_cons, put_of_takes htakes, ih]
    · rw [List.append_assoc, List.singleton_append]
    · rwa [List.append_assoc, List.singleton_append]
    · rwa [List.append_assoc, List.singleton_append]

theorem card_le_of_cons {a : α} {group : List α} (h : (a :: group).toFinset.card ≤ D) :
    group.toFinset.card ≤ D := by
  refine (Finset.card_le_card fun b hb => ?_).trans h
  rw [List.mem_toFinset] at hb ⊢
  exact List.mem_cons_of_mem a hb

/-- Over one group of any cut at most one group is closed. -/
theorem closed_foldl_put_le {group : List α} (hlen : group.length ≤ V)
    (hcard : group.toFinset.card ≤ D) (cut : Cut α) :
    (group.foldl (put D V) cut).closed.length ≤ cut.closed.length + 1 := by
  induction group generalizing cut with
  | nil => exact Nat.le_succ _
  | cons a rest ih =>
    rw [List.foldl_cons]
    by_cases ht : cut.Takes D V a
    · rw [put_of_takes ht]
      rw [List.length_cons] at hlen
      exact ih (by omega) (card_le_of_cons hcard) _
    · rw [put_of_not_takes ht, foldl_put_of_fits rest _ hlen hcard, List.length_append,
        List.length_singleton]

theorem length_groups_foldl_put_le {group : List α} (h : Admissible D V group) (cut : Cut α) :
    (group.foldl (put D V) cut).groups.length ≤ cut.groups.length + 1 := by
  rw [length_groups_of_ne (current_foldl_put_ne h.nonempty cut)]
  by_cases hnil : cut.current = []
  · have hcut : cut.groups = cut.closed := if_pos hnil
    rw [foldl_put_of_fits group cut (by simpa [hnil] using h.length_le)
      (by simpa [hnil] using h.card_le), hcut]
  · rw [length_groups_of_ne hnil]
    exact Nat.succ_le_succ (closed_foldl_put_le h.length_le h.card_le cut)

theorem length_groups_greedy_le {list : List α} {groups : List (List α)} (h : IsCut D V list groups) :
    (greedy D V list).groups.length ≤ groups.length := by
  have hfold : ∀ (groups : List (List α)) (cut : Cut α), (∀ group ∈ groups, Admissible D V group) →
      (groups.flatten.foldl (put D V) cut).groups.length ≤ cut.groups.length + groups.length := by
    intro groups
    induction groups with
    | nil => intro cut _; exact Nat.le_refl _
    | cons group rest ih =>
      intro cut hall
      rw [List.flatten_cons, List.foldl_append, List.length_cons]
      have hfirst := length_groups_foldl_put_le (hall group List.mem_cons_self) cut
      have hrest := ih (group.foldl (put D V) cut) fun g hg => hall g (List.mem_cons_of_mem _ hg)
      omega
  have := hfold groups empty h.admissible
  rw [h.flatten, show (empty : Cut α).groups.length = 0 from rfl, Nat.zero_add] at this
  exact this

/-! Runs of one item -/

/-- A group that has reached a limit is closed. -/
def reserve (D V : Nat) (cut : Cut α) : Cut α :=
  if D ≤ cut.current.toFinset.card ∨ V ≤ cut.current.length then ⟨cut.closed ++ [cut.current], []⟩
  else cut

/-- The next items of a kind come into a group that has none of them, or into a new group. -/
def Ready (V : Nat) (cut : Cut α) (a : α) : Prop := a ∉ cut.current ∨ V ≤ cut.current.length

theorem put_of_ready {cut : Cut α} {a : α} (h : cut.Ready V a) :
    cut.put D V a = ⟨(cut.reserve D V).closed, (cut.reserve D V).current ++ [a]⟩ := by
  by_cases hfull : D ≤ cut.current.toFinset.card ∨ V ≤ cut.current.length
  · have hnot : ¬cut.Takes D V a := by
      rintro ⟨hlen, htakes⟩
      rcases hfull with hfull | hfull
      · rcases h with h | h
        · rcases htakes with hm | hcard
          · exact h hm
          · omega
        · omega
      · omega
    rw [put_of_not_takes hnot, reserve, if_pos hfull]
    rfl
  · have htakes : cut.Takes D V a := ⟨by omega, Or.inr (by omega)⟩
    rw [put_of_takes htakes, reserve, if_neg hfull]

theorem foldl_put_replicate {cut : Cut α} {a : α} {n : Nat} (h : cut.Ready V a) (hn : 0 < n)
    (hroom : (cut.reserve D V).current.length + n ≤ V) :
    (List.replicate n a).foldl (put D V) cut =
      ⟨(cut.reserve D V).closed, (cut.reserve D V).current ++ List.replicate n a⟩ := by
  have hmem : ∀ (n : Nat) (cut : Cut α), a ∈ cut.current → cut.current.length + n ≤ V →
      (List.replicate n a).foldl (put D V) cut =
        ⟨cut.closed, cut.current ++ List.replicate n a⟩ := by
    intro n
    induction n with
    | zero => intro cut _ _; simp
    | succ n ih =>
      intro cut ha hlen
      rw [List.replicate_succ, List.foldl_cons, put_of_takes ⟨by omega, Or.inl ha⟩, ih]
      · simp
      · exact List.mem_append_left _ ha
      · simp only [List.length_append, List.length_singleton]
        omega
  obtain ⟨m, rfl⟩ : ∃ m, n = m + 1 := ⟨n - 1, by omega⟩
  rw [List.replicate_succ, List.foldl_cons, put_of_ready h, hmem]
  · simp
  · simp
  · simp only [List.length_append, List.length_singleton]
    omega

/-! Cuts into groups of one length -/

/-- Groups that are closed only when they have reached a length. -/
structure Full (m : Nat) (cut : Cut α) : Prop where
  closed : ∀ group ∈ cut.closed, group.length = m
  length_le : cut.current.length ≤ m

theorem Full.put {m : Nat} {cut : Cut α} {a : α} (hm : 0 < m) (h : Full m cut)
    (htakes : cut.Takes D V a ↔ cut.current.length < m) : Full m (cut.put D V a) := by
  by_cases ht : cut.Takes D V a
  · rw [put_of_takes ht]
    refine ⟨h.closed, ?_⟩
    rw [List.length_append, List.length_singleton]
    exact htakes.1 ht
  · rw [put_of_not_takes ht]
    have hlen : cut.current.length = m := by
      have := h.length_le
      have := mt htakes.2 ht
      omega
    refine ⟨fun group hg => ?_, hm⟩
    rcases List.mem_append.1 hg with hg | hg
    · exact h.closed group hg
    · rw [List.mem_singleton.1 hg, hlen]

theorem full_foldl_put_of_nodup (hD : 0 < D) (hV : 0 < V) (rest : List α) (cut : Cut α)
    (hnodup : (cut.current ++ rest).Nodup) (h : Full (min D V) cut) :
    Full (min D V) (rest.foldl (put D V) cut) := by
  induction rest generalizing cut with
  | nil => exact h
  | cons a rest ih =>
    have hnotMem : a ∉ cut.current := fun hm =>
      (List.nodup_append.1 hnodup).2.2 a hm a List.mem_cons_self rfl
    have hcard := List.toFinset_card_of_nodup (List.nodup_append.1 hnodup).1
    have htakes : cut.Takes D V a ↔ cut.current.length < min D V := by
      rw [Takes, hcard, lt_min_iff]
      simp only [hnotMem, false_or]
      exact and_comm
    refine ih (cut.put D V a) ?_ (h.put (lt_min hD hV) htakes)
    unfold Cut.put
    split_ifs
    · rwa [List.append_assoc, List.singleton_append]
    · exact (List.nodup_append.1 hnodup).2.1

theorem full_foldl_put_replicate (hD : 0 < D) (hV : 0 < V) (a : α) (n : Nat) (cut : Cut α)
    (hall : ∀ b ∈ cut.current, b = a) (h : Full V cut) :
    Full V ((List.replicate n a).foldl (put D V) cut) := by
  induction n generalizing cut with
  | zero => exact h
  | succ n ih =>
    have htakes : cut.Takes D V a ↔ cut.current.length < V := by
      refine and_iff_left ?_
      cases hc : cut.current with
      | nil => exact Or.inr hD
      | cons b rest =>
        refine Or.inl ?_
        rw [hall b (by rw [hc]; exact List.mem_cons_self)]
        exact List.mem_cons_self
    refine ih (cut.put D V a) ?_ (h.put hV htakes)
    unfold Cut.put
    split_ifs
    · intro b hb
      rcases List.mem_append.1 hb with hb | hb
      · exact hall b hb
      · exact List.mem_singleton.1 hb
    · exact fun b hb => List.mem_singleton.1 hb

theorem length_groups_of_full {m : Nat} {list : List α} (hD : 0 < D) (hV : 0 < V) (hm : 0 < m)
    (h : Full m (greedy D V list)) : (greedy D V list).groups.length = (list.length + m - 1) / m := by
  have hlen : list.length =
      m * (greedy D V list).closed.length + (greedy D V list).current.length := by
    have hsum : (greedy D V list).closed.flatten.length = m * (greedy D V list).closed.length := by
      rw [List.length_flatten, List.map_congr_left h.closed, List.map_const',
        List.sum_replicate_nat, Nat.mul_comm]
    have hflat := congrArg List.length (kept_greedy hD hV list).flatten
    rw [List.length_append, hsum] at hflat
    exact hflat.symm
  rcases eq_or_ne list [] with rfl | hne
  · show 0 = (0 + m - 1) / m
    exact (Nat.div_eq_of_lt (by omega)).symm
  · have hcur : (greedy D V list).current ≠ [] := current_foldl_put_ne hne empty
    have hpos := List.length_pos_iff.2 hcur
    have hle := h.length_le
    rw [length_groups_of_ne hcur, hlen]
    symm
    refine Nat.div_eq_of_lt_le ?_ ?_
    · rw [Nat.add_mul, Nat.mul_comm]
      omega
    · rw [Nat.add_mul, Nat.add_mul, Nat.mul_comm _ m]
      omega

/-- Distinct items come in groups of the smaller limit. -/
theorem length_groups_greedy_of_nodup {list : List α} (hD : 0 < D) (hV : 0 < V) (h : list.Nodup) :
    (greedy D V list).groups.length = (list.length + min D V - 1) / min D V :=
  length_groups_of_full hD hV (lt_min hD hV)
    (full_foldl_put_of_nodup hD hV list empty h ⟨by simp [empty], by simp [empty]⟩)

theorem length_groups_greedy_replicate (hD : 0 < D) (hV : 0 < V) (a : α) (n : Nat) :
    (greedy D V (List.replicate n a)).groups.length = (n + V - 1) / V := by
  have hfull : Full V (greedy D V (List.replicate n a)) :=
    full_foldl_put_replicate hD hV a n empty (by simp [empty]) ⟨by simp [empty], by simp [empty]⟩
  rw [length_groups_of_full hD hV hV hfull, List.length_replicate]

end Cut
end MetricPipeline
