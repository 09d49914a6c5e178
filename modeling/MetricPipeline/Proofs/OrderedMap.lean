import Mathlib.Data.List.Induction
import Mathlib.Data.List.Nodup
import MetricPipeline.OrderedMap

/-! Building a map by upserts groups a list: the keys are those of the list in the order of their first
items, and what stands at a key has seen the items of that key only, in their order. -/

namespace MetricPipeline

theorem eraseDups_concat {α : Type} [DecidableEq α] (items : List α) (a : α) :
    (items ++ [a]).eraseDups = if a ∈ items then items.eraseDups else items.eraseDups ++ [a] := by
  rw [List.eraseDups_append]
  split_ifs with h
  · simp [List.removeAll, h]
  · have hnew : [a].removeAll items = [a] := by simp [List.removeAll, h]
    rw [hnew]
    rfl

theorem nodup_eraseDups {α : Type} [DecidableEq α] (items : List α) : items.eraseDups.Nodup := by
  induction items using List.reverseRecOn with
  | nil => exact List.nodup_nil
  | append_singleton items a ih =>
    rw [eraseDups_concat]
    split_ifs with h
    · exact ih
    · refine List.nodup_append.2 ⟨ih, List.nodup_singleton a, fun b hb c hc hbc => h ?_⟩
      rw [List.mem_singleton] at hc
      rw [← hc, ← hbc]
      exact List.mem_eraseDups.1 hb

/-- Distinct items stand in the order in which they first come. -/
theorem pairwise_idxOf_eraseDups {α : Type} [DecidableEq α] (items : List α) :
    items.eraseDups.Pairwise fun a b => items.idxOf a < items.idxOf b := by
  induction items using List.reverseRecOn with
  | nil => exact .nil
  | append_singleton items a ih =>
    have hkept : items.eraseDups.Pairwise fun b c => (items ++ [a]).idxOf b < (items ++ [a]).idxOf c := by
      apply ih.imp_of_mem
      intro b c hb hc hlt
      rwa [List.idxOf_append_of_mem (List.mem_eraseDups.1 hb),
        List.idxOf_append_of_mem (List.mem_eraseDups.1 hc)]
    rw [eraseDups_concat]
    split_ifs with hmem
    · exact hkept
    · apply List.pairwise_append.2 ⟨hkept, List.pairwise_singleton _ _, ?_⟩
      intro b hb c hc
      -- what was there comes before the end of the list, where the new item first comes
      obtain rfl := List.mem_singleton.1 hc
      rw [List.idxOf_append_of_mem (List.mem_eraseDups.1 hb), List.idxOf_append_of_notMem hmem]
      have hlt := List.idxOf_lt_length_of_mem (List.mem_eraseDups.1 hb)
      omega

theorem eraseDups_map {α β : Type} [DecidableEq α] [DecidableEq β] {f : α → β} {items : List α}
    (hinj : ∀ a ∈ items, ∀ b ∈ items, f a = f b → a = b) :
    (items.map f).eraseDups = items.eraseDups.map f := by
  induction items using List.reverseRecOn with
  | nil => rfl
  | append_singleton items a ih =>
    have hmem : f a ∈ items.map f ↔ a ∈ items := by
      rw [List.mem_map]
      constructor
      · rintro ⟨b, hb, heq⟩
        rwa [← hinj b (List.mem_append_left _ hb) a (by simp) heq]
      · exact fun ha => ⟨a, ha, rfl⟩
    have hrest := ih fun b hb c hc => hinj b (List.mem_append_left _ hb) c (List.mem_append_left _ hc)
    rw [List.map_append, List.map_singleton, eraseDups_concat, eraseDups_concat, hrest]
    simp only [hmem]
    split_ifs
    · rfl
    · rw [List.map_append, List.map_singleton]

namespace OrderedMap

variable {α κ ν : Type} [DecidableEq κ]

theorem lookup_cons_of_ne {k k' : κ} (h : k' ≠ k) (v : ν) (rest : List (κ × ν)) :
    ((k, v) :: rest).lookup k' = rest.lookup k' := by
  have hb : (k' == k) = false := by simpa using h
  rw [List.lookup_cons, hb]

theorem lookup_upsertIn_self (k : κ) (f : Option ν → ν) (entries : List (κ × ν)) :
    (upsertIn k f entries).lookup k = some (f (entries.lookup k)) := by
  induction entries with
  | nil => exact List.lookup_cons_self
  | cons entry rest ih =>
    obtain ⟨k', v⟩ := entry
    rw [upsertIn]
    by_cases h : k' = k
    · subst h
      rw [if_pos rfl, List.lookup_cons_self, List.lookup_cons_self]
    · have h' : k ≠ k' := fun e => h e.symm
      rw [if_neg h, lookup_cons_of_ne h', lookup_cons_of_ne h', ih]

theorem lookup_upsertIn_of_ne {k k' : κ} (h : k' ≠ k) (f : Option ν → ν) (entries : List (κ × ν)) :
    (upsertIn k f entries).lookup k' = entries.lookup k' := by
  induction entries with
  | nil => exact lookup_cons_of_ne h _ []
  | cons entry rest ih =>
    obtain ⟨k₁, v⟩ := entry
    rw [upsertIn]
    by_cases he : k₁ = k
    · subst he
      rw [if_pos rfl, lookup_cons_of_ne h, lookup_cons_of_ne h]
    · rw [if_neg he, List.lookup_cons, List.lookup_cons, ih]

@[simp] theorem find?_empty (k : κ) : (empty : OrderedMap κ ν).find? k = none := rfl

theorem find?_upsert_self (map : OrderedMap κ ν) (k : κ) (f : Option ν → ν) :
    (map.upsert k f).find? k = some (f (map.find? k)) :=
  lookup_upsertIn_self k f map.entries

theorem find?_upsert_of_ne (map : OrderedMap κ ν) {k k' : κ} (h : k' ≠ k) (f : Option ν → ν) :
    (map.upsert k f).find? k' = map.find? k' :=
  lookup_upsertIn_of_ne h f map.entries

theorem keys_upsert (map : OrderedMap κ ν) (k : κ) (f : Option ν → ν) :
    (map.upsert k f).keys = if k ∈ map.keys then map.keys else map.keys ++ [k] :=
  map_fst_upsertIn k f map.entries

theorem mem_entries_iff (map : OrderedMap κ ν) {k : κ} {v : ν} :
    (k, v) ∈ map.entries ↔ map.find? k = some v := by
  obtain ⟨entries, nodup⟩ := map
  show (k, v) ∈ entries ↔ entries.lookup k = some v
  induction entries with
  | nil => simp
  | cons entry rest ih =>
    obtain ⟨k', v'⟩ := entry
    rw [List.map_cons, List.nodup_cons] at nodup
    by_cases h : k = k'
    · subst h
      have habsent : (k, v) ∉ rest := fun hm => nodup.1 (List.mem_map.2 ⟨_, hm, rfl⟩)
      rw [List.lookup_cons_self]
      simp [habsent, eq_comm]
    · rw [lookup_cons_of_ne h, List.mem_cons, ih nodup.2]
      simp [h]

/-- A map is its keys, each with what stands there. -/
theorem entries_eq (map : OrderedMap κ ν) :
    map.entries = map.keys.filterMap fun k => (map.find? k).map (k, ·) := by
  have hsome : ∀ entry ∈ map.entries, (map.find? entry.1).map (entry.1, ·) = some entry := by
    rintro ⟨k, v⟩ hentry
    rw [(mem_entries_iff map).1 hentry]
    rfl
  rw [keys, List.filterMap_map]
  exact ((List.filterMap_congr hsome).trans List.filterMap_some).symm

theorem values_eq (map : OrderedMap κ ν) : map.values = map.keys.filterMap map.find? := by
  rw [values, entries_eq, List.map_filterMap]
  refine List.filterMap_congr fun k _ => ?_
  cases map.find? k <;> rfl

/-- What stands at a key has seen the items of that key in their order. -/
theorem find?_foldl_upsert (key : α → κ) (step : α → Option ν → ν) (items : List α)
    (map : OrderedMap κ ν) (k : κ) :
    (items.foldl (fun map a => map.upsert (key a) (step a)) map).find? k =
      (items.filter fun a => key a = k).foldl (fun found a => some (step a found)) (map.find? k) := by
  induction items generalizing map with
  | nil => rfl
  | cons a rest ih =>
    rw [List.foldl_cons, ih]
    by_cases h : key a = k
    · rw [List.filter_cons_of_pos (by simpa using h), List.foldl_cons, ← h, find?_upsert_self]
    · rw [List.filter_cons_of_neg (by simpa using h), find?_upsert_of_ne _ fun e => h e.symm]

/-- The keys stand in the order of their first items. -/
theorem keys_foldl_upsert (key : α → κ) (step : α → Option ν → ν) (items : List α) :
    (items.foldl (fun map a => map.upsert (key a) (step a)) (empty : OrderedMap κ ν)).keys =
      (items.map key).eraseDups := by
  induction items using List.reverseRecOn with
  | nil => rfl
  | append_singleton items a ih =>
    rw [List.foldl_append, List.foldl_cons, List.foldl_nil, keys_upsert, ih, List.map_append,
      List.map_singleton, eraseDups_concat]
    simp only [List.mem_eraseDups]

/-- What items make of a key at which nothing stood: nothing without items, else what they make of the
initial value. -/
theorem foldl_some (g : ν → α → ν) (initial : ν) (items : List α) :
    items.foldl (fun found a => some (g (found.getD initial) a)) none =
      if items = [] then none else some (items.foldl g initial) := by
  have hsome : ∀ (items : List α) (v : ν),
      items.foldl (fun found a => some (g (found.getD initial) a)) (some v) =
        some (items.foldl g v) := by
    intro items
    induction items with
    | nil => exact fun v => rfl
    | cons a rest ih => exact fun v => ih (g v a)
  cases items with
  | nil => rfl
  | cons a rest => exact hsome rest (g initial a)

end OrderedMap
end MetricPipeline
