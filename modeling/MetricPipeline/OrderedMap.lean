/-! Finite maps that list their entries in the order in which the keys first came. -/

namespace MetricPipeline

structure OrderedMap (κ ν : Type) where
  entries : List (κ × ν)
  nodup : (entries.map Prod.fst).Nodup

namespace OrderedMap

variable {κ ν : Type} [DecidableEq κ]

def empty : OrderedMap κ ν := ⟨[], List.nodup_nil⟩

def size (map : OrderedMap κ ν) : Nat := map.entries.length

def keys (map : OrderedMap κ ν) : List κ := map.entries.map Prod.fst

def values (map : OrderedMap κ ν) : List ν := map.entries.map Prod.snd

def find? (map : OrderedMap κ ν) (k : κ) : Option ν := map.entries.lookup k

/-- Changes the value at a key, which keeps its place, or adds the key at the end. -/
def upsertIn (k : κ) (f : Option ν → ν) : List (κ × ν) → List (κ × ν)
  | [] => [(k, f none)]
  | entry :: rest =>
    if entry.1 = k then (k, f (some entry.2)) :: rest else entry :: upsertIn k f rest

theorem map_fst_upsertIn (k : κ) (f : Option ν → ν) (entries : List (κ × ν)) :
    (upsertIn k f entries).map Prod.fst =
      if k ∈ entries.map Prod.fst then entries.map Prod.fst else entries.map Prod.fst ++ [k] := by
  induction entries with
  | nil => simp [upsertIn]
  | cons entry rest ih =>
    by_cases h : entry.1 = k
    · simp [upsertIn, h]
    · have h' : ¬k = entry.1 := fun e => h e.symm
      simp only [upsertIn, h, if_false, List.map_cons, ih, List.mem_cons, h', false_or]
      split <;> simp

theorem nodup_upsertIn (k : κ) (f : Option ν → ν) {entries : List (κ × ν)}
    (nodup : (entries.map Prod.fst).Nodup) : ((upsertIn k f entries).map Prod.fst).Nodup := by
  rw [map_fst_upsertIn]
  split
  · exact nodup
  · next absent =>
    refine List.nodup_append.2 ⟨nodup, by simp, fun a ha b hb hab => absent ?_⟩
    rw [← List.mem_singleton.1 hb, ← hab]
    exact ha

def upsert (map : OrderedMap κ ν) (k : κ) (f : Option ν → ν) : OrderedMap κ ν :=
  ⟨upsertIn k f map.entries, nodup_upsertIn k f map.nodup⟩

end OrderedMap
end MetricPipeline
