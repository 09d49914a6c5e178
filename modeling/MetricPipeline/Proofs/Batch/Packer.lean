import MetricPipeline.Proofs.Batch.Passes
import MetricPipeline.Proofs.Binary64.Counting

/-! Packing with limits and counts that are doubles. A limit is a whole number or not a number, and where it is
a whole number so is the count that it bounds; the loop over a histogram then makes the passes that counting
with natural numbers makes. Where the limit on values is not a number neither is the room that is left, the
first pass makes the offset no number either, and the loop ends. -/

namespace MetricPipeline

theorem Histogram.positionOf_ofNat {n size : Nat} (hn : n < 2 ^ 53) (h : n ≤ size) :
    positionOf (.ofNat n) size = n := by
  have htruncate : (Binary64.ofNat n).truncate? = some (n : Int) :=
    Binary64.truncate?_ofInt (by rwa [Int.natAbs_natCast])
  rw [Binary64.ofNat_eq_whole hn, Binary64.whole] at htruncate ⊢
  simp [positionOf, htruncate, h]

namespace Limit

/-- A limit in doubles: a whole number above zero, or not a number. -/
def Derived (x : Binary64) : Prop := x = .nan ∨ ∃ n, 0 < n ∧ n < 2 ^ 53 ∧ x = .ofNat n

theorem derived_clamp {service : Nat} (hpos : 0 < service) (hs : service < 2 ^ 53 - 1)
    (asked : Option Binary64) : Derived (clamp service asked) := by
  by_cases hasked : asked = some .nan
  · left
    have hfloor : Binary64.floor .nan = .nan := rfl
    rw [hasked, clamp, hfloor, Binary64.nan_min, Binary64.max_nan]
  · obtain ⟨n, hn, -, hlt, heq⟩ := clamp_eq_whole hpos hs hasked
    exact Or.inr ⟨n, hn, hlt, heq.trans (Binary64.ofNat_eq_whole hlt).symm⟩

theorem ofBinary64_nan : ofBinary64 .nan = .unbounded := rfl

theorem ofBinary64_ofNat {n : Nat} (hpos : 0 < n) (h : n < 2 ^ 53) :
    ofBinary64 (.ofNat n) = .atMost n hpos :=
  ofBinary64_of_toInt? hpos (Binary64.toInt?_ofNat h)

theorem Derived.reached {x : Binary64} (h : Derived x) (used : Nat) :
    (ofBinary64 x).reached used = x.le (.ofNat used) := by
  obtain rfl | ⟨n, hpos, hn, rfl⟩ := h
  · rfl
  · rw [ofBinary64_ofNat hpos hn, Binary64.le_ofNat hn]
    rfl

end Limit

/-- A batch with its limits and its count of values as doubles. -/
structure Packer where
  namespaceName : String
  maxData : Binary64
  maxValues : Binary64
  closed : List Request
  data : List Datum
  values : Binary64

namespace Packer

def create (namespaceName : String) (data values : Option Binary64) : Packer where
  namespaceName
  maxData := Limit.clamp RequestLimits.serviceData data
  maxValues := Limit.clamp RequestLimits.serviceValues values
  closed := []
  data := []
  values := .ofNat 0

def close (packer : Packer) : Packer :=
  { packer with
    closed := packer.closed ++ [⟨packer.namespaceName, packer.data⟩], data := [], values := .ofNat 0 }

def reserve (packer : Packer) : Packer :=
  if packer.maxData.le (.ofNat packer.data.length) || packer.maxValues.le packer.values then packer.close
  else packer

def remaining (packer : Packer) : Binary64 := packer.maxValues - packer.values

def push (packer : Packer) (datum : Datum) (values : Binary64) : Packer :=
  { packer with data := packer.data ++ [datum], values := packer.values + values }

def finish (packer : Packer) : List Request :=
  if packer.data = [] then packer.closed else packer.close.closed

/-- The loop over a histogram: while an offset is below the size, what is left or what there is room for is
taken. It ends after the passes from some offsets. -/
inductive Loop (aggregator : Aggregator) (time : Instant) (size : Nat) :
    Packer → Binary64 → List Binary64 → Packer → Prop
  | ended {packer : Packer} {offset : Binary64} (h : offset.lt (.ofNat size) = false) :
    Loop aggregator time size packer offset [] packer
  | pass {packer final : Packer} {offset count : Binary64} {offsets : List Binary64} {datum : Datum}
    (h : offset.lt (.ofNat size) = true)
    (hcount : count = .min packer.reserve.remaining (.ofNat size - offset))
    (hdatum : aggregator.datum? time offset count = .ok datum)
    (rest : Loop aggregator time size (packer.reserve.push datum count) (offset + count) offsets final) :
    Loop aggregator time size packer offset (offset :: offsets) final

/-- The placing of an aggregator, with the offsets of the loop where there is one. -/
inductive Places : Packer → Instant × Aggregator → List Binary64 → Packer → Prop
  | summary {packer : Packer} {time : Instant} {aggregator : Aggregator} {summary : Summary} {datum : Datum}
    (htally : aggregator.tally = .summary summary) (hdatum : aggregator.statistics time summary = .ok datum) :
    Places packer (time, aggregator) [] (packer.reserve.push datum (.ofNat 1))
  | detailed {packer final : Packer} {time : Instant} {aggregator : Aggregator} {histogram : Histogram}
    {offsets : List Binary64} (htally : aggregator.tally = .detailed histogram)
    (hloop : Loop aggregator time histogram.size packer (.ofNat 0) offsets final) :
    Places packer (time, aggregator) offsets final

inductive PlacesAll : Packer → List (Instant × Aggregator) → List (List Binary64) → Packer → Prop
  | nil {packer : Packer} : PlacesAll packer [] [] packer
  | cons {packer middle final : Packer} {placed : Instant × Aggregator} {rest : List (Instant × Aggregator)}
    {offsets : List Binary64} {others : List (List Binary64)} (hplaces : packer.Places placed offsets middle)
    (hrest : PlacesAll middle rest others final) : PlacesAll packer (placed :: rest) (offsets :: others) final

/-! Placing goes one way -/

section

variable {packer final final' : Packer}

theorem Loop.unique {aggregator : Aggregator} {time : Instant} {size : Nat} {offset : Binary64}
    {offsets offsets' : List Binary64} (h : Loop aggregator time size packer offset offsets final)
    (h' : Loop aggregator time size packer offset offsets' final') : offsets = offsets' ∧ final = final' := by
  induction h generalizing offsets' with
  | ended hend =>
    cases h' with
    | ended => exact ⟨rfl, rfl⟩
    | pass hpass => rw [hend] at hpass; cases hpass
  | pass hpass hcount hdatum _ ih =>
    cases h' with
    | ended hend => rw [hend] at hpass; cases hpass
    | pass _ hcount' hdatum' hrest' =>
      obtain rfl := hcount.trans hcount'.symm
      obtain rfl := Except.ok.inj (hdatum.symm.trans hdatum')
      obtain ⟨rfl, rfl⟩ := ih hrest'
      exact ⟨rfl, rfl⟩

theorem Places.unique {placed : Instant × Aggregator} {offsets offsets' : List Binary64}
    (h : packer.Places placed offsets final) (h' : packer.Places placed offsets' final') :
    offsets = offsets' ∧ final = final' := by
  cases h with
  | summary htally hdatum =>
    cases h' with
    | summary htally' hdatum' =>
      obtain rfl := Tally.summary.inj (htally.symm.trans htally')
      obtain rfl := Except.ok.inj (hdatum.symm.trans hdatum')
      exact ⟨rfl, rfl⟩
    | detailed htally' => cases htally.symm.trans htally'
  | detailed htally hloop =>
    cases h' with
    | summary htally' => cases htally.symm.trans htally'
    | detailed htally' hloop' =>
      obtain rfl := Tally.detailed.inj (htally.symm.trans htally')
      exact hloop.unique hloop'

theorem PlacesAll.unique {placed : List (Instant × Aggregator)} {offsets offsets' : List (List Binary64)}
    (h : packer.PlacesAll placed offsets final) (h' : packer.PlacesAll placed offsets' final') :
    offsets = offsets' ∧ final = final' := by
  induction h generalizing offsets' with
  | nil =>
    cases h'
    exact ⟨rfl, rfl⟩
  | cons hplaces _ ih =>
    cases h' with
    | cons hplaces' hrest' =>
      obtain ⟨rfl, rfl⟩ := hplaces.unique hplaces'
      obtain ⟨rfl, rfl⟩ := ih hrest'
      exact ⟨rfl, rfl⟩

end

/-- The same batch, as far as its values matter: where they have no limit their count is never asked for. -/
structure Mirrors (packer : Packer) (batch : Batch) : Prop where
  namespaceName : packer.namespaceName = batch.namespaceName
  closed : packer.closed = batch.closed
  data : packer.data = batch.data
  limits : batch.limits = ⟨.ofBinary64 packer.maxData, .ofBinary64 packer.maxValues⟩
  maxData : Limit.Derived packer.maxData
  maxValues : Limit.Derived packer.maxValues
  values : packer.maxValues ≠ .nan → packer.values = .ofNat batch.values

theorem mirrors_create (namespaceName : String) (data values : Option Binary64) :
    Mirrors (create namespaceName data values) (.empty namespaceName (.create data values)) where
  namespaceName := rfl
  closed := rfl
  data := rfl
  limits := rfl
  maxData := Limit.derived_clamp (by decide) (by decide) data
  maxValues := Limit.derived_clamp (by decide) (by decide) values
  values := fun _ => by rw [create, Batch.empty]

theorem maxValues_reserve (packer : Packer) : packer.reserve.maxValues = packer.maxValues := by
  unfold reserve
  split <;> rfl

/-! What the loop takes -/

section

variable {aggregator : Aggregator} {histogram : Histogram} {offset count : Nat}

theorem datum?_ofNat (time : Instant) (htally : aggregator.tally = .detailed histogram)
    (hsize : histogram.size < 2 ^ 53) (hle : offset + count ≤ histogram.size) (hpos : 0 < offset + count) :
    aggregator.datum? time (.ofNat offset) (.ofNat count) =
      .ok (aggregator.entries time histogram offset (offset + count)) := by
  rw [Aggregator.datum?, htally]
  dsimp only
  rw [Binary64.ofNat_add_ofNat hpos (by omega), Histogram.positionOf_ofNat (by omega) (by omega),
    Histogram.positionOf_ofNat (by omega) hle]

theorem datum?_ofNat_nan (time : Instant) (htally : aggregator.tally = .detailed histogram)
    (hsize : histogram.size < 2 ^ 53) (hle : offset ≤ histogram.size) :
    aggregator.datum? time (.ofNat offset) .nan = .ok (aggregator.entries time histogram 0 0) := by
  rw [Aggregator.datum?, htally]
  dsimp only
  rw [Binary64.add_nan, Histogram.positionOf_ofNat (by omega) hle, ← Aggregator.entries_zero offset]
  rfl

end

namespace Mirrors

variable {packer : Packer} {batch : Batch}

theorem close (h : Mirrors packer batch) : Mirrors packer.close batch.close where
  namespaceName := h.namespaceName
  closed := by rw [Packer.close, Batch.close, h.closed, h.namespaceName, h.data]
  data := rfl
  limits := h.limits
  maxData := h.maxData
  maxValues := h.maxValues
  values := fun _ => by rw [Packer.close, Batch.close]

theorem reached (h : Mirrors packer batch) :
    (packer.maxData.le (.ofNat packer.data.length) || packer.maxValues.le packer.values) =
      (batch.limits.data.reached batch.data.length || batch.limits.values.reached batch.values) := by
  rw [h.limits, h.data, h.maxData.reached, h.maxValues.reached]
  by_cases hnan : packer.maxValues = .nan
  · rw [hnan, Binary64.nan_le, Binary64.nan_le]
  · rw [h.values hnan]

theorem reserve (h : Mirrors packer batch) : Mirrors packer.reserve batch.reserve := by
  rw [Packer.reserve, Batch.reserve, h.reached]
  split
  · exact h.close
  · exact h

theorem finish (h : Mirrors packer batch) : packer.finish = batch.finish := by
  rw [Packer.finish, Batch.finish, h.data, h.close.closed, h.closed]

/-- A datum is added, and its values where they are counted. -/
theorem push (h : Mirrors packer batch) (datum : Datum) {count : Binary64} {n : Nat}
    (hcount : packer.maxValues ≠ .nan → packer.values + count = .ofNat (batch.values + n)) :
    Mirrors (packer.push datum count) (batch.push datum n) where
  namespaceName := h.namespaceName
  closed := h.closed
  data := by rw [Packer.push, Batch.push, h.data]
  limits := h.limits
  maxData := h.maxData
  maxValues := h.maxValues
  values := hcount

theorem maxValues_of_unbounded (h : Mirrors packer batch) (hlimit : batch.limits.values = .unbounded) :
    packer.maxValues = .nan := by
  rw [h.limits] at hlimit
  obtain hnan | ⟨n, hpos, hn, heq⟩ := h.maxValues
  · exact hnan
  · rw [heq, Limit.ofBinary64_ofNat hpos hn] at hlimit
    cases hlimit

theorem maxValues_of_atMost (h : Mirrors packer batch) {n : Nat} {pos : 0 < n}
    (hlimit : batch.limits.values = .atMost n pos) : n < 2 ^ 53 ∧ packer.maxValues = .ofNat n := by
  rw [h.limits] at hlimit
  obtain hnan | ⟨m, hpos, hm, heq⟩ := h.maxValues
  · rw [hnan, Limit.ofBinary64_nan] at hlimit
    cases hlimit
  · rw [heq, Limit.ofBinary64_ofNat hpos hm] at hlimit
    obtain rfl := Limit.atMost.inj hlimit
    exact ⟨hm, heq⟩

theorem reserve_values_of_atMost (h : Mirrors packer batch) {n : Nat} {pos : 0 < n}
    (hlimit : batch.limits.values = .atMost n pos) : packer.reserve.values = .ofNat batch.reserve.values := by
  obtain ⟨hn, hmax⟩ := h.maxValues_of_atMost hlimit
  refine h.reserve.values ?_
  rw [maxValues_reserve, hmax, Binary64.ofNat_eq_whole hn]
  exact Binary64.noConfusion

variable {final : Batch} {aggregator : Aggregator} {time : Instant} {histogram : Histogram} {offset : Nat}
  {starts : List Nat}

/-- The loop in doubles makes the passes that are made with natural numbers. -/
theorem loop (h : Mirrors packer batch)
    (hpasses : Batch.Passes aggregator time histogram batch offset starts final)
    (htally : aggregator.tally = .detailed histogram) (hsize : histogram.size < 2 ^ 53)
    (hoffset : offset ≤ histogram.size) :
    ∃ last, Loop aggregator time histogram.size packer (.ofNat offset) (starts.map Binary64.ofNat) last ∧
      Mirrors last final := by
  induction hpasses generalizing packer with
  | ended hge =>
    refine ⟨packer, .ended ?_, h⟩
    rw [Binary64.lt_ofNat (by omega) hsize]
    exact decide_eq_false (by omega)
  | @only batch offset hlt hlimit =>
    have hnan := h.maxValues_of_unbounded hlimit
    have hcount : Binary64.nan = .min packer.reserve.remaining (.ofNat histogram.size - .ofNat offset) := by
      rw [remaining, maxValues_reserve, hnan, Binary64.nan_sub, Binary64.nan_min]
    have hdatum : aggregator.datum? time (.ofNat offset) .nan =
        .ok (aggregator.entries time histogram 0 0) :=
      datum?_ofNat_nan time htally hsize hlt.le
    refine ⟨_, .pass ?_ hcount hdatum (.ended ?_), h.reserve.push _ fun hne => absurd ?_ hne⟩
    · rw [Binary64.lt_ofNat (by omega) hsize]
      exact decide_eq_true hlt
    · rw [Binary64.add_nan, Binary64.nan_lt]
    · rw [maxValues_reserve, hnan]
  | @next batch final offset count n pos starts hlt hlimit hcount _ ih =>
    obtain ⟨hn, hmax⟩ := h.maxValues_of_atMost hlimit
    have hroom := Batch.values_reserve_lt hlimit
    have hvalues := h.reserve_values_of_atMost hlimit
    have hcount' : Binary64.ofNat count =
        .min packer.reserve.remaining (.ofNat histogram.size - .ofNat offset) := by
      rw [remaining, maxValues_reserve, hmax, hvalues, Binary64.ofNat_sub_ofNat hroom hn,
        Binary64.ofNat_sub_ofNat hlt hsize, Binary64.min_ofNat (by omega) (by omega), hcount]
    have hdatum := datum?_ofNat time htally hsize (show offset + count ≤ histogram.size by omega)
      (show 0 < offset + count by omega)
    have hpush : Mirrors
        (packer.reserve.push (aggregator.entries time histogram offset (offset + count)) (.ofNat count))
        (batch.reserve.push (aggregator.entries time histogram offset (offset + count)) count) :=
      h.reserve.push _ fun _ => by rw [hvalues, Binary64.ofNat_add_ofNat (by omega) (by omega)]
    obtain ⟨last, hloop, hmirrors⟩ := ih hpush (by omega)
    rw [← Binary64.ofNat_add_ofNat (by omega) (by omega)] at hloop
    refine ⟨last, .pass ?_ hcount' hdatum hloop, hmirrors⟩
    rw [Binary64.lt_ofNat (by omega) hsize]
    exact decide_eq_true hlt

/-- A summary takes one of the values, of which there is room for one at least. -/
theorem push_one (h : Mirrors packer batch) (datum : Datum) :
    Mirrors (packer.reserve.push datum (.ofNat 1)) (batch.reserve.push datum 1) := by
  refine h.reserve.push datum fun hne => ?_
  rw [h.reserve.values hne]
  cases hlimit : batch.limits.values with
  | unbounded => exact absurd (by rw [maxValues_reserve, h.maxValues_of_unbounded hlimit]) hne
  | atMost n pos =>
    have hn := (h.maxValues_of_atMost hlimit).1
    have hroom := Batch.values_reserve_lt hlimit
    exact Binary64.ofNat_add_ofNat (by omega) (by omega)

end Mirrors

/-- An aggregator that is not empty is placed, by counting in doubles as by counting with natural numbers. -/
theorem exists_places {placed : Instant × Aggregator} (hfilled : placed.2.Filled) (batch : Batch) :
    ∃ final starts data, Batch.place placed.1 batch placed.2 = .ok final ∧ final.limits = batch.limits ∧
      final.allData = batch.allData ++ data ∧ Traversed batch.limits.values placed starts data ∧
      (placed.2.slots < 2 ^ 53 → ∀ packer, Mirrors packer batch →
        ∃ last, packer.Places placed (starts.map Binary64.ofNat) last ∧ Mirrors last final) := by
  obtain ⟨time, aggregator⟩ := placed
  dsimp only at hfilled ⊢
  rw [Aggregator.Filled] at hfilled
  rw [Batch.place, Aggregator.slots]
  cases htally : aggregator.tally with
  | summary summary =>
    rw [htally] at hfilled
    have hdatum : aggregator.statistics time summary = .ok (aggregator.datum time (.statistics summary)) :=
      if_neg (Nat.pos_iff_ne_zero.1 hfilled)
    refine ⟨batch.reserve.push (aggregator.datum time (.statistics summary)) 1, [], _, ?_,
      Batch.limits_reserve batch, ?_, Batch.traversed_summary _ htally, fun _ packer h => ?_⟩
    · dsimp only
      rw [hdatum]
      rfl
    · rw [Batch.allData_push, Batch.allData_reserve]
    · exact ⟨_, .summary htally hdatum, h.push_one _⟩
  | detailed histogram =>
    rw [htally] at hfilled
    obtain ⟨starts, hpasses⟩ := Batch.exists_passes aggregator time histogram batch 0
    obtain ⟨data, hdata, htraversed⟩ := hpasses.traversed htally hfilled.1
    refine ⟨_, starts, data, rfl, hpasses.limits, hdata, htraversed, fun hsize packer h => ?_⟩
    obtain ⟨last, hloop, hmirrors⟩ := h.loop hpasses htally hsize (Nat.zero_le _)
    exact ⟨last, .detailed htally hloop, hmirrors⟩

/-- Aggregators that are not empty are placed one after the other. -/
theorem exists_placesAll {placed : List (Instant × Aggregator)} (hfilled : ∀ x ∈ placed, x.2.Filled)
    (batch : Batch) :
    ∃ final passes, placed.foldlM (fun batch x => Batch.place x.1 batch x.2) batch = .ok final ∧
      final.allData = batch.allData ++ passes.flatMap Prod.snd ∧
      List.Forall₂ (fun x pass => Traversed batch.limits.values x pass.1 pass.2) placed passes ∧
      ((∀ x ∈ placed, x.2.slots < 2 ^ 53) → ∀ packer, Mirrors packer batch →
        ∃ last, packer.PlacesAll placed (passes.map fun pass => pass.1.map Binary64.ofNat) last ∧
          Mirrors last final) := by
  induction placed generalizing batch with
  | nil =>
    refine ⟨batch, [], rfl, ?_, .nil, fun _ packer h => ⟨packer, .nil, h⟩⟩
    rw [List.flatMap_nil, List.append_nil]
  | cons x rest ih =>
    obtain ⟨middle, starts, data, hplace, hlimits, hdata, htraversed, hplaces⟩ :=
      exists_places (hfilled x List.mem_cons_self) batch
    obtain ⟨final, passes, hfold, hrest, hall, hplacesAll⟩ :=
      ih (fun y hy => hfilled y (List.mem_cons_of_mem x hy)) middle
    rw [hlimits] at hall
    refine ⟨final, (starts, data) :: passes, ?_, ?_, .cons htraversed hall, fun hslots packer h => ?_⟩
    · rw [List.foldlM_cons, hplace]
      exact hfold
    · rw [hrest, hdata, List.append_assoc, List.flatMap_cons]
    · obtain ⟨last, hlast, hmirrors⟩ := hplaces (hslots x List.mem_cons_self) packer h
      obtain ⟨last', hlast', hmirrors'⟩ :=
        hplacesAll (fun y hy => hslots y (List.mem_cons_of_mem x hy)) last hmirrors
      exact ⟨last', .cons hlast hlast', hmirrors'⟩

end Packer
end MetricPipeline
