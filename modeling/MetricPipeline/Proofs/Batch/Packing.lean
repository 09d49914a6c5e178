import MetricPipeline.Batch
import MetricPipeline.Proofs.Batch.Cut
import MetricPipeline.Proofs.Store

/-! Packing a store is the greedy cut. Each aggregator stands for as many slots as it takes values, all
labelled with its series, and the requests are the groups of the cut that starts a new group only where it
must. The data of one aggregator come one after the other and hold its entries in order. -/

namespace MetricPipeline

namespace Datum

/-- How many values of a request the datum takes. -/
def slots (datum : Datum) : Nat :=
  match datum.measurement with
  | .statistics _ => 1
  | .entries values _ => values.length

/-- A summary, or entries that have a count for each value and are not none. -/
def Proper (datum : Datum) : Prop :=
  match datum.measurement with
  | .statistics _ => True
  | .entries values counts => values ≠ [] ∧ counts.length = values.length

theorem Proper.slots_pos {datum : Datum} (h : datum.Proper) : 0 < datum.slots := by
  unfold Proper at h
  unfold slots
  split
  · exact Nat.one_pos
  · next values counts heq =>
    rw [heq] at h
    exact List.length_pos_iff.2 h.1

end Datum

/-- The series of data, each as often as the datum takes values. -/
def labels (data : List Datum) : List Series :=
  data.flatMap fun datum => List.replicate datum.slots datum.series

theorem labels_concat (data : List Datum) (datum : Datum) :
    labels (data ++ [datum]) = labels data ++ List.replicate datum.slots datum.series := by
  simp [labels]

theorem length_labels (data : List Datum) : (labels data).length = (data.map Datum.slots).sum := by
  simp [labels, List.length_flatMap]

/-- Data of different series that all take values. -/
structure Neat (data : List Datum) : Prop where
  nodup : (data.map Datum.series).Nodup
  proper : ∀ datum ∈ data, datum.Proper

theorem neat_nil : Neat [] := ⟨List.nodup_nil, fun _ h => absurd h List.not_mem_nil⟩

theorem Neat.concat {data : List Datum} {datum : Datum} (h : Neat data) (hdatum : datum.Proper)
    (hnew : datum.series ∉ data.map Datum.series) : Neat (data ++ [datum]) := by
  constructor
  · rw [List.map_append, List.map_singleton]
    exact List.nodup_append.2 ⟨h.nodup, List.nodup_singleton _, fun s hs t ht hst => hnew (by
      rw [List.mem_singleton] at ht
      rwa [← ht, ← hst])⟩
  · intro d hd
    rcases List.mem_append.1 hd with hd | hd
    · exact h.proper d hd
    · rw [List.mem_singleton.1 hd]
      exact hdatum

theorem Neat.mem_labels {data : List Datum} (h : Neat data) (s : Series) :
    s ∈ labels data ↔ s ∈ data.map Datum.series := by
  simp only [labels, List.mem_flatMap, List.mem_map, List.mem_replicate]
  constructor
  · rintro ⟨d, hd, -, rfl⟩
    exact ⟨d, hd, rfl⟩
  · rintro ⟨d, hd, rfl⟩
    exact ⟨d, hd, Nat.pos_iff_ne_zero.1 (h.proper d hd).slots_pos, rfl⟩

theorem Neat.card_labels {data : List Datum} (h : Neat data) :
    (labels data).toFinset.card = data.length := by
  have heq : (labels data).toFinset = (data.map Datum.series).toFinset := by
    ext s
    rw [List.mem_toFinset, List.mem_toFinset, h.mem_labels]
  rw [heq, List.toFinset_card_of_nodup h.nodup, List.length_map]

theorem Neat.labels_eq_nil {data : List Datum} (h : Neat data) : labels data = [] ↔ data = [] := by
  constructor
  · intro hnil
    have hcard := h.card_labels
    rw [hnil] at hcard
    exact List.length_eq_zero_iff.1 hcard.symm
  · rintro rfl
    rfl

namespace Batch

variable {D V : Nat} {hD : 0 < D} {hV : 0 < V}

/-- The labels of the closed requests and of the one under way. -/
def cut (batch : Batch) : Cut Series :=
  ⟨batch.closed.map fun request => labels request.data, labels batch.data⟩

/-- All data of a batch in their order. -/
def allData (batch : Batch) : List Datum := batch.closed.flatMap Request.data ++ batch.data

/-- A batch within its limits that counts the values of the request under way. -/
structure Sound (hD : 0 < D) (hV : 0 < V) (batch : Batch) : Prop where
  limits : batch.limits = ⟨.atMost D hD, .atMost V hV⟩
  closed : ∀ request ∈ batch.closed, Neat request.data
  data : Neat batch.data
  values : batch.values = (labels batch.data).length

theorem sound_empty (namespaceName : String) :
    Sound hD hV (empty namespaceName ⟨.atMost D hD, .atMost V hV⟩) :=
  ⟨rfl, fun _ h => absurd h List.not_mem_nil, neat_nil, rfl⟩

theorem Sound.reserve_eq {batch : Batch} (h : Sound hD hV batch) :
    batch.reserve = if D ≤ batch.cut.current.toFinset.card ∨ V ≤ batch.cut.current.length then
      batch.close else batch := by
  have hcard : batch.cut.current.toFinset.card = batch.data.length := h.data.card_labels
  have hlen : batch.cut.current.length = batch.values := h.values.symm
  rw [reserve, h.limits, hcard, hlen]
  simp [Limit.reached]

theorem Sound.cut_reserve {batch : Batch} (h : Sound hD hV batch) :
    batch.reserve.cut = batch.cut.reserve D V := by
  rw [h.reserve_eq, Cut.reserve]
  split_ifs
  · simp [cut, close, labels]
  · rfl

theorem Sound.reserve {batch : Batch} (h : Sound hD hV batch) : Sound hD hV batch.reserve := by
  rw [h.reserve_eq]
  split_ifs
  · refine ⟨h.limits, fun request hr => ?_, neat_nil, rfl⟩
    rcases List.mem_append.1 hr with hr | hr
    · exact h.closed request hr
    · rw [List.mem_singleton.1 hr]
      exact h.data
  · exact h

theorem allData_reserve (batch : Batch) : batch.reserve.allData = batch.allData := by
  unfold reserve
  split
  · simp [allData, close]
  · rfl

theorem allData_push (batch : Batch) (datum : Datum) (n : Nat) :
    (batch.push datum n).allData = batch.allData ++ [datum] := by
  simp [allData, push]

/-- Room is made for a series that is not in the request under way, or the request is closed. -/
theorem Sound.notMem_reserve {batch : Batch} {s : Series} (h : Sound hD hV batch)
    (hready : batch.cut.Ready V s) : s ∉ batch.reserve.data.map Datum.series := by
  rw [h.reserve_eq]
  split_ifs with hfull
  · exact List.not_mem_nil
  · rw [← h.data.mem_labels]
    exact hready.resolve_right fun hlen => hfull (Or.inr hlen)

/-- Placing a datum puts as many of its labels as it takes values. -/
theorem Sound.push {batch : Batch} {datum : Datum} (h : Sound hD hV batch) (hproper : datum.Proper)
    (hready : batch.cut.Ready V datum.series) (hroom : batch.reserve.values + datum.slots ≤ V) :
    Sound hD hV (batch.reserve.push datum datum.slots) ∧
      (batch.reserve.push datum datum.slots).cut =
        (List.replicate datum.slots datum.series).foldl (Cut.put D V) batch.cut := by
  have hreserve := h.reserve
  have hcut : (batch.reserve.push datum datum.slots).cut =
      ⟨batch.reserve.cut.closed,
        batch.reserve.cut.current ++ List.replicate datum.slots datum.series⟩ := by
    simp only [cut, Batch.push, labels_concat]
  refine ⟨⟨hreserve.limits, hreserve.closed, hreserve.data.concat hproper (h.notMem_reserve hready),
    ?_⟩, ?_⟩
  · show batch.reserve.values + datum.slots = (labels (batch.reserve.data ++ [datum])).length
    rw [labels_concat, List.length_append, List.length_replicate, hreserve.values]
  · rw [Cut.foldl_put_replicate hready hproper.slots_pos, hcut, h.cut_reserve]
    rw [← h.cut_reserve]
    show (labels batch.reserve.data).length + datum.slots ≤ V
    rwa [← hreserve.values]

/-! Entries of a histogram -/

variable {aggregator : Aggregator} {time : Instant} {histogram : Histogram}

theorem slots_entries {start stop : Nat} (h : stop ≤ histogram.size) :
    (aggregator.entries time histogram start stop).slots = stop - start := by
  show ((histogram.values.extract start stop).toList).length = stop - start
  have hvalues : stop ≤ histogram.values.size := h
  rw [Array.length_toList, Array.size_extract, Nat.min_eq_left hvalues]

theorem proper_entries {start stop : Nat} (hlt : start < stop) (h : stop ≤ histogram.size)
    (hcounts : histogram.counts.toList.length = histogram.values.toList.length) :
    (aggregator.entries time histogram start stop).Proper := by
  have hsize : histogram.counts.size = histogram.values.size := by
    rwa [Array.length_toList, Array.length_toList] at hcounts
  have hvalues : stop ≤ histogram.values.size := h
  refine ⟨List.length_pos_iff.1 ?_, ?_⟩
  · rw [Array.length_toList, Array.size_extract]
    omega
  · rw [Array.length_toList, Array.length_toList, Array.size_extract, Array.size_extract, hsize]

/-- A rule for the loop over the entries: what each cut preserves holds at the end. A cut takes all entries
that are left or all room for values that is left. -/
theorem placeEntries_induct {motive : Batch → Nat → Prop}
    (step : ∀ batch offset count, motive batch offset → 0 < count → offset + count ≤ histogram.size →
      batch.reserve.values + count ≤ V →
      (offset + count = histogram.size ∨ batch.reserve.values + count = V) →
      motive (batch.reserve.push (aggregator.entries time histogram offset (offset + count)) count)
        (offset + count))
    {batch : Batch} {offset : Nat} (hlimit : batch.limits.values = .atMost V hV)
    (hoffset : offset ≤ histogram.size) (h : motive batch offset) :
    motive (placeEntries aggregator time histogram batch offset) histogram.size := by
  induction hn : histogram.size - offset using Nat.strongRecOn generalizing batch offset with
  | ind n ih =>
    rw [placeEntries]
    split_ifs with hlt
    · split
      · next hnone =>
        rw [hlimit] at hnone
        cases hnone
      · next m pos hm =>
        obtain rfl : V = m := by
          rw [hlimit] at hm
          exact (Limit.atMost.inj hm)
        have hroom := values_reserve_lt hlimit
        refine ih _ ?_ ?_ ?_ (step batch offset _ h ?_ ?_ ?_ ?_) rfl
        · omega
        · show batch.reserve.limits.values = _
          rw [limits_reserve, hlimit]
        all_goals omega
    · obtain rfl : offset = histogram.size := by omega
      exact h

/-- Placing a histogram puts its labels. -/
theorem Sound.placeEntries {batch : Batch} (h : Sound hD hV batch)
    (hcounts : histogram.counts.toList.length = histogram.values.toList.length)
    (hready : batch.cut.Ready V (aggregator.series time)) :
    Sound hD hV (placeEntries aggregator time histogram batch 0) ∧
      (Batch.placeEntries aggregator time histogram batch 0).cut =
        (List.replicate histogram.size (aggregator.series time)).foldl (Cut.put D V) batch.cut := by
  let motive (b : Batch) (offset : Nat) : Prop :=
    Sound hD hV b ∧
      b.cut = (List.replicate offset (aggregator.series time)).foldl (Cut.put D V) batch.cut ∧
      (offset = histogram.size ∨ b.cut.Ready V (aggregator.series time))
  have hlimit : batch.limits.values = .atMost V hV := by rw [h.limits]
  have hend : motive (Batch.placeEntries aggregator time histogram batch 0) histogram.size := by
    refine placeEntries_induct ?_ hlimit (Nat.zero_le _) ⟨h, rfl, Or.inr hready⟩
    · rintro b offset count ⟨hsound, hcut, hnext⟩ hpos hle hroom hfull
      have hslots : (aggregator.entries time histogram offset (offset + count)).slots = count := by
        rw [slots_entries hle]
        omega
      have hne : offset ≠ histogram.size := by omega
      have hproper : (aggregator.entries time histogram offset (offset + count)).Proper :=
        proper_entries (by omega) hle hcounts
      obtain ⟨hsound', hcut'⟩ := hsound.push hproper (hnext.resolve_left hne) (by rwa [hslots])
      rw [hslots] at hsound' hcut'
      refine ⟨hsound', ?_, hfull.imp id fun heq => Or.inr ?_⟩
      · rw [hcut', hcut, List.replicate_add, List.foldl_append]
        rfl
      · show V ≤ (labels (b.reserve.data ++ [_])).length
        exact (heq.symm.trans hsound'.values).le
  exact ⟨hend.1, hend.2.1⟩

end Batch

/-- The values of a datum of entries, each with its count. -/
def Datum.pairs (datum : Datum) : List (Binary64 × Nat) :=
  match datum.measurement with
  | .statistics _ => []
  | .entries values counts => values.zip counts

/-- Data that show an aggregator: its summary, or all entries of its histogram in order. -/
structure Renders (placed : Instant × Aggregator) (data : List Datum) : Prop where
  about : ∀ datum ∈ data, datum.series = placed.2.series placed.1 ∧ datum.unit = placed.2.unit ∧
    datum.Proper
  summary : ∀ summary, placed.2.tally = .summary summary →
    data = [placed.2.datum placed.1 (.statistics summary)]
  detailed : ∀ histogram, placed.2.tally = .detailed histogram →
    (∀ datum ∈ data, ∃ values counts, datum.measurement = .entries values counts) ∧
      data.flatMap Datum.pairs = histogram.values.toList.zip histogram.counts.toList

namespace Batch

variable {D V : Nat} {hD : 0 < D} {hV : 0 < V} {aggregator : Aggregator} {time : Instant}
  {histogram : Histogram}

theorem take_zip_extract (start stop : Nat) (hle : start ≤ stop) :
    (histogram.values.toList.zip histogram.counts.toList).take start ++
        (aggregator.entries time histogram start stop).pairs =
      (histogram.values.toList.zip histogram.counts.toList).take stop := by
  show _ ++ ((histogram.values.extract start stop).toList.zip
    (histogram.counts.extract start stop).toList) = _
  rw [Array.toList_extract, Array.toList_extract, List.extract_eq_take_drop, List.extract_eq_take_drop]
  obtain ⟨n, rfl⟩ := Nat.exists_eq_add_of_le hle
  rw [Nat.add_sub_cancel_left, List.zip_eq_zipWith, List.zip_eq_zipWith, ← List.take_zipWith,
    ← List.drop_zipWith, ← List.take_add]

/-- The data that a histogram gives hold its entries in order. -/
theorem renders_placeEntries {batch : Batch} (time : Instant)
    (hlimit : batch.limits.values = .atMost V hV)
    (htally : aggregator.tally = .detailed histogram)
    (hcounts : histogram.counts.toList.length = histogram.values.toList.length) :
    ∃ data, (placeEntries aggregator time histogram batch 0).allData = batch.allData ++ data ∧
      Renders (time, aggregator) data := by
  let motive (b : Batch) (offset : Nat) : Prop :=
    ∃ data, b.allData = batch.allData ++ data ∧
      (∀ datum ∈ data, datum.series = aggregator.series time ∧ datum.unit = aggregator.unit ∧
        datum.Proper ∧ ∃ values counts, datum.measurement = .entries values counts) ∧
      data.flatMap Datum.pairs = (histogram.values.toList.zip histogram.counts.toList).take offset
  have hend : motive (placeEntries aggregator time histogram batch 0) histogram.size := by
    refine placeEntries_induct ?_ hlimit (Nat.zero_le _) ⟨[], ?_, ?_, ?_⟩
    · rintro b offset count ⟨data, hdata, habout, hpairs⟩ hpos hle - -
      refine ⟨data ++ [aggregator.entries time histogram offset (offset + count)], ?_, ?_, ?_⟩
      · rw [allData_push, allData_reserve, hdata, List.append_assoc]
      · intro datum hdatum
        rcases List.mem_append.1 hdatum with hdatum | hdatum
        · exact habout datum hdatum
        · rw [List.mem_singleton.1 hdatum]
          exact ⟨rfl, rfl, proper_entries (by omega) hle hcounts, _, _, rfl⟩
      · rw [List.flatMap_append, hpairs, List.flatMap_singleton, take_zip_extract _ _ (by omega)]
    · rw [List.append_nil]
    · intro datum hdatum
      exact absurd hdatum List.not_mem_nil
    · rw [List.flatMap_nil, List.take_zero]
  obtain ⟨data, hdata, habout, hpairs⟩ := hend
  refine ⟨data, hdata, ⟨fun datum h => ?_, fun summary h => ?_, fun other h => ?_⟩⟩
  · obtain ⟨hseries, hunit, hproper, -⟩ := habout datum h
    exact ⟨hseries, hunit, hproper⟩
  · rw [htally] at h
    cases h
  · obtain rfl : histogram = other := by
      rw [htally] at h
      exact Tally.detailed.inj h
    refine ⟨fun datum h => (habout datum h).2.2.2, ?_⟩
    rw [hpairs, List.take_of_length_le]
    rw [List.length_zip, hcounts, Nat.min_self, Array.length_toList]
    exact le_rfl

end Batch

/-! Whole stores -/

/-- The series of placed aggregators. -/
def seriesOf (placed : List (Instant × Aggregator)) : List Series := placed.map fun x => x.2.series x.1

/-- The slots of placed aggregators, one for a summary and one for each entry of a histogram, each with the
series of its aggregator. -/
def slotsOf (placed : List (Instant × Aggregator)) : List Series :=
  placed.flatMap fun x => List.replicate x.2.slots (x.2.series x.1)

theorem slotsOf_concat (placed : List (Instant × Aggregator)) (x : Instant × Aggregator) :
    slotsOf (placed ++ [x]) = slotsOf placed ++ List.replicate x.2.slots (x.2.series x.1) := by
  simp [slotsOf]

theorem mem_seriesOf_of_mem_slotsOf {placed : List (Instant × Aggregator)} {s : Series}
    (h : s ∈ slotsOf placed) : s ∈ seriesOf placed := by
  obtain ⟨x, hx, hs⟩ := List.mem_flatMap.1 h
  exact List.mem_map.2 ⟨x, hx, (List.mem_replicate.1 hs).2.symm⟩

namespace Batch

variable {D V : Nat} {hD : 0 < D} {hV : 0 < V}

/-- What a batch is after aggregators were placed. -/
structure Packed (hD : 0 < D) (hV : 0 < V) (placed : List (Instant × Aggregator)) (batch : Batch) :
    Prop where
  sound : Sound hD hV batch
  cut : batch.cut = Cut.greedy D V (slotsOf placed)
  renders : ∃ pieces, batch.allData = pieces.flatten ∧ List.Forall₂ Renders placed pieces

theorem packed_empty (hD : 0 < D) (hV : 0 < V) (namespaceName : String) :
    Packed hD hV [] (empty namespaceName ⟨.atMost D hD, .atMost V hV⟩) :=
  ⟨sound_empty namespaceName, rfl, [], rfl, .nil⟩

theorem Packed.ready {placed : List (Instant × Aggregator)} {batch : Batch} {s : Series}
    (h : Packed hD hV placed batch) (hnew : s ∉ seriesOf placed) : batch.cut.Ready V s := by
  refine Or.inl fun hs => hnew (mem_seriesOf_of_mem_slotsOf ?_)
  rw [← (Cut.kept_greedy hD hV (slotsOf placed)).flatten, ← h.cut]
  exact List.mem_append_right _ hs

theorem Packed.concat {placed : List (Instant × Aggregator)} {batch batch' : Batch}
    {x : Instant × Aggregator} (h : Packed hD hV placed batch) (data : List Datum)
    (hsound : Sound hD hV batch')
    (hcut : batch'.cut = (List.replicate x.2.slots (x.2.series x.1)).foldl (Cut.put D V) batch.cut)
    (hdata : batch'.allData = batch.allData ++ data) (hrenders : Renders x data) :
    Packed hD hV (placed ++ [x]) batch' := by
  obtain ⟨pieces, hpieces, hall⟩ := h.renders
  refine ⟨hsound, ?_, pieces ++ [data], ?_, ?_⟩
  · rw [hcut, h.cut, slotsOf_concat, Cut.greedy, Cut.greedy, List.foldl_append]
  · rw [hdata, hpieces, List.flatten_append, List.flatten_singleton]
  · exact List.rel_append hall (.cons hrenders .nil)

theorem Packed.place {placed : List (Instant × Aggregator)} {batch : Batch} {time : Instant}
    {aggregator : Aggregator} (h : Packed hD hV placed batch) (hfilled : aggregator.Filled)
    (hnew : aggregator.series time ∉ seriesOf placed) :
    ∃ batch', Batch.place time batch aggregator = .ok batch' ∧
      Packed hD hV (placed ++ [(time, aggregator)]) batch' := by
  have hready := h.ready hnew
  unfold Aggregator.Filled at hfilled
  unfold Batch.place
  cases htally : aggregator.tally with
  | summary summary =>
    rw [htally] at hfilled
    have hslots : aggregator.slots = 1 := by rw [Aggregator.slots, htally]
    let datum := aggregator.datum time (.statistics summary)
    have hroom : batch.reserve.values + datum.slots ≤ V :=
      values_reserve_lt (by rw [h.sound.limits])
    obtain ⟨hsound, hcut⟩ := h.sound.push (show datum.Proper from trivial) hready hroom
    refine ⟨batch.reserve.push datum 1, ?_, h.concat [datum] hsound ?_ ?_ ?_⟩
    · show (aggregator.statistics time summary).map _ = _
      rw [Aggregator.statistics, if_neg (Nat.pos_iff_ne_zero.1 hfilled)]
      rfl
    · rw [hslots]
      exact hcut
    · rw [allData_push, allData_reserve]
    · refine ⟨fun d hd => ?_, fun other heq => ?_, fun other heq => ?_⟩
      · rw [List.mem_singleton.1 hd]
        exact ⟨rfl, rfl, trivial⟩
      · rw [htally] at heq
        rw [← Tally.summary.inj heq]
      · rw [htally] at heq
        cases heq
  | detailed histogram =>
    rw [htally] at hfilled
    have hslots : aggregator.slots = histogram.size := by rw [Aggregator.slots, htally]
    obtain ⟨hsound, hcut⟩ := h.sound.placeEntries hfilled.2 hready
    have hlimit : batch.limits.values = .atMost V hV := by rw [h.sound.limits]
    obtain ⟨data, hdata, hrenders⟩ := renders_placeEntries time hlimit htally hfilled.2
    refine ⟨_, rfl, h.concat data hsound ?_ hdata hrenders⟩
    rw [hslots]
    exact hcut

theorem Packed.foldlM {placed : List (Instant × Aggregator)} {batch : Batch}
    (h : Packed hD hV placed batch) (rest : List (Instant × Aggregator))
    (hfilled : ∀ x ∈ rest, x.2.Filled) (hnodup : (seriesOf (placed ++ rest)).Nodup) :
    ∃ batch', rest.foldlM (fun batch x => Batch.place x.1 batch x.2) batch = .ok batch' ∧
      Packed hD hV (placed ++ rest) batch' := by
  induction rest generalizing placed batch with
  | nil =>
    refine ⟨batch, rfl, ?_⟩
    rwa [List.append_nil]
  | cons x rest ih =>
    have hnew : x.2.series x.1 ∉ seriesOf placed := by
      rw [seriesOf, List.map_append, List.nodup_append] at hnodup
      intro hx
      exact hnodup.2.2 _ hx _ List.mem_cons_self rfl
    obtain ⟨batch', hplace, hpacked⟩ := h.place (hfilled x List.mem_cons_self) hnew
    rw [List.append_cons] at hnodup
    obtain ⟨batch'', hfold, hpacked'⟩ :=
      ih hpacked (fun y hy => hfilled y (List.mem_cons_of_mem x hy)) hnodup
    refine ⟨batch'', ?_, ?_⟩
    · rw [List.foldlM_cons, hplace]
      exact hfold
    · rwa [List.append_cons]

theorem foldlM_placeBucket (buckets : List TimeBucket) (batch : Batch) :
    buckets.foldlM placeBucket batch =
      (buckets.flatMap fun bucket => bucket.aggregators.map (bucket.time, ·)).foldlM
        (fun batch x => Batch.place x.1 batch x.2) batch := by
  induction buckets generalizing batch with
  | nil => rfl
  | cons bucket rest ih =>
    rw [List.foldlM_cons, List.flatMap_cons, List.foldlM_append, List.foldlM_map]
    exact congrArg (placeBucket batch bucket >>= ·) (funext ih)

/-- Whatever the limits, placing fails only for an aggregator that has received nothing. -/
theorem exists_requests (namespaceName : String) (limits : RequestLimits) (store : Store)
    (hfilled : ∀ x ∈ store.placed, x.2.Filled) :
    ∃ requests, Batch.requests namespaceName limits store.timeBuckets = .ok requests := by
  have hplace : ∀ (placed : List (Instant × Aggregator)) (batch : Batch),
      (∀ x ∈ placed, x.2.Filled) →
        ∃ batch', placed.foldlM (fun batch x => Batch.place x.1 batch x.2) batch = .ok batch' := by
    intro placed
    induction placed with
    | nil => exact fun batch _ => ⟨batch, rfl⟩
    | cons x rest ih =>
      intro batch hall
      have hx := hall x List.mem_cons_self
      obtain ⟨batch', hbatch'⟩ : ∃ batch', Batch.place x.1 batch x.2 = .ok batch' := by
        unfold Aggregator.Filled at hx
        unfold Batch.place Aggregator.statistics
        cases htally : x.2.tally with
        | summary summary =>
          rw [htally] at hx
          simp only [if_neg (Nat.pos_iff_ne_zero.1 hx)]
          exact ⟨_, rfl⟩
        | detailed histogram => exact ⟨_, rfl⟩
      rw [List.foldlM_cons, hbatch']
      exact ih batch' fun y hy => hall y (List.mem_cons_of_mem x hy)
  obtain ⟨batch, hbatch⟩ := hplace store.placed (empty namespaceName limits) hfilled
  refine ⟨batch.finish, ?_⟩
  rw [Batch.requests, foldlM_placeBucket]
  exact congrArg (Except.map finish) hbatch

theorem groups_finish {batch : Batch} (h : Sound hD hV batch) :
    (finish batch).map (fun request => labels request.data) = batch.cut.groups := by
  have hcurrent : batch.cut.current = [] ↔ batch.data = [] := h.data.labels_eq_nil
  rw [finish, Cut.groups]
  by_cases hnil : batch.data = []
  · rw [if_pos hnil, if_pos (hcurrent.2 hnil)]
    rfl
  · rw [if_neg hnil, if_neg fun hc => hnil (hcurrent.1 hc)]
    simp [cut, close]

theorem data_finish (batch : Batch) : (finish batch).flatMap Request.data = batch.allData := by
  unfold finish
  split_ifs with hnil
  · rw [allData, hnil, List.append_nil]
  · simp [allData, close]

theorem neat_finish {batch : Batch} (h : Sound hD hV batch) :
    ∀ request ∈ finish batch, Neat request.data := by
  unfold finish
  split_ifs
  · exact h.closed
  · intro request hr
    rcases List.mem_append.1 hr with hr | hr
    · exact h.closed request hr
    · rw [List.mem_singleton.1 hr]
      exact h.data

end Batch

/-- How requests hold placed aggregators: they are the groups of the greedy cut of the slots, and their data
show one aggregator after the other. -/
structure Packing (D V : Nat) (placed : List (Instant × Aggregator)) (requests : List Request) : Prop where
  groups : requests.map (fun request => labels request.data) = (Cut.greedy D V (slotsOf placed)).groups
  neat : ∀ request ∈ requests, Neat request.data
  renders : ∃ pieces, requests.flatMap Request.data = pieces.flatten ∧
    List.Forall₂ Renders placed pieces

/-- A store of filled aggregators of different series is packed without failure. -/
theorem requests_packing {D V : Nat} (hD : 0 < D) (hV : 0 < V) (namespaceName : String) (store : Store)
    (hfilled : ∀ x ∈ store.placed, x.2.Filled) (hnodup : (seriesOf store.placed).Nodup) :
    ∃ requests,
      Batch.requests namespaceName ⟨.atMost D hD, .atMost V hV⟩ store.timeBuckets = .ok requests ∧
        Packing D V store.placed requests := by
  obtain ⟨batch, hfold, hpacked⟩ :=
    (Batch.packed_empty hD hV namespaceName).foldlM store.placed hfilled hnodup
  refine ⟨batch.finish, ?_, ⟨?_, Batch.neat_finish hpacked.sound, ?_⟩⟩
  · rw [Batch.requests, Batch.foldlM_placeBucket]
    exact congrArg (Except.map Batch.finish) hfold
  · rw [Batch.groups_finish hpacked.sound, hpacked.cut, List.nil_append]
  · rw [Batch.data_finish]
    exact hpacked.renders

end MetricPipeline
