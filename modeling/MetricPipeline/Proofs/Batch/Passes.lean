import MetricPipeline.Proofs.Batch.Packing

/-! The passes that place a histogram. A pass starts where the one before it stopped and takes at least one
entry, so there are no more passes than entries; where values have no limit there is no number of them to take,
and the first pass is the last. -/

namespace MetricPipeline

/-- Where the last datum of a histogram stops. -/
def Limit.stop (limit : Limit) (size : Nat) : Nat :=
  match limit with
  | .atMost _ _ => size
  | .unbounded => 0

/-- There is nothing before the first entry. -/
theorem Aggregator.entries_zero {aggregator : Aggregator} {time : Instant} {histogram : Histogram}
    (start : Nat) : aggregator.entries time histogram start 0 = aggregator.entries time histogram 0 0 := by
  simp [entries]

namespace Batch

/-- Passes over a histogram from an offset on, by where each starts, lead from one batch to another. -/
inductive Passes (aggregator : Aggregator) (time : Instant) (histogram : Histogram) :
    Batch → Nat → List Nat → Batch → Prop
  | ended {batch : Batch} {offset : Nat} (h : histogram.size ≤ offset) :
    Passes aggregator time histogram batch offset [] batch
  | only {batch : Batch} {offset : Nat} (hlt : offset < histogram.size)
    (hlimit : batch.limits.values = .unbounded) :
    Passes aggregator time histogram batch offset [offset]
      (batch.reserve.push (aggregator.entries time histogram 0 0) 0)
  | next {batch final : Batch} {offset count n : Nat} {pos : 0 < n} {starts : List Nat}
    (hlt : offset < histogram.size) (hlimit : batch.limits.values = .atMost n pos)
    (hcount : count = min (n - batch.reserve.values) (histogram.size - offset))
    (rest : Passes aggregator time histogram
      (batch.reserve.push (aggregator.entries time histogram offset (offset + count)) count)
      (offset + count) starts final) :
    Passes aggregator time histogram batch offset (offset :: starts) final

variable {aggregator : Aggregator} {time : Instant} {histogram : Histogram} {batch final : Batch}
  {offset : Nat} {starts : List Nat}

theorem exists_passes (aggregator : Aggregator) (time : Instant) (histogram : Histogram) (batch : Batch)
    (offset : Nat) : ∃ starts, Passes aggregator time histogram batch offset starts
      (placeEntries aggregator time histogram batch offset) := by
  induction hn : histogram.size - offset using Nat.strongRecOn generalizing batch offset with
  | ind n ih =>
    rw [placeEntries]
    split_ifs with hlt
    · split
      · next hlimit => exact ⟨[offset], .only hlt hlimit⟩
      · next m pos hlimit =>
        have hroom := values_reserve_lt hlimit
        obtain ⟨starts, hstarts⟩ := ih _ (by omega)
          (batch.reserve.push (aggregator.entries time histogram offset
            (offset + min (m - batch.reserve.values) (histogram.size - offset)))
            (min (m - batch.reserve.values) (histogram.size - offset)))
          (offset + min (m - batch.reserve.values) (histogram.size - offset)) rfl
        exact ⟨offset :: starts, .next hlt hlimit rfl hstarts⟩
    · exact ⟨[], .ended (by omega)⟩

namespace Passes

theorem starts_eq_cons (h : Passes aggregator time histogram batch offset starts final)
    (hlt : offset < histogram.size) : ∃ rest, starts = offset :: rest := by
  cases h with
  | ended hge => omega
  | only => exact ⟨[], rfl⟩
  | next => exact ⟨_, rfl⟩

/-- Every pass but the last gets further, and none gets beyond the end. -/
theorem ascending (h : Passes aggregator time histogram batch offset starts final) :
    starts.Pairwise (· < ·) ∧ (∀ start ∈ starts, offset ≤ start ∧ start < histogram.size) ∧
      starts.length ≤ histogram.size - offset := by
  induction h with
  | ended => exact ⟨.nil, fun _ h => absurd h List.not_mem_nil, Nat.zero_le _⟩
  | only hlt =>
    refine ⟨List.pairwise_singleton _ _, fun start hstart => ?_, ?_⟩
    · rw [List.mem_singleton.1 hstart]
      exact ⟨le_rfl, hlt⟩
    · rw [List.length_singleton]
      omega
  | next hlt hlimit hcount _ ih =>
    have hroom := values_reserve_lt hlimit
    obtain ⟨hpairwise, hrange, hlength⟩ := ih
    refine ⟨List.pairwise_cons.2 ⟨fun start hstart => ?_, hpairwise⟩, fun start hstart => ?_, ?_⟩
    · have := hrange start hstart
      omega
    · rcases List.mem_cons.1 hstart with rfl | hstart
      · exact ⟨le_rfl, hlt⟩
      · have := hrange start hstart
        omega
    · rw [List.length_cons]
      omega

theorem starts_of_unbounded (h : Passes aggregator time histogram batch offset starts final)
    (hlt : offset < histogram.size) (hlimit : batch.limits.values = .unbounded) : starts = [offset] := by
  cases h with
  | ended hge => omega
  | only => rfl
  | next _ hlimit' =>
    rw [hlimit] at hlimit'
    cases hlimit'

theorem limits (h : Passes aggregator time histogram batch offset starts final) :
    final.limits = batch.limits := by
  induction h with
  | ended => rfl
  | only => exact limits_reserve _
  | next _ _ _ _ ih => exact ih.trans (limits_reserve _)

/-- Each pass gives one datum, which stops where the next pass starts. -/
theorem allData (h : Passes aggregator time histogram batch offset starts final) :
    final.allData = batch.allData ++ List.zipWith (aggregator.entries time histogram) starts
      (starts.tail ++ [batch.limits.values.stop histogram.size]) := by
  induction h with
  | ended => rw [List.zipWith_nil_left, List.append_nil]
  | @only batch offset _ hlimit =>
    rw [allData_push, allData_reserve, hlimit, ← Aggregator.entries_zero offset]
    rfl
  | @next batch final offset count n pos starts hlt hlimit hcount rest ih =>
    have hroom := values_reserve_lt hlimit
    rw [ih, allData_push, allData_reserve, List.append_assoc, List.tail_cons]
    show _ ++ (_ :: List.zipWith _ _ (_ ++ [batch.reserve.limits.values.stop _])) = _
    rw [limits_reserve, hlimit]
    congr 1
    cases rest with
    | ended hge =>
      obtain heq : offset + count = histogram.size := by omega
      rw [heq]
      rfl
    | only => rfl
    | next => rfl

end Passes

end Batch

/-- How placing an aggregator goes: where the passes over its histogram start, and the data it gives. -/
structure Traversed (limit : Limit) (placed : Instant × Aggregator) (starts : List Nat) (data : List Datum) :
    Prop where
  nonempty : data ≠ []
  about : ∀ datum ∈ data, datum.series = placed.2.series placed.1
  summary : ∀ summary, placed.2.tally = .summary summary →
    starts = [] ∧ data = [placed.2.datum placed.1 (.statistics summary)]
  detailed : ∀ histogram, placed.2.tally = .detailed histogram →
    starts.head? = some 0 ∧ starts.Pairwise (· < ·) ∧ (∀ start ∈ starts, start < histogram.size) ∧
      starts.length ≤ histogram.size ∧ (limit = .unbounded → starts = [0]) ∧
      data = List.zipWith (placed.2.entries placed.1 histogram) starts
        (starts.tail ++ [limit.stop histogram.size])

namespace Batch

variable {aggregator : Aggregator} {time : Instant} {histogram : Histogram} {batch final : Batch}
  {starts : List Nat}

theorem Passes.traversed (h : Passes aggregator time histogram batch 0 starts final)
    (htally : aggregator.tally = .detailed histogram) (hpos : 0 < histogram.size) :
    ∃ data, final.allData = batch.allData ++ data ∧
      Traversed batch.limits.values (time, aggregator) starts data := by
  obtain ⟨rest, rfl⟩ := h.starts_eq_cons hpos
  obtain ⟨hpairwise, hrange, hlength⟩ := h.ascending
  refine ⟨_, h.allData, ?_, fun datum hdatum => ?_, fun summary heq => ?_, fun other heq => ?_⟩
  · cases rest <;> exact List.cons_ne_nil _ _
  · obtain ⟨i, hi, rfl⟩ := List.mem_iff_getElem.1 hdatum
    rw [List.getElem_zipWith]
    rfl
  · rw [htally] at heq
    cases heq
  · rw [htally] at heq
    obtain rfl := Tally.detailed.inj heq
    exact ⟨rfl, hpairwise, fun start hstart => (hrange start hstart).2, hlength,
      h.starts_of_unbounded hpos, rfl⟩

theorem traversed_summary {summary : Summary} (limit : Limit) (htally : aggregator.tally = .summary summary) :
    Traversed limit (time, aggregator) [] [aggregator.datum time (.statistics summary)] := by
  refine ⟨List.cons_ne_nil _ _, fun datum hdatum => ?_, fun other heq => ?_, fun histogram heq => ?_⟩
  · rw [List.mem_singleton.1 hdatum]
    rfl
  · rw [htally] at heq
    obtain rfl := Tally.summary.inj heq
    exact ⟨rfl, rfl⟩
  · rw [htally] at heq
    cases heq

end Batch
end MetricPipeline
