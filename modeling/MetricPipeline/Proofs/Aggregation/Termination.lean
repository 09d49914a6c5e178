import MetricPipeline.Proofs.Aggregation.Tiling
import MetricPipeline.Proofs.Batch.Packer

/-! A drain ends whatever doubles its limits were derived from. The loop over a histogram is made as often as
it has entries at most, since each pass but the last takes one or more of them. -/

namespace MetricPipeline.Aggregation

/-- For all limits and after any operations a drain returns requests and resets the store. It places the
aggregators one after the other, each with one datum or more, and a histogram in passes: the first starts at
its first entry, each further one behind the one before it and still before the end. Counting in doubles ends
with the same requests after the same passes and no others, as long as doubles can count the entries. -/
theorem drain_ends (namespaceName : String) (options : StoreOptions) (data values : Option Binary64)
    (operations : List Operation) :
    ∃ requests passes,
      ((create namespaceName options data values).after operations).drain =
        (.ok requests, create namespaceName options data values) ∧
      requests.flatMap Request.data = passes.flatMap Prod.snd ∧
      List.Forall₂ (fun placed pass =>
          Traversed (RequestLimits.create data values).values placed pass.1 pass.2)
        ((create namespaceName options data values).after operations).store.placed passes ∧
      ((∀ placed ∈ ((create namespaceName options data values).after operations).store.placed,
          placed.2.slots < 2 ^ 53) →
        ∃ last, (Packer.create namespaceName data values).PlacesAll
            ((create namespaceName options data values).after operations).store.placed
            (passes.map fun pass => pass.1.map Binary64.ofNat) last ∧
          last.finish = requests ∧
          ∀ offsets other, (Packer.create namespaceName data values).PlacesAll
              ((create namespaceName options data values).after operations).store.placed offsets other →
            offsets = (passes.map fun pass => pass.1.map Binary64.ofNat) ∧ other = last) := by
  rw [after_create]
  have hfilled : ∀ x ∈ (Store.holding options (sinceDrain operations)).placed, x.2.Filled :=
    fun x hx => Store.filled_of_mem_placed hx
  obtain ⟨final, passes, hfold, hdata, htraversed, hdoubles⟩ :=
    Packer.exists_placesAll hfilled (.empty namespaceName (.create data values))
  have hrequests : Batch.requests namespaceName (.create data values)
      (Store.holding options (sinceDrain operations)).timeBuckets = .ok final.finish := by
    rw [Batch.requests, Batch.foldlM_placeBucket]
    exact congrArg (Except.map Batch.finish) hfold
  refine ⟨final.finish, passes, drain_holding_of_requests hrequests, ?_, htraversed, fun hslots => ?_⟩
  · rw [Batch.data_finish, hdata]
    rfl
  · obtain ⟨last, hlast, hmirrors⟩ := hdoubles hslots _ (Packer.mirrors_create namespaceName data values)
    refine ⟨last, hlast, hmirrors.finish, fun offsets other hother => ?_⟩
    obtain ⟨rfl, rfl⟩ := hlast.unique hother
    exact ⟨rfl, rfl⟩

/-- Where the limits are no numbers there is one pass, which takes nothing. -/
theorem drain_ends_nan :
    ∃ requests last,
      ((create "App" ⟨[], [.core], none, [Registry.coreMetric "RetryCount" .number .error]⟩ (some .nan)
        (some .nan)).after [.add (retriesOf [3, 8, 3, 5])]).drain.1 = .ok requests ∧
      (requests.flatMap Request.data).map Datum.measurement = [.entries [] []] ∧
      (Packer.create "App" (some .nan) (some .nan)).PlacesAll [retriesPlaced] [[.ofNat 0]] last ∧
      last.finish = requests := by
  obtain ⟨requests, passes, hdrain, hdata, htraversed, hdoubles⟩ := drain_ends "App"
    ⟨[], [.core], none, [Registry.coreMetric "RetryCount" .number .error]⟩ (some .nan) (some .nan)
    [.add (retriesOf [3, 8, 3, 5])]
  have hplaced : ((create "App" ⟨[], [.core], none, [Registry.coreMetric "RetryCount" .number .error]⟩
      (some .nan) (some .nan)).after [.add (retriesOf [3, 8, 3, 5])]).store.placed = [retriesPlaced] :=
    placed_retriesOf
  have htally : retriesPlaced.2.tally = .detailed (.ofList [.ofInt 3, .ofInt 8, .ofInt 3, .ofInt 5]) :=
    Aggregator.tally_collect
  rw [hplaced] at htraversed hdoubles
  obtain ⟨⟨starts, data⟩, rest, htraversal, hrest, rfl⟩ := List.forall₂_cons_left_iff.1 htraversed
  obtain rfl := List.forall₂_nil_left_iff.1 hrest
  obtain ⟨-, -, -, -, honly, hentries⟩ := htraversal.detailed _ htally
  have hlimit : (RequestLimits.create (some .nan) (some .nan)).values = .unbounded := by decide +kernel
  obtain rfl := honly hlimit
  obtain ⟨last, hlast, hfinish, -⟩ := hdoubles fun placed hmem => by
    rw [List.mem_singleton.1 hmem, retriesPlaced, Aggregator.slots_collect]
    decide +kernel
  refine ⟨requests, last, congrArg Prod.fst hdrain, ?_, hlast, hfinish⟩
  rw [hdata, List.flatMap_singleton, hentries, hlimit]
  simp [Limit.stop, Aggregator.entries, Aggregator.datum]

end MetricPipeline.Aggregation
