import MetricPipeline.Proofs.Batch.Packing
import MetricPipeline.Proofs.Limit

/-! What an aggregation is after any sequence of operations. A drain of filled aggregators does not fail and
empties the store, so the store holds exactly the collections since the last drain. -/

namespace MetricPipeline

inductive Operation where
  | add (collection : Collection)
  | drain

/-- The collections added since the last drain, in order. -/
def sinceDrain (operations : List Operation) : List Collection :=
  operations.foldl (fun collections operation =>
    match operation with
    | .add collection => collections ++ [collection]
    | .drain => []) []

theorem sinceDrain_concat_add (operations : List Operation) (collection : Collection) :
    sinceDrain (operations ++ [.add collection]) = sinceDrain operations ++ [collection] := by
  simp [sinceDrain]

theorem sinceDrain_concat_drain (operations : List Operation) :
    sinceDrain (operations ++ [.drain]) = [] := by
  simp [sinceDrain]

theorem sinceDrain_map_add (collections : List Collection) :
    sinceDrain (collections.map .add) = collections := by
  induction collections using List.reverseRecOn with
  | nil => rfl
  | append_singleton collections collection ih =>
    rw [List.map_append, List.map_singleton, sinceDrain_concat_add, ih]

theorem mem_of_mem_sinceDrain {operations : List Operation} {collection : Collection}
    (h : collection ∈ sinceDrain operations) : Operation.add collection ∈ operations := by
  induction operations using List.reverseRecOn with
  | nil => cases h
  | append_singleton operations operation ih =>
    cases operation with
    | add other =>
      rw [sinceDrain_concat_add] at h
      rcases List.mem_append.1 h with h | h
      · exact List.mem_append_left _ (ih h)
      · rw [List.mem_singleton.1 h]
        exact List.mem_append_right _ List.mem_cons_self
    | drain =>
      rw [sinceDrain_concat_drain] at h
      cases h

namespace RequestLimits

/-- The limits that are derived from any options, NaN excepted. -/
theorem exists_create_eq {data values : Option Binary64} (hdata : data ≠ some .nan)
    (hvalues : values ≠ some .nan) :
    ∃ D V, ∃ hD : 0 < D, ∃ hV : 0 < V, D ≤ serviceData ∧ V ≤ serviceValues ∧
      (Limit.clamp serviceData data).toInt? = some (D : Int) ∧
      (Limit.clamp serviceValues values).toInt? = some (V : Int) ∧
      create data values = ⟨.atMost D hD, .atMost V hV⟩ := by
  obtain ⟨D, hD, hDle, hDint, hDeq⟩ :=
    Limit.ofBinary64_clamp serviceData (by decide) (by decide) hdata
  obtain ⟨V, hV, hVle, hVint, hVeq⟩ :=
    Limit.ofBinary64_clamp serviceValues (by decide) (by decide) hvalues
  exact ⟨D, V, hD, hV, hDle, hVle, hDint, hVint, by rw [create, hDeq, hVeq]⟩

end RequestLimits

namespace Aggregation

def perform (aggregation : Aggregation) : Operation → Aggregation
  | .add collection => aggregation.add collection
  | .drain => aggregation.drain.2

/-- The aggregation after operations in order. -/
def after (aggregation : Aggregation) (operations : List Operation) : Aggregation :=
  operations.foldl perform aggregation

theorem after_concat (aggregation : Aggregation) (operations : List Operation) (operation : Operation) :
    aggregation.after (operations ++ [operation]) = (aggregation.after operations).perform operation := by
  rw [after, List.foldl_append]
  rfl

/-- The aggregation that has been given collections and was not drained since. -/
def holding (namespaceName : String) (options : StoreOptions) (limits : RequestLimits)
    (collections : List Collection) : Aggregation :=
  ⟨namespaceName, limits, .holding options collections⟩

variable {namespaceName : String} {options : StoreOptions} {D V : Nat}

theorem add_holding (limits : RequestLimits) (collections : List Collection) (collection : Collection) :
    (holding namespaceName options limits collections).add collection =
      holding namespaceName options limits (collections ++ [collection]) := by
  simp [holding, add, Store.holding]

theorem reset_holding (collections : List Collection) :
    (Store.holding options collections).reset = Store.holding options [] := by
  rw [Store.holding_eq]
  rfl

theorem drain_holding_of_requests {limits : RequestLimits} {collections : List Collection}
    {requests : List Request}
    (h : Batch.requests namespaceName limits (Store.holding options collections).timeBuckets =
      .ok requests) :
    (holding namespaceName options limits collections).drain =
      (.ok requests, holding namespaceName options limits []) := by
  rw [drain, holding, h, reset_holding]
  rfl

/-- Whatever the limits, a drain succeeds and leaves nothing. -/
theorem exists_drain_holding (namespaceName : String) (options : StoreOptions) (limits : RequestLimits)
    (collections : List Collection) :
    ∃ requests, (holding namespaceName options limits collections).drain =
      (.ok requests, holding namespaceName options limits []) := by
  obtain ⟨requests, hrequests⟩ := Batch.exists_requests namespaceName limits
    (Store.holding options collections) fun x hx => Store.filled_of_mem_placed hx
  exact ⟨requests, drain_holding_of_requests hrequests⟩

/-- A drain gives packed requests for all that is held and leaves nothing. -/
theorem drain_holding (namespaceName : String) (options : StoreOptions) (hD : 0 < D) (hV : 0 < V)
    (collections : List Collection) :
    ∃ requests,
      (holding namespaceName options ⟨.atMost D hD, .atMost V hV⟩ collections).drain =
        (.ok requests, holding namespaceName options ⟨.atMost D hD, .atMost V hV⟩ []) ∧
      Packing D V (Store.holding options collections).placed requests := by
  obtain ⟨requests, hrequests, hpacking⟩ :=
    requests_packing hD hV namespaceName (Store.holding options collections)
      (fun x hx => Store.filled_of_mem_placed hx) (Store.nodup_series options collections)
  exact ⟨requests, drain_holding_of_requests hrequests, hpacking⟩

/-- After any operations the aggregation holds the collections since the last drain. -/
theorem after_holding (namespaceName : String) (options : StoreOptions) (limits : RequestLimits)
    (operations : List Operation) :
    (holding namespaceName options limits []).after operations =
      holding namespaceName options limits (sinceDrain operations) := by
  induction operations using List.reverseRecOn with
  | nil => rfl
  | append_singleton operations operation ih =>
    rw [after_concat, ih]
    cases operation with
    | add collection =>
      rw [sinceDrain_concat_add]
      exact add_holding _ _ _
    | drain =>
      obtain ⟨requests, hdrain⟩ := exists_drain_holding namespaceName options limits
        (sinceDrain operations)
      rw [sinceDrain_concat_drain]
      exact congrArg Prod.snd hdrain

theorem after_create (namespaceName : String) (options : StoreOptions) (data values : Option Binary64)
    (operations : List Operation) :
    (create namespaceName options data values).after operations =
      holding namespaceName options (.create data values) (sinceDrain operations) :=
  after_holding namespaceName options (.create data values) operations

end Aggregation
end MetricPipeline
