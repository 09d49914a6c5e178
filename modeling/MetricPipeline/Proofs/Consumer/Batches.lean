import MetricPipeline.Proofs.Consumer.Footprint

/-! The uploads of a drain are numbered in their order and end at most once, and the batch of its flush notes
the ends that have arrived. -/

namespace MetricPipeline

def Outcome.failed : Outcome → Bool
  | .fulfilled => false
  | .rejected _ => true

/-- The flush that an action ends, and how. -/
def Action.answer? : Action → Option (Flush × Except Failure FlushResult)
  | .resolve flush result => some (flush, .ok result)
  | .reject flush error => some (flush, .error error)
  | _ => none

/-- Actions that tell nothing of uploads. -/
def Action.Quiet : Action → Prop
  | .arrived _ _ _ | .report _ | .resolve _ _ | .reject _ _ => False
  | _ => True

/-- Effects that tell nothing of uploads. -/
def Effect.Quiet : Effect → Prop
  | .upload _ _ _ | .flushed _ _ => False
  | _ => True

/-- Actions that events other than jobs put behind the jobs. -/
def Action.Begins : Action → Prop
  | .startNext | .arrived _ _ _ | .race _ | .uploaderClosed _ | .recheck _ | .calls _ => True
  | _ => False

theorem Action.not_quiet_of_answer? {action : Action} {answer : Flush × Except Failure FlushResult}
    (h : action.answer? = some answer) : ¬action.Quiet := by
  cases action with
  | resolve | reject => exact id
  | _ => cases h

theorem Effect.OfCall.quiet {effect : Effect} (h : effect.OfCall) : effect.Quiet := by
  cases effect with
  | upload | flushed => exact h
  | _ => trivial

namespace Consumer

open Trace

theorem failures_map_some (outcomes : List Outcome) :
    (failures (outcomes.map some)).length = outcomes.countP Outcome.failed := by
  induction outcomes with
  | nil => rfl
  | cons outcome rest ih =>
    rw [List.countP_cons, ← ih]
    cases outcome with
    | fulfilled => rfl
    | rejected error => rfl

/-- A batch that is complete has the outcomes of all of its uploads. -/
theorem exists_of_complete {batch : UploadBatch} (h : batch.complete = true) :
    ∃ outcomes : List Outcome, batch.outcomes = outcomes.map some ∧
      resultOf batch.outcomes = ⟨outcomes.length, outcomes.length - outcomes.countP Outcome.failed,
        outcomes.countP Outcome.failed⟩ := by
  have houtcomes : batch.outcomes = (batch.outcomes.filterMap id).map some := by
    rw [List.map_filterMap_some_eq_filter_map_isSome, List.map_id, List.filter_eq_self.2]
    exact List.all_eq_true.1 h
  refine ⟨batch.outcomes.filterMap id, houtcomes, ?_⟩
  rw [houtcomes, resultOf, failures_map_some, List.length_map, ← houtcomes]

@[simp] theorem arrive_flush (flush : Flush) (index : Nat) (outcome : Outcome) (batch : UploadBatch) :
    (batch.arrive flush index outcome).flush = batch.flush := by
  rw [UploadBatch.arrive]
  split_ifs <;> rfl

theorem map_flush_arrive (flush : Flush) (index : Nat) (outcome : Outcome) (batches : List UploadBatch) :
    (batches.map (UploadBatch.arrive flush index outcome)).map UploadBatch.flush =
      batches.map UploadBatch.flush := by
  rw [List.map_map]
  exact List.map_congr_left fun batch _ => arrive_flush flush index outcome batch

@[simp] theorem arrive_first (flush : Flush) (index : Nat) (outcome : Outcome) (batch : UploadBatch) :
    (batch.arrive flush index outcome).first = batch.first := by
  rw [UploadBatch.arrive]
  split_ifs <;> rfl

@[simp] theorem arrive_length (flush : Flush) (index : Nat) (outcome : Outcome) (batch : UploadBatch) :
    (batch.arrive flush index outcome).outcomes.length = batch.outcomes.length := by
  rw [UploadBatch.arrive]
  split_ifs
  · exact List.length_set ..
  · rfl

/-- A batch that is complete stays so. -/
theorem complete_arrive {batch : UploadBatch} (h : batch.complete = true) (flush : Flush) (index : Nat)
    (outcome : Outcome) : (batch.arrive flush index outcome).complete = true := by
  rw [UploadBatch.arrive]
  split_ifs
  · refine List.all_eq_true.2 fun other hother => ?_
    rcases List.mem_or_eq_of_mem_set hother with hmem | rfl
    · exact List.all_eq_true.1 h other hmem
    · rfl
  · exact h

/-! What leaves uploads alone -/

/-- Nothing has been done but what an event other than a job can do. -/
structure Unheard (consumer : Consumer) (next : Consumer × List Effect) : Prop where
  adds : Adds Action.Begins consumer next.1
  batches : next.1.batches = consumer.batches
  effects : ∀ effect ∈ next.2, effect.Quiet

namespace Unheard

variable {consumer other : Consumer} {action : Action}

theorem of_jobs_eq (hjobs : other.jobs = consumer.jobs) (hbatches : other.batches = consumer.batches) :
    Unheard consumer (other, []) :=
  ⟨.of_jobs_eq hjobs, hbatches, List.forall_mem_nil _⟩

theorem later (hjobs : other.jobs = consumer.jobs) (hbatches : other.batches = consumer.batches)
    (hbegins : action.Begins) : Unheard consumer (other.later 0 action, []) := by
  have hsame : Adds Action.Begins consumer other := .of_jobs_eq hjobs
  exact ⟨hsame.later 0 hbegins, hbatches, List.forall_mem_nil _⟩

end Unheard

/-- Nothing but jobs resolves flushes, makes uploads or hears of them. -/
theorem step_unheard (consumer : Consumer) {event : Event} (hjob : event ≠ .job) :
    Unheard consumer (consumer.step event) := by
  cases event with
  | turn calls =>
    refine ⟨callAll_adds consumer calls trivial, (callAll_sameUploads consumer calls).batches, ?_⟩
    exact fun effect he => (callAll_ofCall consumer calls effect he).quiet
  | defer calls => exact .later rfl rfl trivial
  | job => exact absurd rfl hjob
  | wake =>
    rw [step]
    rcases wake_cases consumer with ⟨-, heq⟩ | ⟨flush, waiting, -, heq⟩
    · rw [heq]
      exact .of_jobs_eq rfl rfl
    · rw [heq]
      exact .later rfl rfl trivial
  | fire =>
    rw [step]
    rcases fire_cases consumer with heq | ⟨_, -, heq⟩ | ⟨_, -, heq⟩
    · rw [heq]
      exact .of_jobs_eq rfl rfl
    · have hset : Adds Action.Begins consumer
          { consumer with timer := .interval consumer.now } := .of_jobs_eq rfl
      rw [heq]
      refine ⟨hset.trans (flush_adds _ .scheduled trivial), (flush_sameUploads _ .scheduled).batches, ?_⟩
      intro effect he
      rcases flush_effects _ .scheduled effect he with rfl | rfl <;> trivial
    · rw [heq]
      exact .later rfl rfl trivial
  | clock now => exact .of_jobs_eq rfl rfl
  | settle id outcome =>
    rw [step]
    rcases settle_cases consumer id outcome with heq | heq | ⟨batch, -, index, heq⟩
    · rw [heq]
      exact .of_jobs_eq rfl rfl
    · rw [heq]
      exact .of_jobs_eq rfl rfl
    · rw [heq]
      exact .later rfl rfl trivial
  | uploaderClosed outcome =>
    rw [step]
    rcases endUploaderClose_cases consumer outcome with heq | ⟨closing, -, heq⟩
    · rw [heq]
      exact .of_jobs_eq rfl rfl
    · rw [heq]
      exact .later rfl rfl trivial

/-! Batches -/

/-- What the upload of a drain leaves behind: a batch, reported at once when it is empty, or else the flush
rejected. -/
theorem upload_batches (consumer : Consumer) (flush : Flush) (requests : List Request) :
    ∃ sent failure, Passed consumer.options.callFailure consumer.nextUpload requests sent failure ∧
      (consumer.upload flush requests).2 = (sent.map fun x => .upload x.2 flush x.1) ∧
      let other := (consumer.upload flush requests).1
      other.options = consumer.options ∧ other.nextUpload = consumer.nextUpload + sent.length ∧
      other.unsettled = consumer.unsettled ++
        List.range' consumer.nextUpload (sent.length - failure.toList.length) ∧
      other.batches = consumer.batches ++
        (if failure = none then [⟨flush, consumer.nextUpload, List.replicate requests.length none⟩] else []) ∧
      ∀ action, action ∈ actions [] other ↔ action ∈ actions [] consumer ∨
        (failure = none ∧ requests.length = 0 ∧ action = .report flush) ∨
        ∃ message, failure = some message ∧ action = .reject flush (.raised message) := by
  obtain ⟨sent, failure, hpassed, heffects, hcases⟩ := upload_cases consumer flush requests
  refine ⟨sent, failure, hpassed, heffects, ?_⟩
  rcases hcases with ⟨rfl, heq⟩ | ⟨message, rfl, heq⟩
  · rw [if_pos rfl]
    by_cases hlength : requests.length = 0
    · rw [if_pos hlength] at heq
      rw [heq]
      refine ⟨rfl, rfl, rfl, rfl, fun action => mem_actions_later.trans (or_congr Iff.rfl ?_)⟩
      simp [hlength]
    · rw [if_neg hlength] at heq
      rw [heq]
      refine ⟨rfl, rfl, rfl, rfl, fun action => ?_⟩
      simp only [hlength, false_and, and_false, reduceCtorEq, exists_false, or_false]
      rfl
  · rw [heq, if_neg nofun]
    refine ⟨rfl, rfl, rfl, (List.append_nil _).symm, fun action =>
      mem_actions_later.trans (or_congr Iff.rfl ?_)⟩
    simp

/-- What has arrived is noted, and the batch is reported when it is complete. -/
theorem arrived_batches (consumer : Consumer) (flush : Flush) (index : Nat) (outcome : Outcome)
    (hdistinct : (consumer.batches.map UploadBatch.flush).Nodup) :
    let batches := consumer.batches.map (UploadBatch.arrive flush index outcome)
    SameUploads { consumer with batches } (consumer.arrived flush index outcome) ∧
      ∀ action, action ∈ actions [] (consumer.arrived flush index outcome) ↔
        action ∈ actions [] consumer ∨
          action = .report flush ∧ ∃ batch ∈ batches, batch.flush = flush ∧ batch.complete = true := by
  intro batches
  have hmap : (batches.map UploadBatch.flush).Nodup := by
    rwa [map_flush_arrive]
  unfold arrived
  dsimp only
  cases hfind : batches.find? (·.flush = flush) with
  | none =>
    refine ⟨.refl _, fun action => (or_iff_left ?_).symm⟩
    rintro ⟨-, batch, hbatch, hflush, -⟩
    exact List.find?_eq_none.1 hfind batch hbatch (decide_eq_true hflush)
  | some batch =>
    have hmem := List.mem_of_find?_eq_some hfind
    have hflush : batch.flush = flush := by simpa using List.find?_some hfind
    dsimp only
    split_ifs with hcomplete
    · refine ⟨⟨rfl, rfl, rfl, rfl, rfl⟩, fun action => ?_⟩
      refine mem_actions_later.trans (or_congr Iff.rfl ?_)
      exact ⟨fun h => ⟨h, batch, hmem, hflush, hcomplete⟩, fun h => h.1⟩
    · refine ⟨.refl _, fun action => (or_iff_left ?_).symm⟩
      rintro ⟨-, other, hother, hsame, hdone⟩
      rw [List.inj_on_of_nodup_map hmap hother hmem (hsame.trans hflush.symm)] at hdone
      exact hcomplete hdone

/-- The batch of a flush is taken out, and the flush resolves with what has become of it. -/
theorem report_batches (consumer : Consumer) (flush : Flush)
    (hdistinct : (consumer.batches.map UploadBatch.flush).Nodup) :
    SameUploads { consumer with batches := consumer.batches.filter (·.flush ≠ flush) }
        (consumer.report flush).1 ∧
      (∀ effect ∈ (consumer.report flush).2, effect.Quiet) ∧
      ∀ action, action ∈ actions [] (consumer.report flush).1 ↔ action ∈ actions [] consumer ∨
        ∃ batch ∈ consumer.batches, batch.flush = flush ∧
          action = .resolve flush (resultOf batch.outcomes) := by
  refine ⟨?_, ?_, ?_⟩
  · unfold report
    cases hfind : consumer.batches.find? (·.flush = flush) with
    | none =>
      have hall : consumer.batches.filter (·.flush ≠ flush) = consumer.batches :=
        List.filter_eq_self.2 fun batch hbatch => by
          simpa using List.find?_eq_none.1 hfind batch hbatch
      rw [hall]
      exact .refl _
    | some batch => exact ⟨rfl, rfl, rfl, rfl, rfl⟩
  · intro effect he
    cases perform_shows consumer (.report flush) effect he with
    | executed hfirst => simp at hfirst
    | report _ notice => trivial
  · intro action
    unfold report
    cases hfind : consumer.batches.find? (·.flush = flush) with
    | none =>
      refine (or_iff_left ?_).symm
      rintro ⟨batch, hbatch, hflush, -⟩
      exact List.find?_eq_none.1 hfind batch hbatch (decide_eq_true hflush)
    | some batch =>
      have hmem := List.mem_of_find?_eq_some hfind
      have hflush : batch.flush = flush := by simpa using List.find?_some hfind
      dsimp only
      refine mem_actions_later.trans (or_congr Iff.rfl ?_)
      constructor
      · exact fun h => ⟨batch, hmem, hflush, h⟩
      · rintro ⟨other, hother, hsame, rfl⟩
        rw [List.inj_on_of_nodup_map hdistinct hother hmem (hsame.trans hflush.symm)]

/-- An upload ends, and the batch that it is in is to hear of it. -/
theorem settle_batches (consumer : Consumer) (active : List Action) {id : Nat} (hid : id ∈ consumer.unsettled)
    (outcome : Outcome) (hunique : ∀ batch ∈ consumer.batches, ∀ other ∈ consumer.batches,
      batch.contains id = true → other.contains id = true → batch = other) :
    SameUploads { consumer with unsettled := consumer.unsettled.filter (· ≠ id) }
        (consumer.settle id outcome) ∧
      ∀ action, action ∈ actions active (consumer.settle id outcome) ↔ action ∈ actions active consumer ∨
        ∃ batch ∈ consumer.batches, batch.contains id = true ∧
          action = .arrived batch.flush (id - batch.first) outcome := by
  unfold settle
  rw [if_pos hid]
  dsimp only
  cases hfind : consumer.batches.find? (UploadBatch.contains id) with
  | none =>
    refine ⟨.refl _, fun action => (or_iff_left ?_).symm⟩
    rintro ⟨batch, hbatch, hcontains, -⟩
    exact List.find?_eq_none.1 hfind batch hbatch hcontains
  | some batch =>
    have hmem := List.mem_of_find?_eq_some hfind
    have hcontains : batch.contains id = true := List.find?_some hfind
    refine ⟨⟨rfl, rfl, rfl, rfl, rfl⟩, fun action => mem_actions_later.trans (or_congr Iff.rfl ?_)⟩
    constructor
    · exact fun h => ⟨batch, hmem, hcontains, h⟩
    · rintro ⟨other, hother, hsame, rfl⟩
      rw [hunique other hother batch hmem hsame hcontains]

/-- A batch notes what has arrived, and misses what has not. -/
structure Batched (ended : List (Nat × Outcome)) (unsettled : List Nat) (actions : List Action)
    (batch : UploadBatch) : Prop where
  noted : ∀ i outcome, batch.outcomes[i]? = some (some outcome) → (batch.first + i, outcome) ∈ ended
  missing : ∀ i, batch.outcomes[i]? = some none →
    batch.first + i ∈ unsettled ∨ ∃ outcome, .arrived batch.flush i outcome ∈ actions
  arriving : ∀ i outcome, .arrived batch.flush i outcome ∈ actions → (batch.first + i, outcome) ∈ ended
  complete : batch.complete = true ↔ .report batch.flush ∈ actions

/-- Nothing but the actions on a batch matters. -/
theorem Batched.congr {ended : List (Nat × Outcome)} {unsettled unsettled' : List Nat}
    {actions actions' : List Action} {batch : UploadBatch} (h : Batched ended unsettled actions batch)
    (hunsettled : unsettled ⊆ unsettled') (harrived : ∀ i outcome,
      .arrived batch.flush i outcome ∈ actions' ↔ .arrived batch.flush i outcome ∈ actions)
    (hreport : .report batch.flush ∈ actions' ↔ .report batch.flush ∈ actions) :
    Batched ended unsettled' actions' batch := by
  refine ⟨h.noted, fun i hi => ?_, fun i outcome hmem => ?_, ?_⟩
  · refine (h.missing i hi).imp (@hunsettled _) ?_
    exact fun ⟨outcome, hmem⟩ => ⟨outcome, (harrived i outcome).2 hmem⟩
  · exact h.arriving i outcome ((harrived i outcome).1 hmem)
  · rw [hreport]
    exact h.complete

/-- A new batch has nothing noted, and is complete only if it is empty. -/
theorem Batched.fresh {ended : List (Nat × Outcome)} {unsettled : List Nat} {actions : List Action}
    {flush : Flush} {first n : Nat} (hunsettled : List.range' first n ⊆ unsettled)
    (harrived : ∀ i outcome, .arrived flush i outcome ∉ actions)
    (hreport : .report flush ∈ actions ↔ n = 0) :
    Batched ended unsettled actions ⟨flush, first, List.replicate n none⟩ := by
  refine ⟨fun i outcome hi => ?_, fun i hi => Or.inl (hunsettled ?_), fun i outcome hmem => ?_, ?_⟩
  · rw [List.getElem?_replicate] at hi
    split_ifs at hi
    cases Option.some.inj hi
  · rw [List.getElem?_replicate] at hi
    split_ifs at hi with hlt
    exact List.mem_range'_1.2 ⟨Nat.le_add_right _ _, Nat.add_lt_add_left hlt _⟩
  · exact absurd hmem (harrived i outcome)
  · rw [hreport, UploadBatch.complete, List.all_eq_true]
    constructor
    · intro hall
      by_contra hn
      exact absurd (hall none (List.mem_replicate.2 ⟨hn, rfl⟩)) Bool.false_ne_true
    · rintro rfl
      exact nofun

/-- An outcome arrives at its batch. -/
theorem Batched.arrive {ended : List (Nat × Outcome)} {unsettled : List Nat}
    {actions actions' : List Action} {batch : UploadBatch} {index : Nat} {outcome : Outcome}
    (h : Batched ended unsettled (.arrived batch.flush index outcome :: actions) batch)
    (harrived : ∀ i outcome,
      .arrived batch.flush i outcome ∈ actions' ↔ .arrived batch.flush i outcome ∈ actions)
    (hcomplete : (batch.arrive batch.flush index outcome).complete = true ↔
      .report batch.flush ∈ actions') :
    Batched ended unsettled actions' (batch.arrive batch.flush index outcome) := by
  have harrive : batch.arrive batch.flush index outcome =
      { batch with outcomes := batch.outcomes.set index (some outcome) } := if_pos rfl
  rw [harrive] at hcomplete ⊢
  refine ⟨fun i other hi => ?_, fun i hi => ?_, fun i other hi => ?_, hcomplete⟩
  · rw [List.getElem?_set] at hi
    split_ifs at hi with heq hlt
    · obtain rfl : outcome = other := by simpa using hi
      rw [← heq]
      exact h.arriving index outcome List.mem_cons_self
    · exact h.noted i other hi
  · rw [List.getElem?_set] at hi
    split_ifs at hi with heq hlt
    · simp at hi
    · refine (h.missing i hi).imp id ?_
      rintro ⟨other, hother⟩
      refine ⟨other, (harrived i other).2 ((List.mem_cons.1 hother).resolve_left fun heq' => ?_)⟩
      exact heq (Action.arrived.inj heq').2.1.symm
  · exact h.arriving i other (List.mem_cons_of_mem _ ((harrived i other).1 hi))

/-- An upload of the batch, or of another one, ends. -/
theorem Batched.settle {ended : List (Nat × Outcome)} {unsettled : List Nat}
    {actions actions' : List Action} {batch : UploadBatch} (h : Batched ended unsettled actions batch)
    {id : Nat} {outcome : Outcome}
    (harrived : ∀ i other, .arrived batch.flush i other ∈ actions' ↔
      .arrived batch.flush i other ∈ actions ∨
        batch.contains id = true ∧ i = id - batch.first ∧ other = outcome)
    (hreport : .report batch.flush ∈ actions' ↔ .report batch.flush ∈ actions) :
    Batched (ended ++ [(id, outcome)]) (unsettled.filter (· ≠ id)) actions' batch := by
  have hended : ended <+: ended ++ [(id, outcome)] := List.prefix_append _ _
  refine ⟨fun i other hi => hended.subset (h.noted i other hi), fun i hi => ?_, fun i other hi => ?_, ?_⟩
  · rcases h.missing i hi with hwaits | ⟨other, hother⟩
    · by_cases heq : batch.first + i = id
      · have hlt := (List.getElem?_eq_some_iff.1 hi).1
        have hcontains : batch.contains id = true := by
          rw [← heq, UploadBatch.contains]
          simpa using hlt
        refine Or.inr ⟨outcome, (harrived i outcome).2 (Or.inr ⟨hcontains, ?_, rfl⟩)⟩
        rw [← heq, Nat.add_sub_cancel_left]
      · exact Or.inl (List.mem_filter.2 ⟨hwaits, decide_eq_true heq⟩)
    · exact Or.inr ⟨other, (harrived i other).2 (Or.inl hother)⟩
  · rcases (harrived i other).1 hi with hold | ⟨hcontains, rfl, rfl⟩
    · exact hended.subset (h.arriving i other hold)
    · have hle : batch.first ≤ id := by
        rw [UploadBatch.contains, Bool.and_eq_true] at hcontains
        exact of_decide_eq_true hcontains.1
      rw [Nat.add_sub_cancel' hle]
      exact List.mem_concat_self
  · rw [hreport]
    exact h.complete

/-- Uploads are numbered in their order, and those that were started end once or have not ended. -/
structure Numbered (callFailure : Nat → Option String) (ended : List (Nat × Outcome))
    (sent : List (Flush × Request × Nat)) (nextUpload : Nat) (unsettled : List Nat) : Prop where
  numbers : sent.map (fun x => x.2.2) = List.range nextUpload
  known : ∀ id ∈ unsettled ++ ended.map Prod.fst, id < nextUpload
  once : (unsettled ++ ended.map Prod.fst).Nodup
  started : ∀ id < nextUpload, callFailure id = none → id ∈ unsettled ++ ended.map Prod.fst

namespace Numbered

variable {callFailure : Nat → Option String} {ended : List (Nat × Outcome)}
  {sent : List (Flush × Request × Nat)} {nextUpload : Nat} {unsettled : List Nat}

/-- Calls that went well have been started, and the one that failed at once is the last. -/
theorem upload (h : Numbered callFailure ended sent nextUpload unsettled) (flush : Flush)
    {requests : List Request} {passed : List (Request × Nat)} {failure : Option String}
    (hpassed : Passed callFailure nextUpload requests passed failure) :
    Numbered callFailure ended (sent ++ passed.map (flush, ·)) (nextUpload + passed.length)
      (unsettled ++ List.range' nextUpload (passed.length - failure.toList.length)) := by
  have hrange : ∀ id ∈ List.range' nextUpload (passed.length - failure.toList.length),
      nextUpload ≤ id ∧ id < nextUpload + passed.length := by
    intro id hid
    rw [List.mem_range'_1] at hid
    omega
  have hperm : (unsettled ++ List.range' nextUpload (passed.length - failure.toList.length) ++
      ended.map Prod.fst).Perm (unsettled ++ ended.map Prod.fst ++
        List.range' nextUpload (passed.length - failure.toList.length)) := by
    rw [List.append_assoc, List.append_assoc]
    exact List.perm_append_comm.append_left _
  refine ⟨?_, fun id hid => ?_, hperm.nodup_iff.2 ?_, fun id hid hcall => hperm.symm.subset ?_⟩
  · rw [List.map_append, h.numbers, List.map_map, List.range_eq_range', List.range_eq_range',
      ← List.range'_append_1, Nat.zero_add, ← hpassed.numbers]
    rfl
  · rcases List.mem_append.1 (hperm.subset hid) with hold | hnew
    · exact Nat.lt_add_right _ (h.known id hold)
    · exact (hrange id hnew).2
  · refine List.nodup_append.2 ⟨h.once, List.nodup_range', fun id hold other hnew heq => ?_⟩
    have hlt := h.known id hold
    have hle := (hrange other hnew).1
    omega
  · by_cases hlt : id < nextUpload
    · exact List.mem_append_left _ (h.started id hlt hcall)
    · refine List.mem_append_right _ (List.mem_range'_1.2 ⟨Nat.le_of_not_lt hlt, ?_⟩)
      cases hpassed with
      | whole => simpa using hid
      | cut k message hk hbefore hfails =>
        have hne : id ≠ nextUpload + k := by
          rintro rfl
          rw [hfails] at hcall
          cases hcall
        simp only [List.length_zipIdx, List.length_take, Option.toList_some, List.length_singleton] at hid ⊢
        omega

/-- An upload ends. -/
theorem settle (h : Numbered callFailure ended sent nextUpload unsettled) {id : Nat}
    (hid : id ∈ unsettled) (outcome : Outcome) :
    Numbered callFailure (ended ++ [(id, outcome)]) sent nextUpload (unsettled.filter (· ≠ id)) := by
  have hnodup := (List.nodup_append.1 h.once).1
  have hperm : (unsettled.filter (· ≠ id) ++ (ended ++ [(id, outcome)]).map Prod.fst).Perm
      (unsettled ++ ended.map Prod.fst) := by
    have hone : (id :: unsettled.filter (· ≠ id)).Perm unsettled := by
      have herase : unsettled.erase id = unsettled.filter (· ≠ id) := by
        rw [hnodup.erase_eq_filter]
        exact List.filter_congr fun other _ => by by_cases heq : other = id <;> simp [heq]
      rw [← herase]
      exact (List.perm_cons_erase hid).symm
    rw [List.map_append, ← List.append_assoc]
    exact (List.perm_append_singleton id _).trans (hone.append_right _)
  exact ⟨h.numbers, fun other hother => h.known other (hperm.subset hother), hperm.nodup_iff.2 h.once,
    fun other hlt hcall => hperm.symm.subset (h.started other hlt hcall)⟩

end Numbered

end Consumer
end MetricPipeline
