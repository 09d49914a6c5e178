import Mathlib.Data.List.Basic
import MetricPipeline.Consumer.Step
import MetricPipeline.Proofs.Aggregation.History

/-! Runs of a consumer, and what can be read off their traces: which tasks entered the queue and stayed,
which were executed, and which requests were uploaded. A list of executed tasks says which drains there
were and which collections each of them took. -/

namespace MetricPipeline

/-- Where an item stands in a list with one more item at the end. -/
theorem concat_eq_split {α : Type} {list before after : List α} {a x : α} :
    list ++ [a] = before ++ x :: after ↔
      (before = list ∧ x = a ∧ after = []) ∨ ∃ rest, after = rest ++ [a] ∧ list = before ++ x :: rest := by
  constructor
  · intro h
    rcases List.eq_nil_or_concat after with rfl | ⟨rest, last, rfl⟩
    · obtain ⟨hbefore, hlast⟩ := List.append_inj' h rfl
      exact Or.inl ⟨hbefore.symm, (List.cons.inj hlast).1.symm, rfl⟩
    · rw [List.concat_eq_append, ← List.cons_append, ← List.append_assoc] at h
      obtain ⟨hlist, hlast⟩ := List.append_inj' h rfl
      rw [List.concat_eq_append, (List.cons.inj hlast).1]
      exact Or.inr ⟨rest, rfl, hlist⟩
  · rintro (⟨rfl, rfl, rfl⟩ | ⟨rest, rfl, rfl⟩)
    · rfl
    · simp

theorem exists_split_of_ne {α : Type} {list before after : List α} {a x : α}
    (h : list ++ [a] = before ++ x :: after) (hne : x ≠ a) : ∃ rest, list = before ++ x :: rest := by
  rcases concat_eq_split.1 h with ⟨-, heq, -⟩ | ⟨rest, -, hrest⟩
  · exact absurd heq hne
  · exact ⟨rest, hrest⟩

def Task.IsDrain : Task → Prop
  | .add _ => False
  | .drain _ => True

/-- The flush that a task is the drain of. -/
def Task.flush? : Task → Option Flush
  | .add _ => none
  | .drain flush => some flush

/-- The collection that a task adds, if it can be read. -/
def Task.collection? : Task → Option Collection
  | .add (.collection collection) => some collection
  | _ => none

def collectionsOf (tasks : List Task) : List Collection := tasks.filterMap Task.collection?

/-- A drain, and the collections added since the one before it. -/
structure Drained where
  flush : Flush
  collections : List Collection

/-- The drains among tasks in order, and the collections added since the last one. -/
structure Progress where
  drains : List Drained
  pending : List Collection

namespace Progress

def next (progress : Progress) : Task → Progress
  | .add (.collection collection) => ⟨progress.drains, progress.pending ++ [collection]⟩
  | .add (.unreadable _) => progress
  | .drain flush => ⟨progress.drains ++ [⟨flush, progress.pending⟩], []⟩

def ofTasks (tasks : List Task) : Progress := tasks.foldl next ⟨[], []⟩

theorem ofTasks_concat (tasks : List Task) (task : Task) :
    ofTasks (tasks ++ [task]) = (ofTasks tasks).next task := by
  rw [ofTasks, List.foldl_append]
  rfl

/-- Every collection is taken by one drain, or by none so far. -/
theorem collections_ofTasks (tasks : List Task) :
    (ofTasks tasks).drains.flatMap Drained.collections ++ (ofTasks tasks).pending =
      collectionsOf tasks := by
  induction tasks using List.reverseRecOn with
  | nil => rfl
  | append_singleton tasks task ih =>
    rw [ofTasks_concat, collectionsOf, List.filterMap_append, ← collectionsOf, ← ih]
    rcases task with (collection | message) | flush <;> simp [next, Task.collection?]

/-- Where a drain stands among the tasks: it takes what is pending there. -/
theorem exists_of_drains {tasks : List Task} {before after : List Drained} {drained : Drained}
    (h : (ofTasks tasks).drains = before ++ drained :: after) :
    ∃ earlier later, tasks = earlier ++ .drain drained.flush :: later ∧
      ofTasks earlier = ⟨before, drained.collections⟩ := by
  induction tasks using List.reverseRecOn generalizing after with
  | nil => exact absurd h (by simp [ofTasks])
  | append_singleton tasks task ih =>
    have hlift : ∀ after', (ofTasks tasks).drains = before ++ drained :: after' →
        ∃ earlier later, tasks ++ [task] = earlier ++ .drain drained.flush :: later ∧
          ofTasks earlier = ⟨before, drained.collections⟩ := by
      intro after' h'
      obtain ⟨earlier, later, rfl, hearlier⟩ := ih h'
      exact ⟨earlier, later ++ [task], by simp, hearlier⟩
    rw [ofTasks_concat] at h
    rcases task with (collection | message) | flush
    · exact hlift after h
    · exact hlift after h
    · rcases concat_eq_split.1 h with ⟨rfl, rfl, -⟩ | ⟨after', -, hdrains⟩
      · exact ⟨tasks, [], rfl, rfl⟩
      · exact hlift after' hdrains

/-- The drains are those among the tasks. -/
theorem flushes_ofTasks (tasks : List Task) :
    (ofTasks tasks).drains.map Drained.flush = tasks.filterMap Task.flush? := by
  induction tasks using List.reverseRecOn with
  | nil => rfl
  | append_singleton tasks task ih =>
    rw [ofTasks_concat, List.filterMap_append, ← ih]
    rcases task with (collection | message) | flush <;> simp [next, Task.flush?]

theorem mem_drains_iff (tasks : List Task) (flush : Flush) :
    flush ∈ (ofTasks tasks).drains.map Drained.flush ↔ .drain flush ∈ tasks := by
  rw [flushes_ofTasks, List.mem_filterMap]
  constructor
  · rintro ⟨task, htask, hflush⟩
    cases task with
    | add submission => cases hflush
    | drain other => rwa [← Option.some.inj hflush]
  · exact fun h => ⟨_, h, rfl⟩

end Progress

/-- The requests of a drain that takes what has been added to an aggregation which held nothing. -/
def Drained.requests (fresh : Aggregation) (drained : Drained) : List Request :=
  match (fresh.after (drained.collections.map .add)).drain.1 with
  | .ok requests => requests
  | .error _ => []

/-- What is passed to the uploader of requests, with the numbers of the uploads: all of them, or those up to
the first call that fails at once. -/
inductive Passed (callFailure : Nat → Option String) (first : Nat) (requests : List Request) :
    List (Request × Nat) → Option String → Prop where
  | whole (h : ∀ i < requests.length, callFailure (first + i) = none) :
    Passed callFailure first requests (requests.zipIdx first) none
  | cut (k : Nat) (message : String) (hk : k < requests.length)
    (hbefore : ∀ i < k, callFailure (first + i) = none) (hfails : callFailure (first + k) = some message) :
    Passed callFailure first requests ((requests.take (k + 1)).zipIdx first) (some message)

namespace Passed

variable {callFailure : Nat → Option String} {first : Nat} {requests : List Request}
  {sent : List (Request × Nat)} {failure : Option String}

theorem cons {request : Request} (h : Passed callFailure (first + 1) requests sent failure)
    (hcall : callFailure first = none) :
    Passed callFailure first (request :: requests) ((request, first) :: sent) failure := by
  have hfirst : ∀ k, (∀ i < k, callFailure (first + 1 + i) = none) →
      ∀ i < k + 1, callFailure (first + i) = none := by
    intro k hrest i hi
    cases i with
    | zero => exact hcall
    | succ i =>
      rw [Nat.add_succ, ← Nat.succ_add]
      exact hrest i (by omega)
  cases h with
  | whole hrest => exact .whole (hfirst _ hrest)
  | cut k message hk hbefore hfails =>
    refine .cut (k + 1) message (Nat.succ_lt_succ hk) (hfirst k hbefore) ?_
    rwa [Nat.add_succ, ← Nat.succ_add]

/-- The numbers of the uploads follow each other. -/
theorem numbers (h : Passed callFailure first requests sent failure) :
    sent.map Prod.snd = List.range' first sent.length := by
  cases h <;> simp

theorem number_getElem (h : Passed callFailure first requests sent failure) {i : Nat}
    (hi : i < sent.length) : sent[i].2 = first + i := by
  have hget : (sent.map Prod.snd)[i]? = (List.range' first sent.length)[i]? := by rw [h.numbers]
  simpa [hi] using hget

theorem length_failure_le (h : Passed callFailure first requests sent failure) :
    failure.toList.length ≤ sent.length := by
  cases h with
  | whole => exact Nat.zero_le _
  | cut k message hk =>
    simp only [Option.toList_some, List.length_singleton, List.length_zipIdx, List.length_take]
    omega

theorem length_eq (h : Passed callFailure first requests sent none) : sent.length = requests.length := by
  cases h
  rw [List.length_zipIdx]

theorem map_fst (h : Passed callFailure first requests sent none) : sent.map Prod.fst = requests := by
  cases h
  simp

theorem calls (h : Passed callFailure first requests sent none) : ∀ x ∈ sent, callFailure x.2 = none := by
  cases h with
  | whole hcalls =>
    rintro ⟨request, id⟩ hx
    obtain ⟨hle, hlt, -⟩ := List.mem_zipIdx hx
    have hcall := hcalls (id - first) (by omega)
    rwa [Nat.add_sub_cancel' hle] at hcall

/-- A call that fails at once is the last one. -/
theorem cut_of_fails (h : Passed callFailure first requests sent failure) {x : Request × Nat}
    (hx : x ∈ sent) {message : String} (hfails : callFailure x.2 = some message) :
    failure = some message ∧ ∃ n < requests.length,
      sent.map Prod.fst = requests.take (n + 1) ∧ sent[n]? = some x := by
  cases h with
  | whole hcalls =>
    have hnone := calls (.whole hcalls) x hx
    rw [hfails] at hnone
    cases hnone
  | cut k other hk hbefore hother =>
    have hpassed : Passed callFailure first requests ((requests.take (k + 1)).zipIdx first) (some other) :=
      .cut k other hk hbefore hother
    obtain ⟨i, hi, rfl⟩ := List.getElem_of_mem hx
    have hlength : ((requests.take (k + 1)).zipIdx first).length = k + 1 := by
      rw [List.length_zipIdx, List.length_take]
      omega
    rw [hpassed.number_getElem hi] at hfails
    obtain rfl : i = k := by
      by_contra hne
      rw [hbefore i (by omega)] at hfails
      cases hfails
    refine ⟨hother.symm.trans hfails, i, hk, ?_, List.getElem?_eq_getElem hi⟩
    simp

/-- Only a call that fails at once keeps requests back. -/
theorem failure_eq_none (h : Passed callFailure first requests sent failure)
    (hcalls : ∀ x ∈ sent, callFailure x.2 = none) : failure = none := by
  cases h with
  | whole => rfl
  | cut k message hk hbefore hfails =>
    have hpassed : Passed callFailure first requests ((requests.take (k + 1)).zipIdx first) (some message) :=
      .cut k message hk hbefore hfails
    have hlast : k < ((requests.take (k + 1)).zipIdx first).length := by
      rw [List.length_zipIdx, List.length_take]
      omega
    have hnone := hcalls _ (List.getElem_mem hlast)
    rw [hpassed.number_getElem hlast, hfails] at hnone
    cases hnone

end Passed

/-- What a drain sends to the uploader. -/
def Drained.Sends (callFailure : Nat → Option String) (fresh : Aggregation) (drained : Drained)
    (sent : List (Flush × Request × Nat)) : Prop :=
  ∃ first passed failure, Passed callFailure first (drained.requests fresh) passed failure ∧
    sent = passed.map (drained.flush, ·)

namespace Trace

/-- Tasks that were executed, in order. -/
def executed (trace : List Effect) : List Task :=
  trace.filterMap fun
    | .executed task => some task
    | _ => none

/-- Readable collections that were taken into the queue, in order. -/
def accepted (trace : List Effect) : List Collection :=
  trace.filterMap fun
    | .queued task => task.collection?
    | _ => none

/-- Requests that were passed to the uploader, in order, each with the flush it is of. -/
def uploads (trace : List Effect) : List (Flush × Request) :=
  trace.filterMap fun
    | .upload _ flush request => some (flush, request)
    | _ => none

/-- Requests that were passed to the uploader with the numbers of the uploads. -/
def sent (trace : List Effect) : List (Flush × Request × Nat) :=
  trace.filterMap fun
    | .upload id flush request => some (flush, request, id)
    | _ => none

/-- The requests of a flush that were passed to the uploader, with the numbers of the uploads. -/
def sentOf (trace : List Effect) (flush : Flush) : List (Request × Nat) :=
  ((sent trace).filter (·.1 = flush)).map Prod.snd

/-- What is left of tasks in the order in which they entered the queue: discarding takes the last ones. -/
def keep (tasks : List Task) : Effect → List Task
  | .queued task => tasks ++ [task]
  | .discarded removed => tasks.take (tasks.length - removed.length)
  | _ => tasks

def kept (trace : List Effect) : List Task := trace.foldl keep []

theorem executed_append (trace effects : List Effect) :
    executed (trace ++ effects) = executed trace ++ executed effects := List.filterMap_append ..

theorem accepted_append (trace effects : List Effect) :
    accepted (trace ++ effects) = accepted trace ++ accepted effects := List.filterMap_append ..

theorem sent_append (trace effects : List Effect) :
    sent (trace ++ effects) = sent trace ++ sent effects := List.filterMap_append ..

theorem uploads_eq (trace : List Effect) : uploads trace = (sent trace).map fun x => (x.1, x.2.1) := by
  rw [uploads, sent, List.map_filterMap]
  refine List.filterMap_congr fun effect _ => ?_
  cases effect <;> rfl

theorem sent_map_upload (flush : Flush) (passed : List (Request × Nat)) :
    sent (passed.map fun x => .upload x.2 flush x.1) = passed.map (flush, ·) := by
  rw [sent, List.filterMap_map, ← List.filterMap_eq_map]
  rfl

theorem sentOf_append (trace effects : List Effect) (flush : Flush) :
    sentOf (trace ++ effects) flush = sentOf trace flush ++ sentOf effects flush := by
  rw [sentOf, sent_append, List.filter_append, List.map_append, sentOf, sentOf]

theorem mem_sentOf {trace : List Effect} {flush : Flush} {x : Request × Nat} :
    x ∈ sentOf trace flush ↔ (flush, x) ∈ sent trace := by
  simp [sentOf]

theorem mem_sent {trace : List Effect} {flush : Flush} {request : Request} {id : Nat} :
    (flush, request, id) ∈ sent trace ↔ .upload id flush request ∈ trace := by
  rw [sent, List.mem_filterMap]
  constructor
  · rintro ⟨effect, heffect, hsome⟩
    cases effect with
    | upload other otherFlush otherRequest =>
      obtain ⟨rfl, rfl, rfl⟩ : otherFlush = flush ∧ otherRequest = request ∧ other = id := by
        simpa using hsome
      exact heffect
    | _ => cases hsome
  · exact fun h => ⟨_, h, rfl⟩

theorem sentOf_map_upload (flush other : Flush) (passed : List (Request × Nat)) :
    sentOf (passed.map fun x => .upload x.2 flush x.1) other = if flush = other then passed else [] := by
  rw [sentOf, sent_map_upload, List.filter_map, List.map_map]
  split_ifs with h
  · have hall : ∀ x ∈ passed, ((fun x => decide (x.1 = other)) ∘ fun x => (flush, x)) x = true :=
      fun _ _ => decide_eq_true h
    rw [List.filter_eq_self.2 hall]
    exact List.map_id _
  · have hnone : ∀ x ∈ passed, ¬((fun x => decide (x.1 = other)) ∘ fun x => (flush, x)) x = true :=
      fun _ _ hx => h (of_decide_eq_true hx)
    rw [List.filter_eq_nil_iff.2 hnone]
    rfl

theorem kept_concat (trace : List Effect) (effect : Effect) :
    kept (trace ++ [effect]) = keep (kept trace) effect := by
  rw [kept, List.foldl_append]
  rfl

end Trace

namespace Consumer

instance (consumer : Consumer) (event : Event) : Decidable (consumer.Enabled event) :=
  match event with
  | .turn _ => inferInstanceAs (Decidable (consumer.jobs.toList = []))
  | .defer _ => isTrue trivial
  | .job => inferInstanceAs (Decidable (consumer.jobs.toList ≠ []))
  | .wake => inferInstanceAs (Decidable (consumer.jobs.toList = [] ∧ consumer.waiting ≠ []))
  | .fire => inferInstanceAs (Decidable (consumer.jobs.toList = [] ∧
      ∃ due ∈ consumer.due?, due.le consumer.now = true))
  | .clock now => inferInstanceAs (Decidable (consumer.now.le now = true))
  | .settle id _ => inferInstanceAs (Decidable (id ∈ consumer.unsettled))
  | .uploaderClosed _ =>
    inferInstanceAs (Decidable (∃ closing ∈ consumer.closing, closing.awaitsUploader = true))

/-- Any events in an order in which they can come, with the effects that they have. -/
inductive Run (start : Consumer) : List Effect → Consumer → Prop where
  | start : Run start [] start
  | step {trace : List Effect} {consumer : Consumer} (h : Run start trace consumer) (event : Event)
    (henabled : consumer.Enabled event) :
    Run start (trace ++ (consumer.step event).2) (consumer.step event).1

/-- A run with the events it is made of. -/
inductive History (start : Consumer) : List Event → List Effect → Consumer → Prop where
  | start : History start [] [] start
  | step {events : List Event} {trace : List Effect} {consumer : Consumer}
    (h : History start events trace consumer) (event : Event) (henabled : consumer.Enabled event) :
    History start (events ++ [event]) (trace ++ (consumer.step event).2) (consumer.step event).1

theorem History.run {start consumer : Consumer} {events : List Event} {trace : List Effect}
    (h : History start events trace consumer) : Run start trace consumer := by
  induction h with
  | start => exact .start
  | step _ event henabled ih => exact ih.step event henabled

theorem Run.history {start consumer : Consumer} {trace : List Effect} (h : Run start trace consumer) :
    ∃ events, History start events trace consumer := by
  induction h with
  | start => exact ⟨[], .start⟩
  | step _ event henabled ih =>
    obtain ⟨events, hevents⟩ := ih
    exact ⟨_, hevents.step event henabled⟩

theorem History.trans {start consumer last : Consumer} {events events' : List Event}
    {trace trace' : List Effect} (h : History start events trace consumer)
    (h' : History consumer events' trace' last) :
    History start (events ++ events') (trace ++ trace') last := by
  induction h' with
  | start =>
    rw [List.append_nil, List.append_nil]
    exact h
  | step _ event henabled ih =>
    rw [← List.append_assoc, ← List.append_assoc]
    exact ih.step event henabled

/-- The uploads that ended, in order, with their outcomes. -/
def settled (events : List Event) : List (Nat × Outcome) :=
  events.filterMap fun
    | .settle id outcome => some (id, outcome)
    | _ => none

theorem settled_append (events more : List Event) :
    settled (events ++ more) = settled events ++ settled more := List.filterMap_append ..

/-- Does jobs one after another, at most `n` of them. -/
def runJobs (consumer : Consumer) : Nat → Consumer × List Effect
  | 0 => (consumer, [])
  | n + 1 =>
    let (consumer, effects) := consumer.runJob
    let (consumer, more) := consumer.runJobs n
    (consumer, effects ++ more)

theorem History.jobs {start consumer : Consumer} {events : List Event} {trace : List Effect}
    (h : History start events trace consumer) (n : Nat) : ∃ events', settled events' = settled events ∧
      History start events' (trace ++ (consumer.runJobs n).2) (consumer.runJobs n).1 := by
  induction n generalizing events trace consumer with
  | zero =>
    refine ⟨events, rfl, ?_⟩
    rwa [runJobs, List.append_nil]
  | succ n ih =>
    by_cases hjobs : consumer.jobs.toList = []
    · have hidle : consumer.runJob = (consumer, []) := by
        rw [runJob, (Fifo.pop?_eq_none_iff _).2 hjobs]
      rw [runJobs, hidle]
      exact ih h
    · obtain ⟨events', hevents', hrest⟩ := ih (h.step .job hjobs)
      rw [List.append_assoc] at hrest
      refine ⟨events', ?_, hrest⟩
      rw [hevents', settled_append]
      exact List.append_nil _

theorem Run.jobs {start consumer : Consumer} {trace : List Effect} (h : Run start trace consumer)
    (n : Nat) : Run start (trace ++ (consumer.runJobs n).2) (consumer.runJobs n).1 := by
  obtain ⟨events, hevents⟩ := h.history
  obtain ⟨events', -, hrun⟩ := hevents.jobs n
  exact hrun.run

end Consumer
end MetricPipeline
