import MetricPipeline.Proofs.Consumer.FinalFlush

/-! What a call of close brings about in the rest of a run: nothing that is published later enters the
queue, and a closed consumer has a flush of its shutdown. -/

namespace MetricPipeline

/-- What is published after a call of close does not enter the queue. -/
def Effect.Precedes (former latter : Effect) : Prop :=
  ∀ call submission, former = .closeCalled call → latter ≠ .queued (.add submission)

/-- Effects that tell neither of a call of close nor of what is to be added. -/
def Effect.Plain : Effect → Prop
  | .closeCalled _ | .queued (.add _) => False
  | _ => True

theorem Effect.precedes_of_plain {former latter : Effect} (h : latter.Plain) : former.Precedes latter := by
  rintro call submission - rfl
  exact h

namespace Consumer

open Trace

variable {trace effects : List Effect} {active active' : List Action} {action : Action}
  {consumer other : Consumer}

/-- Only publishing adds, and only to an open consumer. -/
theorem call_queued {call : Call} {submission : Submission}
    (h : .queued (.add submission) ∈ (consumer.call call).2) :
    consumer.closed = false ∧ (consumer.call call).2 = [.queued (.add submission)] := by
  have hflush : ∀ (consumer : Consumer) (origin : FlushOrigin),
      .queued (.add submission) ∉ (consumer.flush origin).2 := by
    intro consumer origin hmem
    rcases flush_effects consumer origin _ hmem with h | h <;> cases h
  cases call with
  | publish other =>
    rw [Consumer.call, Consumer.publish] at h ⊢
    split_ifs at h ⊢ with hclosed
    · simp at h
    · simp at h
    · have heq : submission = other := by simpa [enqueue] using h
      rw [heq]
      exact ⟨by simpa using hclosed, rfl⟩
  | flush => exact absurd h (hflush consumer .manual)
  | close =>
    rw [Consumer.call] at h
    cases hc : consumer.closed with
    | true =>
      rw [close_of_closed hc] at h
      simp at h
    | false =>
      rw [close_of_open hc] at h
      rcases List.mem_cons.1 h with h | h
      · cases h
      · exact absurd h (hflush _ _)

theorem close_closed (consumer : Consumer) : consumer.close.1.closed = true := by
  cases hc : consumer.closed with
  | true =>
    rw [close_of_closed hc]
    exact hc
  | false =>
    rw [close_of_open hc]
    exact (flush_shutdown _ .final).1

/-- Only a call of close closes the consumer, or tells that it was called. -/
theorem call_eq_close {call : Call} (hopen : consumer.closed = false)
    (h : (consumer.call call).1.closed = true ∨ ∃ number, .closeCalled number ∈ (consumer.call call).2) :
    call = .close := by
  cases call with
  | publish submission =>
    rcases h with hclosed | ⟨number, hmem⟩
    · rw [(publish_sameShutdown consumer submission).closed.symm.trans hclosed] at hopen
      cases hopen
    · rw [Consumer.call, Consumer.publish] at hmem
      split_ifs at hmem <;> simp [enqueue] at hmem
  | flush =>
    rcases h with hclosed | ⟨number, hmem⟩
    · rw [(flush_shutdown consumer .manual).1.symm.trans hclosed] at hopen
      cases hopen
    · rcases flush_effects consumer .manual _ hmem with h | h <;> cases h
  | close => rfl

/-- What holds of a consumer that is closed, or is not yet. -/
structure Ending (trace : List Effect) (active : List Action) (consumer : Consumer) : Prop where
  closed : ∀ call, .closeCalled call ∈ trace → consumer.closed = true
  shut : trace.Pairwise Effect.Precedes
  last : consumer.closed = true → ∃ flush, LastFlush trace active consumer flush

namespace Ending

variable {fresh : Aggregation} {ended : List (Nat × Outcome)} {uploaded : List Drained}

theorem start (options : ConsumerOptions) (aggregation : Aggregation) (now : Binary64) :
    Ending [] [] (Consumer.create options aggregation now) where
  closed _ h := absurd h List.not_mem_nil
  shut := .nil
  last h := by cases h

/-- Effects that are plain change nothing but for the flush of the shutdown. -/
theorem plain (h : Ending trace active consumer) (heffects : ∀ effect ∈ effects, effect.Plain)
    (hclosed : other.closed = consumer.closed)
    (hlast : ∀ flush, consumer.closed = true → LastFlush trace active consumer flush →
      LastFlush (trace ++ effects) active' other flush) :
    Ending (trace ++ effects) active' other := by
  constructor
  case closed =>
    intro call hmem
    rw [hclosed]
    exact h.closed call ((List.mem_append.1 hmem).resolve_right fun hmem => heffects _ hmem)
  case shut =>
    have hprecedes : ∀ former, ∀ latter ∈ effects, Effect.Precedes former latter :=
      fun _ latter hlatter => Effect.precedes_of_plain (heffects latter hlatter)
    exact List.pairwise_append.2 ⟨h.shut,
      List.pairwise_of_forall_mem_list fun former _ => hprecedes former, fun former _ => hprecedes former⟩
  case last =>
    intro hstill
    rw [hclosed] at hstill
    exact (h.last hstill).imp fun flush hflush => hlast flush hstill hflush

theorem silent (h : Ending trace active consumer) (hclosed : other.closed = consumer.closed)
    (hlast : ∀ flush, consumer.closed = true → LastFlush trace active consumer flush →
      LastFlush trace active' other flush) : Ending trace active' other := by
  have hplain : Ending (trace ++ []) active' other := by
    refine h.plain (List.forall_mem_nil _) hclosed fun flush hc hflush => ?_
    rw [List.append_nil]
    exact hlast flush hc hflush
  rwa [List.append_nil] at hplain

theorem call (hsound : Sound trace uploaded active consumer) (h : Ending trace active consumer)
    (call : Call) : Ending (trace ++ (consumer.call call).2) active (consumer.call call).1 := by
  constructor
  case closed =>
    intro number hmem
    cases hc : consumer.closed with
    | true => exact call_closed hc call
    | false =>
      rcases List.mem_append.1 hmem with hmem | hmem
      · rw [h.closed number hmem] at hc
        cases hc
      · rw [call_eq_close hc (Or.inr ⟨number, hmem⟩)]
        exact close_closed consumer
  case shut =>
    refine List.pairwise_append.2 ⟨h.shut, ?_, ?_⟩
    · -- a call that adds has no other effect
      by_cases hadds : ∃ submission, .queued (.add submission) ∈ (consumer.call call).2
      · obtain ⟨submission, hmem⟩ := hadds
        rw [(call_queued hmem).2]
        exact List.pairwise_singleton _ _
      · refine List.pairwise_of_forall_mem_list fun _ _ latter hlatter _ submission _ heq => ?_
        exact hadds ⟨submission, heq ▸ hlatter⟩
    · rintro former hformer latter hlatter number submission rfl rfl
      have hopen := (call_queued hlatter).1
      rw [h.closed number hformer] at hopen
      cases hopen
  case last =>
    intro hclosed
    cases hc : consumer.closed with
    | true => exact (h.last hc).imp fun flush hflush => hflush.call hc call
    | false =>
      rw [call_eq_close hc (Or.inl hclosed)]
      exact ⟨_, LastFlush.close hsound hc⟩

theorem callAll (hsound : Sound trace uploaded active consumer) (h : Ending trace active consumer)
    (calls : List Call) : Ending (trace ++ (consumer.callAll calls).2) active (consumer.callAll calls).1 := by
  induction calls generalizing trace consumer with
  | nil =>
    show Ending (trace ++ []) active consumer
    rwa [List.append_nil]
  | cons first rest ih =>
    have hrest := ih (hsound.call first) (call hsound h first)
    rwa [List.append_assoc] at hrest

theorem perform (hflow : Flow fresh trace uploaded [action] consumer)
    (hsound : Sound trace uploaded [action] consumer) (h : Ending trace [action] consumer) :
    Ending (trace ++ (consumer.perform action).2) [] (consumer.perform action).1 := by
  by_cases hcalls : ∃ calls, action = .calls calls
  · obtain ⟨calls, rfl⟩ := hcalls
    exact callAll hsound.finish (h.silent rfl fun flush _ hflush => hflush.finish (by simp)) calls
  · refine h.plain (fun effect heffect => ?_) (perform_closed_eq consumer fun calls heq => hcalls ⟨calls, heq⟩)
      fun flush hclosed hflush => hflush.perform hflow hsound hclosed
    cases perform_shows consumer action effect heffect with
    | calls calls => exact absurd ⟨calls, rfl⟩ hcalls
    | _ => trivial

theorem step (hinvariant : Invariant fresh ended trace uploaded consumer) (h : Ending trace [] consumer)
    {event : Event} (henabled : consumer.Enabled event) :
    Ending (trace ++ (consumer.step event).2) [] (consumer.step event).1 := by
  have hsilent : ∀ {next : Consumer}, Ending trace [] next → Ending (trace ++ []) [] next := by
    intro next hnext
    rwa [List.append_nil]
  cases event with
  | turn calls => exact callAll hinvariant.sound h calls
  | defer calls =>
    exact hsilent (h.silent rfl fun flush _ hflush =>
      hflush.later 0 (.calls calls) fun hends => absurd hends not_false)
  | job =>
    rw [Consumer.step]
    rcases runJob_cases consumer with ⟨-, heq⟩ | ⟨delay, action, jobs, hpop, heq⟩ | ⟨action, jobs, hpop, heq⟩
    · rw [heq]
      exact hsilent h
    · rw [heq]
      exact hsilent (h.silent rfl fun flush _ hflush => hflush.perm rfl rfl (actions_rotate hpop))
    · rw [heq]
      refine perform (hinvariant.flow.pop hpop) (hinvariant.sound.pop hpop) ?_
      exact h.silent rfl fun flush _ hflush => hflush.perm rfl rfl (.of_eq (actions_pop hpop))
  | wake =>
    refine hsilent (h.silent (step_closed_eq consumer (by simp) (by simp)) fun flush _ hflush => ?_)
    exact hflush.wake henabled.1
  | fire =>
    refine h.plain (fun effect heffect => ?_) (step_closed_eq consumer (by simp) (by simp))
      fun flush _ hflush => hflush.fire hinvariant.flow henabled.1
    rcases fire_effects consumer effect heffect with rfl | rfl <;> trivial
  | clock now => exact hsilent (h.silent rfl fun flush _ hflush => hflush.perm rfl rfl (.refl _))
  | settle id outcome =>
    refine hsilent (h.silent (step_closed_eq consumer (by simp) (by simp)) fun flush _ hflush => ?_)
    exact hflush.settle id outcome
  | uploaderClosed outcome =>
    refine hsilent (h.silent (step_closed_eq consumer (by simp) (by simp)) fun flush _ hflush => ?_)
    exact hflush.endUploaderClose outcome

end Ending

theorem Run.ending {fresh : Aggregation} (hfresh : fresh.Empties) {options : ConsumerOptions}
    {now : Binary64} (h : Run (Consumer.create options fresh now) trace consumer) :
    Ending trace [] consumer := by
  induction h with
  | start => exact .start options fresh now
  | step hrun event henabled ih =>
    obtain ⟨ended, uploaded, hinvariant⟩ := hrun.invariant hfresh
    exact ih.step hinvariant henabled

end Consumer
end MetricPipeline
