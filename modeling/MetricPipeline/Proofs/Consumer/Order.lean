import MetricPipeline.Proofs.Consumer.Run

/-! The order that a trace keeps. A flush finds everything that was accepted before its call in front of its
drain, nothing is accepted behind a final drain, and only drains are ever discarded. -/

namespace MetricPipeline

namespace Trace

structure Orderly (trace : List Effect) : Prop where
  accepted : accepted trace = collectionsOf (kept trace)
  called : ∀ flush, .drain flush ∈ kept trace → .flushCalled flush ∈ trace
  order : ∀ flush before after earlier later, trace = before ++ .flushCalled flush :: after →
    kept trace = earlier ++ .drain flush :: later → Trace.accepted before <+: collectionsOf earlier
  final : ∀ flush earlier later, kept trace = earlier ++ .drain flush :: later →
    flush.origin = .final → ∀ task ∈ later, task.IsDrain
  discarded : ∀ before removed after, trace = before ++ .discarded removed :: after →
    kept before = kept (before ++ [.discarded removed]) ++ removed ∧ ∀ task ∈ removed, task.IsDrain

/-- Effects that tell neither of a call of flush nor of what enters the queue or is removed from it. -/
def Neutral : Effect → Prop
  | .flushCalled _ | .queued _ | .discarded _ => False
  | _ => True

theorem accepted_concat_queued (trace : List Effect) (task : Task) :
    accepted (trace ++ [.queued task]) = accepted trace ++ task.collection?.toList := by
  rw [accepted_append]
  cases h : task.collection? <;> simp [accepted, h]

theorem accepted_concat_of_ne (trace : List Effect) {effect : Effect}
    (h : ∀ task, effect ≠ .queued task) : accepted (trace ++ [effect]) = accepted trace := by
  have hnil : accepted [effect] = [] := by
    cases effect with
    | queued task => exact absurd rfl (h task)
    | _ => rfl
  rw [accepted_append, hnil, List.append_nil]

theorem accepted_prefix {trace before after : List Effect} (h : trace = before ++ after) :
    accepted before <+: accepted trace := by
  rw [h, accepted_append]
  exact List.prefix_append _ _

namespace Orderly

variable {trace : List Effect}

theorem nil : Orderly [] where
  accepted := rfl
  called _ h := absurd h List.not_mem_nil
  order _ _ _ _ _ h := absurd h (by simp)
  final _ _ _ h := absurd h (by simp [kept])
  discarded _ _ _ h := absurd h (by simp)

theorem neutral (h : Orderly trace) {effect : Effect} (heffect : Neutral effect) :
    Orderly (trace ++ [effect]) := by
  have hkept : kept (trace ++ [effect]) = kept trace := by
    rw [kept_concat]
    cases effect <;> simp_all [Neutral, keep]
  have hqueued : ∀ task, effect ≠ .queued task := by
    rintro task rfl
    exact heffect
  refine ⟨?_, ?_, ?_, ?_, ?_⟩
  · rw [accepted_concat_of_ne trace hqueued, hkept]
    exact h.accepted
  · intro flush hflush
    rw [hkept] at hflush
    exact List.mem_append_left _ (h.called flush hflush)
  · intro flush before after earlier later htrace htasks
    rw [hkept] at htasks
    obtain ⟨rest, hrest⟩ := exists_split_of_ne htrace fun heq => by rw [← heq] at heffect; exact heffect
    exact h.order flush before rest earlier later hrest htasks
  · intro flush earlier later htasks
    rw [hkept] at htasks
    exact h.final flush earlier later htasks
  · intro before removed after htrace
    obtain ⟨rest, hrest⟩ := exists_split_of_ne htrace fun heq => by rw [← heq] at heffect; exact heffect
    exact h.discarded before removed rest hrest

theorem neutral_append (h : Orderly trace) {effects : List Effect}
    (heffects : ∀ effect ∈ effects, Neutral effect) : Orderly (trace ++ effects) := by
  induction effects using List.reverseRecOn with
  | nil => rwa [List.append_nil]
  | append_singleton effects effect ih =>
    rw [← List.append_assoc]
    exact (ih fun e he => heffects e (List.mem_append_left _ he)).neutral (heffects effect (by simp))

/-- A new flush is called. -/
theorem call (h : Orderly trace) {flush : Flush} (hnew : .flushCalled flush ∉ trace) :
    Orderly (trace ++ [.flushCalled flush]) := by
  have hkept : kept (trace ++ [.flushCalled flush]) = kept trace := kept_concat trace _
  refine ⟨?_, ?_, ?_, ?_, ?_⟩
  · rw [accepted_concat_of_ne trace (by simp), hkept]
    exact h.accepted
  · intro other hother
    rw [hkept] at hother
    exact List.mem_append_left _ (h.called other hother)
  · intro other before after earlier later htrace htasks
    rw [hkept] at htasks
    rcases concat_eq_split.1 htrace with ⟨-, heq, -⟩ | ⟨rest, -, hrest⟩
    · obtain rfl : other = flush := Effect.flushCalled.inj heq
      exact absurd (h.called other (by simp [htasks])) hnew
    · exact h.order other before rest earlier later hrest htasks
  · intro other earlier later htasks
    rw [hkept] at htasks
    exact h.final other earlier later htasks
  · intro before removed after htrace
    obtain ⟨rest, hrest⟩ := exists_split_of_ne htrace (by simp)
    exact h.discarded before removed rest hrest

/-- A task enters the queue: the drain of a flush that was called, or what is added before any final
drain. -/
theorem queue (h : Orderly trace) {task : Task}
    (hcalled : ∀ flush, task = .drain flush → .flushCalled flush ∈ trace)
    (hfinal : task.IsDrain ∨ ∀ flush, .drain flush ∈ kept trace → flush.origin ≠ .final) :
    Orderly (trace ++ [.queued task]) := by
  have hkept : kept (trace ++ [.queued task]) = kept trace ++ [task] := kept_concat trace _
  refine ⟨?_, ?_, ?_, ?_, ?_⟩
  · rw [accepted_concat_queued, hkept, h.accepted, collectionsOf, collectionsOf, List.filterMap_append]
    cases hc : task.collection? <;> simp [hc]
  · intro flush hflush
    rw [hkept, List.mem_append, List.mem_singleton] at hflush
    rcases hflush with hflush | hflush
    · exact List.mem_append_left _ (h.called flush hflush)
    · exact List.mem_append_left _ (hcalled flush hflush.symm)
  · intro flush before after earlier later htrace htasks
    rw [hkept] at htasks
    obtain ⟨rest, hrest⟩ := exists_split_of_ne htrace (by simp)
    rcases concat_eq_split.1 htasks with ⟨rfl, -, -⟩ | ⟨later', -, hlater⟩
    · rw [← h.accepted]
      exact accepted_prefix hrest
    · exact h.order flush before rest earlier later' hrest hlater
  · intro flush earlier later htasks horigin other hother
    rw [hkept] at htasks
    rcases concat_eq_split.1 htasks with ⟨-, -, rfl⟩ | ⟨later', rfl, hlater⟩
    · cases hother
    · rcases List.mem_append.1 hother with hother | hother
      · exact h.final flush earlier later' hlater horigin other hother
      · rw [List.mem_singleton.1 hother]
        exact hfinal.resolve_right fun hnone => hnone flush (by simp [hlater]) horigin
  · intro before removed after htrace
    obtain ⟨rest, hrest⟩ := exists_split_of_ne htrace (by simp)
    exact h.discarded before removed rest hrest

/-- The last tasks are removed from the queue, drains all of them. -/
theorem discard (h : Orderly trace) {left removed : List Task} (htasks : kept trace = left ++ removed)
    (hdrains : ∀ task ∈ removed, task.IsDrain) : Orderly (trace ++ [.discarded removed]) := by
  have hkept : kept (trace ++ [.discarded removed]) = left := by
    rw [kept_concat, keep, htasks, List.length_append, Nat.add_sub_cancel, List.take_left' rfl]
  have hnone : removed.filterMap Task.collection? = [] := by
    rw [List.filterMap_eq_nil_iff]
    intro task htask
    have := hdrains task htask
    cases task with
    | add submission => exact absurd this id
    | drain flush => rfl
  refine ⟨?_, ?_, ?_, ?_, ?_⟩
  · rw [accepted_concat_of_ne trace (by simp), hkept, h.accepted, htasks, collectionsOf, collectionsOf,
      List.filterMap_append, hnone, List.append_nil]
  · intro flush hflush
    rw [hkept] at hflush
    exact List.mem_append_left _ (h.called flush (by simp [htasks, hflush]))
  · intro flush before after earlier later htrace hleft
    rw [hkept] at hleft
    obtain ⟨rest, hrest⟩ := exists_split_of_ne htrace (by simp)
    exact h.order flush before rest earlier (later ++ removed) hrest (by simp [htasks, hleft])
  · intro flush earlier later hleft horigin task htask
    rw [hkept] at hleft
    exact h.final flush earlier (later ++ removed) (by simp [htasks, hleft]) horigin task
      (List.mem_append_left _ htask)
  · intro before other after htrace
    rcases concat_eq_split.1 htrace with ⟨rfl, heq, -⟩ | ⟨rest, -, hrest⟩
    · obtain rfl : other = removed := Effect.discarded.inj heq
      rw [hkept]
      exact ⟨htasks, hdrains⟩
    · exact h.discarded before other rest hrest

end Orderly
end Trace
end MetricPipeline
