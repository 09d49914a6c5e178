import MetricPipeline.Proofs.Consumer.Flow
import MetricPipeline.Proofs.Consumer.Order

/-! A flush that was called is begun once: it waits for room in the queue, is about to look for it, or its
drain has entered the queue. So no two drains are of one flush. -/

namespace MetricPipeline

/-- The flush that looks for room in the queue again. -/
def Action.recheck? : Action → Option Flush
  | .recheck flush => some flush
  | _ => none

namespace Trace

/-- Flushes whose drains have entered the queue, in order. -/
def queuedDrains (trace : List Effect) : List Flush :=
  trace.filterMap fun
    | .queued task => task.flush?
    | _ => none

theorem queuedDrains_append (trace effects : List Effect) :
    queuedDrains (trace ++ effects) = queuedDrains trace ++ queuedDrains effects := List.filterMap_append ..

/-- The drains that were not removed are among those that entered the queue. -/
theorem drains_kept_sublist (trace : List Effect) :
    ((kept trace).filterMap Task.flush?).Sublist (queuedDrains trace) := by
  induction trace using List.reverseRecOn with
  | nil => exact List.Sublist.refl _
  | append_singleton trace effect ih =>
    rw [kept_concat, queuedDrains_append]
    cases effect with
    | queued task =>
      rw [keep, List.filterMap_append]
      exact ih.append (by cases task <;> exact List.Sublist.refl _)
    | discarded removed =>
      exact ((List.take_sublist _ _).filterMap _).trans (ih.trans (List.sublist_append_left _ _))
    | _ => exact ih.trans (List.sublist_append_left _ _)

end Trace

namespace Consumer

open Trace

/-- Flushes that wait for room in the queue, are about to look for it, or have found it. -/
def begun (trace : List Effect) (active : List Action) (consumer : Consumer) : List Flush :=
  consumer.waiting ++ (actions active consumer).filterMap Action.recheck? ++ queuedDrains trace

structure Begun (trace : List Effect) (flushes : List Flush) : Prop where
  called : ∀ flush ∈ flushes, .flushCalled flush ∈ trace
  nodup : flushes.Nodup

/-- Nothing but a queued drain matters among effects. -/
theorem begun_append (trace : List Effect) (active : List Action) (consumer : Consumer)
    {effects : List Effect} (hnone : queuedDrains effects = []) :
    begun (trace ++ effects) active consumer = begun trace active consumer := by
  rw [begun, begun, queuedDrains_append, hnone, List.append_nil]

namespace Begun

variable {trace trace' : List Effect} {flushes flushes' : List Flush} {active : List Action}
  {consumer : Consumer}

theorem perm (h : Begun trace flushes) (htrace : trace <+: trace') (hperm : flushes'.Perm flushes) :
    Begun trace' flushes' :=
  ⟨fun flush hflush => htrace.subset (h.called flush (hperm.subset hflush)), hperm.nodup_iff.2 h.nodup⟩

theorem insert (h : Begun trace flushes) (htrace : trace <+: trace') {flush : Flush}
    (hcalled : .flushCalled flush ∈ trace) (hnew : flush ∉ flushes)
    (hperm : flushes'.Perm (flush :: flushes)) : Begun trace' flushes' := by
  refine ⟨fun flush' hflush => htrace.subset ?_, hperm.nodup_iff.2 (List.nodup_cons.2 ⟨hnew, h.nodup⟩)⟩
  rcases List.mem_cons.1 (hperm.subset hflush) with rfl | hflush
  · exact hcalled
  · exact h.called flush' hflush

theorem grow (h : Begun trace (begun trace active consumer)) {effects : List Effect}
    (hnone : queuedDrains effects = []) :
    Begun (trace ++ effects) (begun (trace ++ effects) active consumer) :=
  h.perm (List.prefix_append _ _) (List.Perm.of_eq (begun_append trace active consumer hnone))

theorem neutral (h : Begun trace (begun trace active consumer)) {effects : List Effect}
    (heffects : ∀ effect ∈ effects, Neutral effect) :
    Begun (trace ++ effects) (begun (trace ++ effects) active consumer) := by
  refine h.grow (List.filterMap_eq_nil_iff.2 fun effect he => ?_)
  have := heffects effect he
  cases effect <;> simp_all [Neutral]

theorem later (h : Begun trace (begun trace active consumer)) (delay : Nat) (action : Action)
    (hrecheck : action.recheck? = none) :
    Begun trace (begun trace active (consumer.later delay action)) := by
  refine h.perm List.prefix_rfl (List.Perm.of_eq ?_)
  rw [begun, begun, actions_later, List.filterMap_append]
  simp [hrecheck, Consumer.later]

/-- A flush begins to wait. -/
theorem wait (h : Begun trace (begun trace active consumer)) {flush : Flush}
    (hcalled : .flushCalled flush ∈ trace) (hnew : flush ∉ begun trace active consumer) :
    Begun trace (begun trace active { consumer with waiting := consumer.waiting ++ [flush] }) := by
  refine h.insert List.prefix_rfl hcalled hnew ?_
  show (consumer.waiting ++ [flush] ++ (actions active consumer).filterMap Action.recheck? ++
    queuedDrains trace).Perm _
  rw [begun, List.append_assoc, List.append_assoc, List.append_assoc]
  exact List.perm_middle

/-- The drain of a flush enters the queue. -/
theorem queue (h : Begun trace (begun trace active consumer)) {flush : Flush}
    (hcalled : .flushCalled flush ∈ trace) (hnew : flush ∉ begun trace active consumer) :
    Begun (trace ++ [.queued (.drain flush)])
      (begun (trace ++ [.queued (.drain flush)]) active consumer) := by
  refine h.insert (List.prefix_append _ _) hcalled hnew ?_
  rw [begun, begun, queuedDrains_append, ← List.append_assoc]
  exact List.perm_append_singleton _ _

/-- The flush that has waited longest is about to look for room. -/
theorem wake (h : Begun trace (begun trace active consumer)) {flush : Flush} {waiting : List Flush}
    (hwaiting : consumer.waiting = flush :: waiting) :
    Begun trace (begun trace active (({ consumer with waiting }).later 0 (.recheck flush))) := by
  refine h.perm List.prefix_rfl ?_
  have hactions : actions active (({ consumer with waiting }).later 0 (.recheck flush)) =
      actions active consumer ++ [.recheck flush] := actions_later active { consumer with waiting } 0 _
  rw [begun, begun, hactions, hwaiting, List.filterMap_append, ← List.append_assoc]
  exact (List.perm_append_singleton flush _).append_right _

/-- The job under way is taken from the jobs. -/
theorem pop (h : Begun trace (begun trace [] consumer)) {action : Action} {jobs : Fifo Job}
    (hpop : consumer.jobs.pop? = some (⟨0, action⟩, jobs)) :
    Begun trace (begun trace [action] { consumer with jobs }) := by
  refine h.perm List.prefix_rfl (List.Perm.of_eq ?_)
  rw [begun, begun, actions_pop hpop]

theorem rotate (h : Begun trace (begun trace [] consumer)) {delay : Nat} {action : Action}
    {jobs : Fifo Job} (hpop : consumer.jobs.pop? = some (⟨delay + 1, action⟩, jobs)) :
    Begun trace (begun trace [] (({ consumer with jobs }).later delay action)) := by
  exact h.perm List.prefix_rfl ((((actions_rotate hpop).filterMap _).append_left _).append_right _)

/-- The action under way is over. -/
theorem finish (h : Begun trace (begun trace active consumer)) : Begun trace (begun trace [] consumer) := by
  have hsublist : (begun trace [] consumer).Sublist (begun trace active consumer) := by
    refine ((List.Sublist.filterMap _ ?_).append_left _).append_right _
    exact List.sublist_append_right _ _
  exact ⟨fun flush hflush => h.called flush (hsublist.subset hflush), h.nodup.sublist hsublist⟩

/-- A flush that is looking for room is not begun elsewhere. -/
theorem recheck {flush : Flush} (h : Begun trace (begun trace [.recheck flush] consumer)) :
    .flushCalled flush ∈ trace ∧ flush ∉ begun trace [] consumer := by
  have hperm : (begun trace [.recheck flush] consumer).Perm (flush :: begun trace [] consumer) := by
    rw [begun, begun, List.append_assoc, List.append_assoc]
    exact List.perm_middle
  exact ⟨h.called flush (hperm.symm.subset List.mem_cons_self),
    (List.nodup_cons.1 (hperm.nodup_iff.1 h.nodup)).1⟩

/-- No two drains that were not removed are of one flush. -/
theorem nodup_kept (h : Begun trace (begun trace active consumer)) :
    ((kept trace).filterMap Task.flush?).Nodup :=
  ((List.nodup_append.1 h.nodup).2.1).sublist (drains_kept_sublist trace)

end Begun
end Consumer
end MetricPipeline
