import Mathlib.Logic.Function.Iterate
import MetricPipeline.Proofs.Consumer.Conclusion
import MetricPipeline.Publisher

/-! What a publisher uploads through is closed by who made it. An uploader or a client of the caller's is left
alone, and the client of a connection that the publisher made is destroyed once, by its shutdown. -/

namespace MetricPipeline

namespace Connection

/-- A connection that was just made, with a client of its own. -/
def fresh (config : ConnectionConfig) : Connection := ⟨config, true, false, 0⟩

theorem close_close (connection : Connection) : connection.close.close = connection.close := by
  have hclosed : connection.close.closed = true := by
    unfold close
    split_ifs with h
    · exact h
    · rfl
    · rfl
  exact if_pos hclosed

/-- However often it is called, the first close is the one that counts. -/
theorem close_iterate_succ (connection : Connection) (n : Nat) :
    close^[n + 1] connection = connection.close := by
  rw [Function.iterate_succ_apply]
  exact Function.iterate_fixed connection.close_close n

theorem create_eq_ok {config : ConnectionConfig} {connection : Connection} (h : create config = .ok connection) :
    connection = fresh config := by
  unfold create at h
  split_ifs at h
  exact (Except.ok.inj h).symm

theorem ofString_eq_ok {text : String} {connection : Connection} (h : ofString text = .ok connection) :
    ∃ config, connection = fresh config := by
  unfold ofString at h
  cases hurl : Url.parse? text with
  | none =>
    rw [hurl] at h
    cases h
  | some url =>
    rw [hurl] at h
    dsimp only at h
    split_ifs at h
    exact ⟨_, create_eq_ok h⟩

theorem destroyed_of_owned (config : ConnectionConfig) (n : Nat) :
    (close^[n] (fresh config)).owned = true ∧ (close^[n] (fresh config)).destroyed = min n 1 := by
  cases n with
  | zero => exact ⟨rfl, rfl⟩
  | succ n =>
    rw [close_iterate_succ, Nat.min_eq_right (Nat.succ_pos n)]
    exact ⟨rfl, rfl⟩

theorem destroyed_of_made {connection : Connection} (n : Nat)
    (h : (∃ config, create config = .ok connection) ∨ ∃ text, ofString text = .ok connection) :
    (close^[n] connection).destroyed = min n 1 := by
  obtain ⟨config, rfl⟩ : ∃ config, connection = fresh config := by
    rcases h with ⟨config, hcreate⟩ | ⟨text, hstring⟩
    · exact ⟨config, create_eq_ok hcreate⟩
    · exact ofString_eq_ok hstring
  exact (destroyed_of_owned config n).2

theorem destroyed_of_client (config : ConnectionConfig) (n : Nat) :
    (close^[n] (ofClient config)).config = config ∧ (close^[n] (ofClient config)).owned = false ∧
      (close^[n] (ofClient config)).destroyed = 0 := by
  cases n with
  | zero => exact ⟨rfl, rfl, rfl⟩
  | succ n =>
    rw [close_iterate_succ]
    exact ⟨rfl, rfl, rfl⟩

end Connection

namespace Uploader

theorem close_iterate_connection (connection : Connection) (n : Nat) :
    close^[n] (.connection connection) = .connection (Connection.close^[n] connection) := by
  have hcommutes : Function.Semiconj Uploader.connection Connection.close close := fun _ => rfl
  exact (hcommutes.iterate_right n connection).symm

/-- What options ask for, before anything has been closed. -/
def Fresh (options : PublisherOptions) (uploader : Uploader) : Prop :=
  match options.uploader?, options.client? with
  | some _, _ => uploader = .own 0
  | none, some client => uploader = .connection (.ofClient client)
  | none, none => ∃ config, uploader = .connection (.fresh config)

theorem exists_of_map_connection {made : Except ConnectionError Connection} {uploader : Uploader}
    (hmade : ∀ connection, made = .ok connection → ∃ config, connection = .fresh config)
    (h : made.map .connection = .ok uploader) : ∃ config, uploader = .connection (.fresh config) := by
  cases made with
  | error error => cases h
  | ok connection =>
    obtain ⟨config, rfl⟩ := hmade connection rfl
    exact ⟨config, (Except.ok.inj h).symm⟩

theorem fresh_of_ofOptions {options : PublisherOptions} {uploader : Uploader}
    (h : ofOptions options = .ok uploader) : Fresh options uploader := by
  unfold ofOptions at h
  unfold Fresh
  cases huploader : options.uploader? with
  | some callFailure =>
    rw [huploader] at h
    exact (Except.ok.inj h).symm
  | none =>
    rw [huploader] at h
    cases hclient : options.client? with
    | some client =>
      rw [hclient] at h
      exact (Except.ok.inj h).symm
    | none =>
      rw [hclient] at h
      rcases hconnection : options.connection? with _ | (config | text)
      · rw [hconnection] at h
        exact exists_of_map_connection (fun _ hmade => ⟨_, Connection.create_eq_ok hmade⟩) h
      · rw [hconnection] at h
        exact exists_of_map_connection (fun _ hmade => ⟨_, Connection.create_eq_ok hmade⟩) h
      · rw [hconnection] at h
        exact exists_of_map_connection (fun _ hmade => Connection.ofString_eq_ok hmade) h

end Uploader

namespace Publisher

open Trace

/-- The publisher was built with these options, whether or not an environment adds to them. -/
inductive Built (options : PublisherOptions) (publisher : Publisher) : Prop where
  | create {now : Binary64} {line : LogLine} (h : create options now = .ok (publisher, line)) :
    Built options publisher
  | ofEnvironment {registry : Registry} {source : Untyped} {now : Binary64} {line : LogLine}
    (h : ofEnvironment registry source options now = .ok (publisher, line)) : Built options publisher

theorem create_eq_ok_iff {options : PublisherOptions} {now : Binary64} {publisher : Publisher}
    {line : LogLine} : create options now = .ok (publisher, line) ↔
      ∃ settings uploader, Settings.parse options.settings = .ok settings ∧
        Uploader.ofOptions options = .ok uploader ∧
        publisher = ⟨Consumer.create (consumerOptions options settings) (aggregation options settings) now,
          uploader, some component⟩ ∧
        line = startLine settings := by
  unfold create
  cases Settings.parse options.settings with
  | error issues => simp
  | ok settings =>
    dsimp only
    cases Uploader.ofOptions options with
    | error error => simp
    | ok uploader => simp [eq_comm]

/-- A publisher begins with a new consumer, which owns what is not the caller's uploader. -/
theorem Built.start {options : PublisherOptions} {publisher : Publisher} (h : Built options publisher) :
    Uploader.Fresh options publisher.uploader ∧ ∃ consumerOptions aggregation now,
      publisher.consumer = Consumer.create consumerOptions aggregation now ∧
      consumerOptions.ownsUploader = options.uploader?.isNone := by
  cases h with
  | create h =>
    obtain ⟨settings, uploader, -, huploader, rfl, -⟩ := create_eq_ok_iff.1 h
    exact ⟨Uploader.fresh_of_ofOptions huploader, _, _, _, rfl, rfl⟩
  | @ofEnvironment registry source now line h =>
    unfold Publisher.ofEnvironment at h
    cases hparse : Environment.parse registry source with
    | error issues =>
      rw [hparse] at h
      cases h
    | ok environment =>
      rw [hparse] at h
      obtain ⟨settings, uploader, -, huploader, rfl, -⟩ := create_eq_ok_iff.1 h
      have hfresh := Uploader.fresh_of_ofOptions huploader
      -- an environment gives no uploader and no client
      exact ⟨hfresh, _, _, _, rfl, rfl⟩

/-- Any events in an order in which they can come, with the effects that they have. -/
inductive Run (start : Publisher) : List Effect → Publisher → Prop where
  | start : Run start [] start
  | step {trace : List Effect} {publisher : Publisher} (h : Run start trace publisher) (event : Consumer.Event)
    (henabled : publisher.consumer.Enabled event) :
    Run start (trace ++ (publisher.step event).2) (publisher.step event).1

theorem foldl_closeUploaderFor (uploader : Uploader) (effects : List Effect) :
    effects.foldl closeUploaderFor uploader = Uploader.close^[(tally effects).1] uploader := by
  induction effects generalizing uploader with
  | nil => rfl
  | cons effect rest ih =>
    have hcloses : (tally (effect :: rest)).1 = (tally rest).1 + effect.tally.1 := by
      rw [tally, List.map_cons, List.sum_cons, Prod.fst_add, Nat.add_comm]
      rfl
    rw [List.foldl_cons, ih, hcloses]
    cases effect with
    | closed call outcome =>
      have hnone : (Effect.closed call outcome).tally.1 = 0 := by
        rw [Effect.tally]
        split_ifs <;> rfl
      rw [hnone]
      rfl
    | _ => rfl

theorem Run.consumer {start publisher : Publisher} {trace : List Effect} (h : Run start trace publisher) :
    Consumer.Run start.consumer trace publisher.consumer := by
  induction h with
  | start => exact .start
  | step _ event henabled ih => exact ih.step event henabled

/-- What a publisher uploads through has been closed as often as its consumer asked for. -/
theorem Run.uploader_eq {start publisher : Publisher} {trace : List Effect} (h : Run start trace publisher) :
    publisher.uploader = Uploader.close^[(tally trace).1] start.uploader := by
  induction h with
  | start => rfl
  | step _ event _ ih =>
    show List.foldl closeUploaderFor _ _ = _
    rw [foldl_closeUploaderFor, ih, ← Function.iterate_add_apply, Nat.add_comm, ← Prod.fst_add, ← tally_append]
    rfl

/-- Whatever a consumer can do it does as part of its publisher. -/
theorem Run.of_consumer {start : Publisher} {trace : List Effect} {consumer : Consumer}
    (h : Consumer.Run start.consumer trace consumer) :
    ∃ publisher, Run start trace publisher ∧ publisher.consumer = consumer := by
  induction h with
  | start => exact ⟨start, .start, rfl⟩
  | step _ event henabled ih =>
    obtain ⟨publisher, hrun, rfl⟩ := ih
    exact ⟨_, hrun.step event henabled, rfl⟩

/-- An uploader of the caller's is never closed, and then there is no connection. A client of the caller's is
never destroyed. The one client that a publisher makes is destroyed once: not before close is called, and by
the time that the first call, which is number zero, is settled, or that nothing is left to do but to wait for
the uploader. Closing an uploader is closing its connection, which destroys its client at the first of any
number of closes, through whichever uploaders they come, if it made the client, and else never. -/
theorem run_respects_ownership (options : PublisherOptions) (start publisher : Publisher) (trace : List Effect)
    (hbuilt : Built options start) (hrun : Run start trace publisher) :
    (options.uploader?.isSome = true → publisher.uploader = .own 0) ∧
    (options.uploader? = none → ∀ client, options.client? = some client →
      ∃ connection, publisher.uploader = .connection connection ∧ connection.config = client ∧
        connection.owned = false ∧ connection.destroyed = 0) ∧
    (options.uploader? = none → options.client? = none →
      ∃ connection, publisher.uploader = .connection connection ∧ connection.owned = true ∧
        connection.destroyed ≤ 1 ∧
        ((∀ call, .closeCalled call ∉ trace) → connection.destroyed = 0) ∧
        (∀ outcome, .closed 0 outcome ∈ trace → connection.destroyed = 1) ∧
        (∀ call, .closeCalled call ∈ trace → publisher.consumer.jobs.toList = [] →
          publisher.consumer.timer = .off → connection.destroyed = 1)) ∧
    (∀ connection n, Uploader.close^[n] (.connection connection) =
      .connection (Connection.close^[n] connection)) ∧
    (∀ connection n, ((∃ config, Connection.create config = .ok connection) ∨
        ∃ text, Connection.ofString text = .ok connection) →
      (Connection.close^[n] connection).destroyed = min n 1) ∧
    ∀ client n, (Connection.close^[n] (.ofClient client)).destroyed = 0 := by
  obtain ⟨hfresh, consumerOptions, aggregation, now, hconsumer, howns⟩ := hbuilt.start
  have hconcluding : Consumer.Concluding trace [] publisher.consumer :=
    Consumer.Run.concluding (hconsumer ▸ hrun.consumer)
  have hoptions : publisher.consumer.options.ownsUploader = options.uploader?.isNone := by
    rw [hrun.consumer.options_eq, hconsumer]
    exact howns
  rw [hrun.uploader_eq]
  refine ⟨fun hsome => ?_, fun hnone client hclient => ?_, fun hnone hclient => ?_,
    Uploader.close_iterate_connection, fun connection n => Connection.destroyed_of_made n,
    fun client n => (Connection.destroyed_of_client client n).2.2⟩
  · obtain ⟨callFailure, huploader⟩ := Option.isSome_iff_exists.1 hsome
    rw [Uploader.Fresh, huploader] at hfresh
    rw [huploader] at hoptions
    rw [hconcluding.closes_of_lent hoptions, hfresh]
    rfl
  · rw [Uploader.Fresh, hnone, hclient] at hfresh
    rw [hfresh, Uploader.close_iterate_connection]
    exact ⟨_, rfl, Connection.destroyed_of_client client _⟩
  · rw [Uploader.Fresh, hnone, hclient] at hfresh
    rw [hnone] at hoptions
    obtain ⟨config, huploader⟩ := hfresh
    obtain ⟨howned, hdestroyed⟩ := Connection.destroyed_of_owned config (tally trace).1
    rw [huploader, Uploader.close_iterate_connection]
    refine ⟨_, rfl, howned, ?_, fun hnever => ?_, fun outcome hsettled => ?_,
      fun call hcalled hjobs htimer => ?_⟩
    · rw [hdestroyed]
      exact Nat.min_le_right _ 1
    · have hzero : (tally trace).1 = 0 :=
        Nat.eq_zero_of_not_pos fun hpos => hnever 0 (hconcluding.called_of_closes hpos)
      rw [hdestroyed, hzero]
      rfl
    · rw [hdestroyed, hconcluding.closes_of_settled hoptions hsettled]
      rfl
    · rw [hdestroyed, hconcluding.closes_of_rest hoptions hcalled hjobs htimer]
      rfl

/-- Calls of close that were settled, in order, with their outcomes. -/
def settledCloses (trace : List Effect) : List (Nat × Outcome) :=
  trace.filterMap fun
    | .closed call outcome => some (call, outcome)
    | _ => none

theorem mem_settledCloses {trace : List Effect} {call : Nat} {outcome : Outcome}
    (h : (call, outcome) ∈ settledCloses trace) : .closed call outcome ∈ trace := by
  obtain ⟨effect, hmem, hsome⟩ := List.mem_filterMap.1 h
  cases effect with
  | closed other otherOutcome =>
    obtain ⟨rfl, rfl⟩ := Prod.mk.inj (Option.some.inj hsome)
    exact hmem
  | _ => cases hsome

/-- Two overlapping calls of close, an upload that never ends, and a timeout that runs out. -/
theorem run_respects_ownership_timeout :
    ∃ (start publisher : Publisher) (trace : List Effect),
      Built {} start ∧ Run start trace publisher ∧ .closed 1 .fulfilled ∈ trace ∧
      .closed 0 .fulfilled ∈ trace ∧ publisher.consumer.unsettled = [0] ∧
      ∃ connection, publisher.uploader = .connection connection ∧ connection.destroyed = 1 := by
  have hsettings : Settings.parse ({} : PublisherOptions).settings = .ok Settings.defaults := by decide +kernel
  let start : Publisher := ⟨Consumer.create (consumerOptions {} Settings.defaults)
    (aggregation {} Settings.defaults) (.zero false), .connection (.fresh {}), some component⟩
  have hbuilt : Built {} start :=
    .create (create_eq_ok_iff.2 ⟨Settings.defaults, _, hsettings, rfl, rfl, rfl⟩)
  obtain ⟨trace, consumer, hconsumer, hsettled, hunsettled⟩ : ∃ trace consumer,
      Consumer.Run start.consumer trace consumer ∧
      settledCloses trace = [(1, .fulfilled), (0, .fulfilled)] ∧ consumer.unsettled = [0] := by
    have hstart : Consumer.Run start.consumer [] _ := .start
    have hcalled := hstart.step (.turn [.publish (.collection Aggregation.twoCounts), .close, .close]) rfl
    have hlate := (hcalled.jobs 7).step (.clock (.ofNat 5000)) (by decide +kernel)
    have htimedOut := (hlate.step .fire (by decide +kernel)).jobs 8
    have hclosed := (htimedOut.step (.uploaderClosed .fulfilled) (by decide +kernel)).jobs 1
    exact ⟨_, _, hclosed, by decide +kernel, by decide +kernel⟩
  obtain ⟨publisher, hrun, rfl⟩ := Run.of_consumer hconsumer
  have hfirst : .closed 0 .fulfilled ∈ trace := mem_settledCloses (by rw [hsettled]; decide)
  have hsecond : .closed 1 .fulfilled ∈ trace := mem_settledCloses (by rw [hsettled]; decide)
  obtain ⟨-, -, howned, -⟩ := run_respects_ownership {} start publisher trace hbuilt hrun
  obtain ⟨connection, huploader, -, -, -, hdestroyed, -⟩ := howned rfl rfl
  exact ⟨start, publisher, trace, hbuilt, hrun, hsecond, hfirst, hunsettled, connection, huploader,
    hdestroyed _ hfirst⟩

end Publisher
end MetricPipeline
