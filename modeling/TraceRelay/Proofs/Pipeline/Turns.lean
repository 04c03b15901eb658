import TraceRelay.Agent
/-! What a turn can be and what it leaves, guards included. A turn that is none of these is refused. -/
namespace TraceRelay.Agent
open Aggregate (Kind Stamp)

inductive Turned (a : Agent) : Turn → Agent → Prop
  | dispatch (t : Tree) : Turned a (.dispatch t) { a with pipeline := a.pipeline.dispatch t }
  | absorb {k p} (unfinished : a.pipeline.stage k ≠ .finished) (absorbed : a.pipeline.absorb? k = some p) :
      Turned a (.absorb k) { a with pipeline := p }
  | tick {k} (stamp : Stamp) (running : a.pipeline.stage k = .running) :
      Turned a (.tick k stamp) { a with pipeline := (a.pipeline.flushOf stamp k).2 }
  | askShutdown (first : a.shutdown = .notAsked) : Turned a .askShutdown { a with shutdown := .background }
  | backgroundJoined (asked : a.shutdown = .background) :
      Turned a .backgroundJoined { a with shutdown := .aggregators }
  | closeAggregator {k} (asked : a.shutdown = .aggregators) (running : a.pipeline.stage k = .running) :
      Turned a (.closeAggregator k) { a with pipeline := a.pipeline.close k }
  | finishAggregator {k} (stamp : Stamp) (closing : a.pipeline.stage k = .closing)
      (drained : a.pipeline.drained k) :
      Turned a (.finishAggregator k stamp)
        { a with pipeline := (a.pipeline.flushOf stamp k).2.setStage .finished k }
  | aggregatorsJoined (asked : a.shutdown = .aggregators) (finished : ∀ k, a.pipeline.stage k = .finished) :
      Turned a .aggregatorsJoined { a with shutdown := .sender }
  | closeSender (asked : a.shutdown = .sender) :
      Turned a .closeSender { a with pipeline := { a.pipeline with outbox := a.pipeline.outbox.close } }
  | take {l t b} (taken : a.pipeline.outbox.take? l = some (t, b)) :
      Turned a (.take l) { a with pipeline := { a.pipeline with outbox := b } }
  | update (u : Routing.Update) : Turned a (.update u) { a with pipeline := a.pipeline.updateRouting u }
  | rollover (hour : Int64) : Turned a (.rollover hour) { a with pipeline := (a.pipeline.rollover hour).2 }

theorem guarded {c : Prop} [Decidable c] {a b : Agent} (taken : (if c then some a else none) = some b) :
    c ∧ a = b := by
  split at taken
  · exact ⟨‹c›, Option.some.inj taken⟩
  · cases taken

theorem stepTurned {a b : Agent} {t : Turn} (taken : a.step? t = some b) : Turned a t b := by
  cases t with
  | dispatch t =>
    cases taken
    exact .dispatch t
  | absorb k =>
    simp only [step?] at taken
    split at taken
    · cases taken
    · obtain ⟨p, absorbed, rfl⟩ := Option.map_eq_some_iff.mp taken
      exact .absorb ‹_› absorbed
  | tick k stamp =>
    obtain ⟨running, rfl⟩ := guarded taken
    exact .tick stamp running
  | askShutdown =>
    obtain ⟨first, rfl⟩ := guarded taken
    exact .askShutdown first
  | backgroundJoined =>
    obtain ⟨asked, rfl⟩ := guarded taken
    exact .backgroundJoined asked
  | closeAggregator k =>
    obtain ⟨⟨asked, running⟩, rfl⟩ := guarded taken
    exact .closeAggregator asked running
  | finishAggregator k stamp =>
    obtain ⟨⟨closing, drained⟩, rfl⟩ := guarded taken
    exact .finishAggregator stamp closing drained
  | aggregatorsJoined =>
    obtain ⟨⟨asked, transactions, events⟩, rfl⟩ := guarded taken
    refine .aggregatorsJoined asked fun k => ?_
    cases k with
    | transaction => exact transactions
    | event => exact events
  | closeSender =>
    obtain ⟨asked, rfl⟩ := guarded taken
    exact .closeSender asked
  | take l =>
    obtain ⟨⟨t, b⟩, popped, rfl⟩ := Option.map_eq_some_iff.mp taken
    exact .take popped
  | update u =>
    cases taken
    exact .update u
  | rollover hour =>
    cases taken
    exact .rollover hour

end TraceRelay.Agent
