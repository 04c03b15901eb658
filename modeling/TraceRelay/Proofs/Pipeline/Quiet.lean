import TraceRelay.Proofs.Pipeline.Scene
/-! Nothing feeds the aggregators but what clients send. Once their queues are drained and their tables
flushed, a flush finds nothing and changes nothing, in whatever order the two of them take their turns. -/
namespace TraceRelay
open Aggregate (Kind Stamp)

theorem Queue.emptyIff {α : Type} (q : Queue α) : q = .empty ↔ q.toList = [] := by
  obtain ⟨front, back, size, sized⟩ := q
  cases front <;> cases back <;> simp_all [Queue.empty, toList]

theorem Aggregate.Intake.settleEmpty {α : Type} [Aggregate.Totals α] {a : Aggregate.Intake α}
    (drained : a.waiting = .empty) : a.settle = a := by
  obtain ⟨capacity, waiting, stage, dropped, table⟩ := a
  cases drained
  rfl

namespace Pipeline

variable {p q : Pipeline} {k : Kind}

/-- Nothing is waiting and nothing is summed up. -/
structure Quiet (p : Pipeline) (k : Kind) : Prop where
  drained : (p.intake k).waiting = .empty
  swept : (p.intake k).table = []

theorem emptiedSwept (swept : (p.intake k).table = []) : p.emptied k = p := by
  cases k with
  | transaction =>
    change p.transactions.table = [] at swept
    rw [emptied, ← swept]
  | event =>
    change p.events.table = [] at swept
    rw [emptied, ← swept]

theorem flushQuiet (swept : (p.intake k).table = []) (stamp : Stamp) : p.flushOf stamp k = ([], p) := by
  rw [flushParts, summariesIntake, swept, emptiedSwept swept]
  rfl

theorem intakeFlush (stamp : Stamp) (p : Pipeline) (j k : Kind) : (p.flushOf stamp j).2.intake k =
    if k = j then { p.intake k with table := [] } else p.intake k := by
  rw [flushParts]
  cases j <;> cases k <;> rfl

theorem absorbQuiet (quiet : p.Quiet k) : p.absorb? k = none := by
  cases absorbed : p.absorb? k with
  | none => rfl
  | some q =>
    have own := (intakeAbsorb absorbed).1
    rw [Aggregate.Intake.absorb?, quiet.drained] at own
    cases own

theorem quietKept (same : q.intake k = p.intake k) (quiet : p.Quiet k) : q.Quiet k :=
  ⟨same ▸ quiet.drained, same ▸ quiet.swept⟩

theorem quietAbsorb {j : Kind} (quiet : p.Quiet k) (absorbed : p.absorb? j = some q) : q.Quiet k := by
  by_cases same : k = j
  · rw [← same, absorbQuiet quiet] at absorbed
    cases absorbed
  · exact quietKept ((intakeAbsorb absorbed).2 k same) quiet

theorem quietFlush {j : Kind} (stamp : Stamp) (quiet : p.Quiet k) : (p.flushOf stamp j).2.Quiet k := by
  have after := intakeFlush stamp p j k
  split at after
  · exact ⟨by rw [after, ← quiet.drained], by rw [after]⟩
  · exact quietKept after quiet

theorem quietFlushed (stamp : Stamp) (drained : p.drained k = true) : (p.flushOf stamp k).2.Quiet k := by
  rw [drainedIntake, Queue.isEmptyIff, ← Queue.emptyIff] at drained
  have after := intakeFlush stamp p k k
  rw [if_pos rfl] at after
  exact ⟨by rw [after, ← drained], by rw [after]⟩

theorem quietSetStage (stage : Aggregate.Stage) (j : Kind) (quiet : p.Quiet k) :
    (p.setStage stage j).Quiet k := by
  have after := intakeSetStage p stage j k
  split at after
  · exact ⟨by rw [after, ← quiet.drained], by rw [after, ← quiet.swept]⟩
  · exact quietKept after quiet

theorem quietClose (j : Kind) (quiet : p.Quiet k) : (p.close j).Quiet k := by
  unfold close
  split
  · exact quietSetStage .closing j quiet
  · exact quiet

theorem drainedFlush (stamp : Stamp) (p : Pipeline) (j k : Kind) :
    (p.flushOf stamp j).2.drained k = p.drained k := by
  rw [drainedIntake, drainedIntake, intakeFlush]
  split <;> rfl

theorem drainedSettled (p : Pipeline) (k : Kind) : p.settle.drained k = true := by cases k <;> rfl

theorem settleQuiet (quiet : ∀ k, p.Quiet k) : p.settle = p := by
  have transactions : p.transactions.settle = p.transactions :=
    Aggregate.Intake.settleEmpty (quiet .transaction).drained
  have events : p.events.settle = p.events := Aggregate.Intake.settleEmpty (quiet .event).drained
  rw [settle, transactions, events]

theorem flushOffers (stamp : Stamp) (p : Pipeline) (k : Kind) :
    (p.flushOf stamp k).2.outbox = (p.flushOf stamp k).1.foldl Outbound.Outbox.offer p.outbox := by
  rw [flushParts]

theorem flushSpares (stamp : Stamp) (p : Pipeline) (j : Kind) :
    (p.flushOf stamp j).2.sampled = p.sampled ∧ ∀ k, (p.flushOf stamp j).2.droppedBy k = p.droppedBy k := by
  rw [flushParts]
  cases j <;> exact ⟨rfl, fun k => by cases k <;> rfl⟩

theorem tickFlushes (stamp : Stamp) (p : Pipeline) :
    (p.tick stamp).2 = ((p.settle.flushOf stamp .transaction).2.flushOf stamp .event).2 := rfl

theorem tickTrees (stamp : Stamp) (p : Pipeline) : (p.tick stamp).1 =
    (p.settle.flushOf stamp .transaction).1 ++
      ((p.settle.flushOf stamp .transaction).2.flushOf stamp .event).1 := rfl

theorem quietTick (stamp : Stamp) (p : Pipeline) (k : Kind) : (p.tick stamp).2.Quiet k := by
  rw [tickFlushes]
  cases k with
  | transaction => exact quietFlush stamp (quietFlushed stamp (drainedSettled p .transaction))
  | event =>
    refine quietFlushed stamp ?_
    rw [drainedFlush]
    exact drainedSettled p .event

theorem tickQuiet (quiet : ∀ k, p.Quiet k) (stamp : Stamp) : p.tick stamp = ([], p) := by
  rw [tick, settleQuiet quiet, flush, flushQuiet (quiet .transaction).swept]
  dsimp only
  rw [flushQuiet (quiet .event).swept]
  rfl

/-- What a tick leaves. Its trees are offered and leave nothing to observe, whether the outbox has room or
not, and so the next tick finds nothing. -/
structure Ticked (p : Pipeline) (trees : List Tree) (q : Pipeline) : Prop where
  quiet : ∀ k, q.Quiet k
  offered : q.outbox = trees.foldl Outbound.Outbox.offer p.outbox
  sampled : q.sampled = p.sampled
  dropped : ∀ k, q.droppedBy k = p.droppedBy k
  again : ∀ later, q.tick later = ([], q)

theorem tickTicked (stamp : Stamp) (p : Pipeline) : Ticked p (p.tick stamp).1 (p.tick stamp).2 := by
  have first := flushSpares stamp p.settle .transaction
  have second := flushSpares stamp (p.settle.flushOf stamp .transaction).2 .event
  exact {
    quiet := quietTick stamp p
    offered := by
      rw [tickFlushes, tickTrees, List.foldl_append, flushOffers, flushOffers]
      rfl
    sampled := second.1.trans first.1
    dropped := fun k => ((second.2 k).trans (first.2 k)).trans (by cases k <;> rfl)
    again := tickQuiet (quietTick stamp p) }

end Pipeline

namespace Agent

variable {start a b : Agent} {done : List Kind}

/-- The aggregators take their turns, in any order. One that flushes has drained its queue before. -/
inductive Round (start : Agent) : Agent → List Kind → Prop
  | start : Round start start []
  | absorb {a b k done} (before : Round start a done) (taken : a.step? (.absorb k) = some b) :
      Round start b done
  | flush {a b k done} (stamp : Stamp) (before : Round start a done) (drained : a.pipeline.drained k = true)
      (taken : a.step? (.tick k stamp) = some b) : Round start b (k :: done)

theorem roundQuiet (round : Round start a done) : ∀ k ∈ done, a.pipeline.Quiet k := by
  induction round with
  | start => exact fun _ => nofun
  | absorb _ taken ih =>
    intro k member
    cases stepTurned taken with
    | absorb _ absorbed => exact Pipeline.quietAbsorb (ih k member) absorbed
  | flush stamp _ drained taken ih =>
    intro k member
    cases stepTurned taken with
    | tick _ running =>
      rcases List.mem_cons.mp member with rfl | member
      · exact Pipeline.quietFlushed stamp drained
      · exact Pipeline.quietFlush stamp (ih k member)

theorem roundStill (quiet : ∀ k, a.pipeline.Quiet k) (round : Round a b done) : b = a := by
  induction round with
  | start => rfl
  | absorb _ taken ih =>
    subst ih
    cases stepTurned taken with
    | absorb _ absorbed => rw [Pipeline.absorbQuiet (quiet _)] at absorbed; cases absorbed
  | flush _ _ _ taken ih =>
    subst ih
    cases stepTurned taken with
    | tick stamp => rw [Pipeline.flushQuiet (quiet _).swept]

theorem dispatchedBefore {l : Ledger} {t : Turn} (none : (l.after a t).dispatched = []) :
    l.dispatched = [] := by
  cases t with
  | dispatch => cases none
  | _ => exact none

theorem turnSilent {l : Ledger} {t : Turn} (quiet : ∀ k, a.pipeline.Quiet k) (taken : a.step? t = some b)
    (none : (l.after a t).dispatched = []) :
    (∀ k, b.pipeline.Quiet k) ∧ (l.after a t).flushed = l.flushed := by
  cases stepTurned taken with
  | dispatch => cases none
  | absorb _ absorbed => rw [Pipeline.absorbQuiet (quiet _)] at absorbed; cases absorbed
  | @tick j stamp running =>
    have still := Pipeline.flushQuiet (quiet j).swept stamp
    exact ⟨fun k => Pipeline.quietFlush stamp (quiet k), by rw [Ledger.after, still, List.nil_append]⟩
  | @finishAggregator j stamp =>
    have still := Pipeline.flushQuiet (quiet j).swept stamp
    exact ⟨fun k => Pipeline.quietSetStage .finished j (Pipeline.quietFlush stamp (quiet k)),
      by rw [Ledger.after, still, List.nil_append]⟩
  | closeAggregator => exact ⟨fun k => Pipeline.quietClose _ (quiet k), rfl⟩
  | askShutdown | backgroundJoined | aggregatorsJoined => exact ⟨quiet, rfl⟩
  | closeSender | take | update | rollover =>
    exact ⟨fun k => Pipeline.quietKept (by cases k <;> rfl) (quiet k), rfl⟩

theorem reachedSilent {l : Ledger} (quiet : ∀ k, a.pipeline.Quiet k) (reached : Reached a b l)
    (none : l.dispatched = []) : (∀ k, b.pipeline.Quiet k) ∧ l.flushed = [] := by
  induction reached with
  | start => exact ⟨quiet, rfl⟩
  | turn _ _ taken ih =>
    obtain ⟨still, silent⟩ := ih (dispatchedBefore none)
    obtain ⟨next, same⟩ := turnSilent still taken none
    exact ⟨next, same.trans silent⟩

/-- Until a client sends again, nothing is flushed. -/
structure Still (a : Agent) : Prop where
  flushes : ∀ stamp k, a.pipeline.flushOf stamp k = ([], a.pipeline)
  rounds : ∀ b done, Round a b done → b = a
  silent : ∀ b l, Reached a b l → l.dispatched = [] → l.flushed = []

theorem secondTickStill :
    (∀ (p : Pipeline) (stamp : Stamp), p.Ticked (p.tick stamp).1 (p.tick stamp).2) ∧
    ∀ (start a : Agent) (done : List Kind), Round start a done → (∀ k, k ∈ done) → Still a := by
  refine ⟨fun p stamp => Pipeline.tickTicked stamp p, ?_⟩
  intro start a done round both
  have quiet : ∀ k, a.pipeline.Quiet k := fun k => roundQuiet round k (both k)
  exact {
    flushes := fun stamp k => Pipeline.flushQuiet (quiet k).swept stamp
    rounds := fun _ _ => roundStill quiet
    silent := fun _ _ reached none => (reachedSilent quiet reached none).2 }

theorem bothSummariesDropped :
    let o : Aggregate.Observation := ⟨"d", "SQL", "q", true, 5⟩
    let start : Agent := { settings := {}, pipeline := {
      routing := { sample := 0.5 }
      transactions := { capacity := 1, waiting := Queue.empty.push o }
      events := { capacity := 1, table := Aggregate.Table.add [] o }
      outbox := { normalCapacity := 0 }
      ids := .start "home" "7f000001" 1 } }
    (start.pipeline.tick ⟨5, "9"⟩).2.outbox.dropped = 2 ∧
    ((start.pipeline.tick ⟨5, "9"⟩).2.tick ⟨6, "9"⟩).1 = [] ∧
    ∃ a, Round start a [.transaction, .event] ∧ a.pipeline.outbox.dropped = 2 ∧ Still a := by
  intro o start
  have still := secondTickStill
  have swept : Round start _ _ := .flush (k := .event) ⟨5, "9"⟩ .start rfl rfl
  have absorbed : Round start _ _ := .absorb (k := .transaction) swept rfl
  have round : Round start _ _ := .flush (k := .transaction) ⟨6, "9"⟩ absorbed rfl rfl
  refine ⟨rfl, congrArg Prod.fst ((still.1 _ _).again _), _, round, rfl, still.2 _ _ _ round fun k => ?_⟩
  cases k <;> decide

end Agent

end TraceRelay
