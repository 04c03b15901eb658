import TraceRelay.Proofs.Pipeline.Dispatch
import TraceRelay.Proofs.Pipeline.Turns
/-! The books of the pipeline. A ledger beside the agent keeps the trees that clients sent, those of them
that went to the outbox and the summaries that were flushed. Whatever the order of turns, every
transaction and every event of a client tree is found in exactly one place. -/
namespace TraceRelay
open Aggregate (Kind Stamp Intake Counted)

namespace Message

def isOf : Kind → Message → Bool
  | .transaction, .transaction .. => true
  | .event, .event _ => true
  | _, _ => false

def isHeartbeat : Message → Bool
  | .heartbeat _ => true
  | _ => false

def nodes (which : Message → Bool) (m : Message) : Nat := (m.walk 0).countP fun e => which e.2

theorem kindsSplit (entries : List (Nat × Message)) :
    entries.length = entries.countP (fun e => e.2.isOf .transaction) +
      entries.countP (fun e => e.2.isOf .event) + entries.countP (fun e => e.2.isHeartbeat) := by
  induction entries with
  | nil => rfl
  | cons e rest ih =>
    obtain ⟨depth, m⟩ := e
    cases m <;> simp [isOf, isHeartbeat, ih] <;> omega

theorem nodesSplit (m : Message) :
    m.nodes (fun _ => true) = m.nodes (·.isOf .transaction) + m.nodes (·.isOf .event) +
      m.nodes (·.isHeartbeat) := by
  have all : m.nodes (fun _ => true) = (m.walk 0).length := by simp [nodes]
  rw [all]
  exact kindsSplit (m.walk 0)

end Message

namespace Pipeline

mutual

theorem sightingsCount (k : Kind) (domain : String) (depth : Nat) (m : Message) :
    (observations k (sightings domain m)).length = (m.walk depth).countP fun e => e.2.isOf k := by
  cases m with
  | transaction d t cs =>
    have inside := sightingsAllCount k domain (depth + 1) cs
    cases k <;> simp only [sightings, observations, Message.walk, List.filterMap_cons, Sighting.for?,
      List.countP_cons, Message.isOf, List.length_cons] at inside ⊢ <;> simp [inside]
  | event d => cases k <;> rfl
  | heartbeat d => cases k <;> rfl

theorem sightingsAllCount (k : Kind) (domain : String) (depth : Nat) (ms : List Message) :
    (observations k (sightingsAll domain ms)).length =
      (Message.walkAll depth ms).countP fun e => e.2.isOf k := by
  cases ms with
  | nil => rfl
  | cons m ms =>
    have first := sightingsCount k domain depth m
    have rest := sightingsAllCount k domain depth ms
    unfold observations at first rest ⊢
    rw [sightingsAll, Message.walkAll, List.filterMap_append, List.length_append,
      List.countP_append, first, rest]

end

def droppedBy (p : Pipeline) : Kind → Nat
  | .transaction => p.transactions.dropped
  | .event => p.events.dropped

def queuedFor (p : Pipeline) : Kind → Nat
  | .transaction => p.transactions.waiting.size
  | .event => p.events.waiting.size

def countedBy (p : Pipeline) : Kind → Nat
  | .transaction => Aggregate.Table.counted p.transactions.table
  | .event => Aggregate.Table.counted p.events.table

def accounted (p : Pipeline) (k : Kind) : Nat := p.droppedBy k + p.queuedFor k + p.countedBy k

def keptRoot (p : Pipeline) (t : Tree) (k : Kind) : Nat :=
  if p.keeps t && t.message.isOf k then 1 else 0

theorem seenNodes (p : Pipeline) {t : Tree} (client : t.system = false) (k : Kind) :
    (observations k (p.seen t)).length + p.keptRoot t k = t.message.nodes (·.isOf k) := by
  have whole := sightingsCount k t.domain 0 t.message
  unfold seen keptRoot Message.nodes
  cases kept : p.keeps t with
  | false => simpa using whole
  | true =>
    simp only [client, if_true, Bool.false_eq_true, if_false, Bool.true_and, ← whole]
    cases m : t.message with
    | transaction d duration cs => cases k <;> simp [sightings, observations, Sighting.for?,
        List.filterMap_cons, Message.children, Message.isOf]
    | event d => cases k <;> rfl
    | heartbeat d => cases k <;> rfl

theorem accountedDispatch (p : Pipeline) {t : Tree} (client : t.system = false) (k : Kind) :
    (p.dispatch t).accounted k + p.keptRoot t k = p.accounted k + t.message.nodes (·.isOf k) := by
  have nodes := seenNodes p client k
  rw [dispatchParts]
  cases k with
  | transaction =>
    have moved := Intake.accountedObserveAll (observations .transaction (p.seen t)) p.transactions
    simp only [Intake.accounted] at moved
    simp only [accounted, droppedBy, queuedFor, countedBy]
    omega
  | event =>
    have moved := Intake.accountedObserveAll (observations .event (p.seen t)) p.events
    simp only [Intake.accounted] at moved
    simp only [accounted, droppedBy, queuedFor, countedBy]
    omega

theorem accountedAbsorb {p q : Pipeline} {j : Kind} (taken : p.absorb? j = some q) (k : Kind) :
    q.accounted k = p.accounted k := by
  cases j with
  | transaction =>
    obtain ⟨a, absorbed, rfl⟩ := Option.map_eq_some_iff.mp taken
    cases k with
    | transaction => exact Intake.accountedAbsorb absorbed
    | event => rfl
  | event =>
    obtain ⟨a, absorbed, rfl⟩ := Option.map_eq_some_iff.mp taken
    cases k with
    | transaction => rfl
    | event => exact Intake.accountedAbsorb absorbed

def written (k : Kind) (ts : List Tree) : Nat :=
  sumBy Aggregate.summarizedIn (ts.filter fun t => t.message.detail.name == k.title)

theorem writtenAppend (k : Kind) (ts us : List Tree) :
    written k (ts ++ us) = written k ts + written k us := by
  rw [written, List.filter_append, sumByAppend]
  rfl

theorem writtenFlush (stamp : Stamp) (p : Pipeline) (j k : Kind) :
    written k (p.summaries stamp j).1 = if j = k then p.countedBy k else 0 := by
  have names := fun t member => (summariesOwn stamp p j t member).2.2.2
  by_cases same : j = k
  · subst same
    have all : (p.summaries stamp j).1.filter (fun t => t.message.detail.name == j.title) =
        (p.summaries stamp j).1 := List.filter_eq_self.mpr fun t member => by simp [names t member]
    unfold written
    rw [all, if_pos rfl]
    cases j with
    | transaction => exact Aggregate.flushCounts stamp p.ids p.transactions.table
    | event => exact Aggregate.flushCounts stamp p.ids p.events.table
  · have none : (p.summaries stamp j).1.filter (fun t => t.message.detail.name == k.title) = [] := by
      refine List.filter_eq_nil_iff.mpr fun t member => ?_
      rw [names t member]
      cases j <;> cases k <;> first | contradiction | decide
    rw [written, none, if_neg same]
    rfl

theorem accountedFlush (stamp : Stamp) (p : Pipeline) (j k : Kind) :
    (p.flushOf stamp j).2.accounted k + written k (p.flushOf stamp j).1 = p.accounted k := by
  rw [flushParts, writtenFlush]
  cases j <;> cases k <;> simp [accounted, droppedBy, queuedFor, countedBy, emptied,
    Aggregate.Table.counted, Keyed.total, sumBy]

theorem accountedSetStage (p : Pipeline) (stage : Aggregate.Stage) (j k : Kind) :
    (p.setStage stage j).accounted k = p.accounted k := by
  cases j <;> cases k <;> rfl

theorem accountedClose (p : Pipeline) (j k : Kind) : (p.close j).accounted k = p.accounted k := by
  unfold close
  split
  · exact accountedSetStage p .closing j k
  · rfl

def Untouched (p : Pipeline) : Prop := ∀ k, p.accounted k = 0

end Pipeline

namespace Agent
open Pipeline (written)

structure Ledger where
  dispatched : List Tree := []
  offered : List Tree := []
  flushed : List Tree := []

namespace Ledger

def after (l : Ledger) (a : Agent) : Turn → Ledger
  | .dispatch t => { l with
      dispatched := t :: l.dispatched
      offered := if a.pipeline.keeps t then t :: l.offered else l.offered }
  | .tick k stamp => { l with flushed := (a.pipeline.flushOf stamp k).1 ++ l.flushed }
  | .finishAggregator k stamp => { l with flushed := (a.pipeline.flushOf stamp k).1 ++ l.flushed }
  | _ => l

def nodes (l : Ledger) (which : Message → Bool) : Nat :=
  sumBy (fun t => t.message.nodes which) l.dispatched

def offeredRoots (l : Ledger) (k : Kind) : Nat := l.offered.countP fun t => t.message.isOf k

/-- Messages that are found again: offered as roots, dropped, queued, in the table or on summaries. -/
def booked (l : Ledger) (p : Pipeline) (k : Kind) : Nat :=
  l.offeredRoots k + p.droppedBy k + p.queuedFor k + p.countedBy k + written k l.flushed

theorem bookedParts (l : Ledger) (p : Pipeline) (k : Kind) :
    l.booked p k = l.offeredRoots k + p.accounted k + written k l.flushed := by
  unfold booked Pipeline.accounted
  omega

theorem nodesSplit (l : Ledger) :
    l.nodes (fun _ => true) = l.nodes (·.isOf .transaction) + l.nodes (·.isOf .event) +
      l.nodes (·.isHeartbeat) := by
  unfold nodes
  induction l.dispatched with
  | nil => rfl
  | cons t rest ih =>
    have split := Message.nodesSplit t.message
    simp only [sumBy]
    omega

end Ledger

def Turn.FromClient : Turn → Prop
  | .dispatch t => t.system = false
  | _ => True

theorem startUntouched {s : Settings} {hour : Int64} {answer : String → Control.Outcome}
    {servers : List String} {a : Agent} (started : start? s hour answer servers = .ok a) :
    a.pipeline.Untouched := by
  simp only [start?] at started
  split at started <;> try contradiction
  cases started
  intro k
  cases k <;> rfl

inductive Reached (start : Agent) : Agent → Ledger → Prop
  | start : Reached start start {}
  | turn {a l t b} (before : Reached start a l) (client : t.FromClient)
      (taken : a.step? t = some b) : Reached start b (l.after a t)

def Balanced (a : Agent) (l : Ledger) (k : Kind) : Prop :=
  l.nodes (·.isOf k) = l.booked a.pipeline k

theorem balancedFlush {a : Agent} {l : Ledger} {k : Kind} (held : Balanced a l k) (stamp : Stamp)
    (j : Kind) (p : Pipeline)
    (same : p.accounted k = (a.pipeline.flushOf stamp j).2.accounted k) :
    Balanced { a with pipeline := p }
      { l with flushed := (a.pipeline.flushOf stamp j).1 ++ l.flushed } k := by
  have moved := Pipeline.accountedFlush stamp a.pipeline j k
  simp only [Balanced, Ledger.bookedParts, Ledger.nodes, Ledger.offeredRoots,
    Pipeline.writtenAppend] at held ⊢
  omega

theorem balancedKept {a b : Agent} {l : Ledger} {k : Kind} (held : Balanced a l k)
    (same : b.pipeline.accounted k = a.pipeline.accounted k) : Balanced b l k := by
  simp only [Balanced, Ledger.bookedParts, same] at held ⊢
  exact held

theorem balancedStep {a b : Agent} {l : Ledger} {t : Turn} {k : Kind} (held : Balanced a l k)
    (client : t.FromClient) (taken : a.step? t = some b) : Balanced b (l.after a t) k := by
  cases stepTurned taken with
  | dispatch t =>
    have moved := Pipeline.accountedDispatch a.pipeline client k
    have root : (l.after a (.dispatch t)).offeredRoots k =
        l.offeredRoots k + a.pipeline.keptRoot t k := by
      cases kept : a.pipeline.keeps t <;>
        simp [Ledger.offeredRoots, Ledger.after, Pipeline.keptRoot, kept, List.countP_cons]
    simp only [Balanced, Ledger.bookedParts, root] at held ⊢
    simp only [Ledger.after, Ledger.nodes, sumBy] at held ⊢
    omega
  | absorb _ absorbed => exact balancedKept held (Pipeline.accountedAbsorb absorbed k)
  | tick stamp => exact balancedFlush held stamp _ _ rfl
  | finishAggregator stamp =>
    exact balancedFlush held stamp _ _ (Pipeline.accountedSetStage _ .finished _ k)
  | closeAggregator => exact balancedKept held (Pipeline.accountedClose a.pipeline _ k)
  | askShutdown | backgroundJoined | aggregatorsJoined => exact balancedKept held rfl
  | closeSender | take | update | rollover => exact balancedKept held (by cases k <;> rfl)

theorem balancedReached {start a : Agent} {l : Ledger} (untouched : start.pipeline.Untouched)
    (reached : Reached start a l) (k : Kind) : Balanced a l k := by
  induction reached with
  | start => simp [Balanced, Ledger.bookedParts, Ledger.nodes, Ledger.offeredRoots, untouched k, written, sumBy]
  | turn before client taken ih => exact balancedStep ih client taken

/-- Every transaction and every event that clients sent, at whatever depth, is booked once, and a heartbeat
is not. Summaries go to the outbox and pass the aggregators by. -/
theorem everyNodeBooked {start a : Agent} {l : Ledger} (untouched : start.pipeline.Untouched)
    (reached : Reached start a l) :
    (∀ k, l.nodes (·.isOf k) = l.booked a.pipeline k) ∧
    l.nodes (fun _ => true) = l.booked a.pipeline .transaction + l.booked a.pipeline .event +
      l.nodes (·.isHeartbeat) ∧
    (∀ t, (a.pipeline.dispatch t).outbox =
      if a.pipeline.keeps t then a.pipeline.outbox.offer t else a.pipeline.outbox) ∧
    ∀ stamp k, (∀ t ∈ (a.pipeline.flushOf stamp k).1, t.system = true ∧ t.discardable = false) ∧
      ∃ ids, (a.pipeline.flushOf stamp k).2 = { a.pipeline.emptied k with
        ids := ids
        outbox := (a.pipeline.flushOf stamp k).1.foldl Outbound.Outbox.offer a.pipeline.outbox } := by
  have balance := balancedReached untouched reached
  refine ⟨balance, ?_, fun t => by rw [Pipeline.dispatchParts], fun stamp k => ?_⟩
  · rw [l.nodesSplit, balance .transaction, balance .event]
  · rw [Pipeline.flushParts]
    refine ⟨fun t member => ?_, (a.pipeline.summaries stamp k).2, rfl⟩
    have own := Pipeline.summariesOwn stamp a.pipeline k t member
    exact ⟨own.1, own.2.1⟩

theorem fullQueueBooked :
    let t : Tree := {
      domain := "d", id := "1", discardable := false
      message := .transaction ⟨"URL", "/a", "1", "", 1⟩ 7 [
        .transaction ⟨"SQL", "q", "0", "", 1⟩ 2000 [], .heartbeat ⟨"Sys", "h", "0", "", 1⟩,
        .transaction ⟨"SQL", "r", "1", "", 1⟩ 3000 []] }
    let start : Agent := { settings := {}, pipeline := {
      routing := { sample := 0.5 }, transactions := { capacity := 1 }
      ids := .start "home" "7f000001" 1 } }
    start.pipeline.Untouched ∧ ∃ a l, Reached start a l ∧ l.dispatched = [t] ∧
      l.offeredRoots .transaction = 1 ∧ a.pipeline.droppedBy .transaction = 1 ∧
      written .transaction l.flushed = 1 ∧
      l.nodes (·.isOf .transaction) = l.booked a.pipeline .transaction := by
  intro t start
  have untouched : start.pipeline.Untouched := by intro k; cases k <;> rfl
  have sent : Reached start _ _ := .turn .start (t := .dispatch t) rfl rfl
  have absorbed : Reached start _ _ := .turn sent (t := .absorb .transaction) trivial rfl
  have reached : Reached start _ _ := .turn absorbed (t := .tick .transaction ⟨5, "9"⟩) trivial rfl
  exact ⟨untouched, _, _, reached, rfl, rfl, rfl, by decide +kernel,
    (everyNodeBooked untouched reached).1 .transaction⟩

end Agent

end TraceRelay
