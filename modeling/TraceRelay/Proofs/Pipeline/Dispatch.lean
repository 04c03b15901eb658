import TraceRelay.Pipeline
import TraceRelay.Proofs.Aggregate.Counts
/-! What one dispatch does to each part of the pipeline. Whether a tree is kept depends on the tree and
the sampler alone; what is observed follows from that, and so does what the outbox is offered. Trees
of the agent itself are kept and give nothing to observe. -/
namespace TraceRelay.Pipeline
open Aggregate (Kind Observation Intake Stamp)

def Sighting.for? : Kind → Sighting → Option Observation
  | .transaction, .transaction o => some o
  | .event, .event o => some o
  | _, _ => none

def observations (k : Kind) (ss : List Sighting) : List Observation := ss.filterMap (Sighting.for? k)

theorem observeAll (p : Pipeline) (ss : List Sighting) :
    ss.foldl observe p = { p with
      transactions := (observations .transaction ss).foldl Intake.observe p.transactions
      events := (observations .event ss).foldl Intake.observe p.events } := by
  induction ss generalizing p with
  | nil => rfl
  | cons s ss ih =>
    rw [List.foldl_cons, ih]
    cases s <;> rfl

def keeps (p : Pipeline) (t : Tree) : Bool := !t.discardable || p.sample.1

def asked (p : Pipeline) (t : Tree) : UInt64 := if t.discardable then p.sample.2.sampled else p.sampled

def seen (p : Pipeline) (t : Tree) : List Sighting :=
  if p.keeps t then
    if t.system then [] else sightingsAll t.domain t.message.children
  else sightings t.domain t.message

theorem sampleCounts (p : Pipeline) : p.sample.2 = { p with sampled := p.sample.2.sampled } := by
  unfold sample
  dsimp only
  split
  · rfl
  · split <;> rfl

theorem forwardParts (p : Pipeline) (t : Tree) :
    p.forward t = { (if t.system then [] else sightingsAll t.domain t.message.children).foldl
      observe p with outbox := p.outbox.offer t } := by
  cases own : t.system with
  | true => simp only [forward, own, if_true, offer, List.foldl_nil]
  | false =>
    simp only [forward, own, Bool.false_eq_true, if_false, offer, aggregateChildren, observeAll]

theorem dispatchParts (p : Pipeline) (t : Tree) :
    p.dispatch t = { p with
      sampled := p.asked t
      transactions := (observations .transaction (p.seen t)).foldl Intake.observe p.transactions
      events := (observations .event (p.seen t)).foldl Intake.observe p.events
      outbox := if p.keeps t then p.outbox.offer t else p.outbox } := by
  unfold dispatch keeps asked seen
  cases discardable : t.discardable with
  | false => simp only [Bool.false_eq_true, if_false, forwardParts, observeAll, keeps, discardable,
      Bool.not_false, Bool.true_or, if_true]
  | true =>
    have counts := sampleCounts p
    cases hit : p.sample.1 with
    | true =>
      simp only [if_true, forwardParts, observeAll, keeps, discardable, hit, Bool.or_true]
      rw [counts]
    | false =>
      simp only [if_true, Bool.false_eq_true, if_false, aggregate, observeAll, keeps, discardable, hit,
        Bool.not_true, Bool.or_self]
      rw [counts]

theorem dispatchOwn (p : Pipeline) {t : Tree} (system : t.system = true)
    (lasting : t.discardable = false) : p.dispatch t = { p with outbox := p.outbox.offer t } := by
  simp only [dispatch, lasting, forward, system, Bool.false_eq_true, if_false, if_true, offer]

theorem dispatchAllOwn (p : Pipeline) (ts : List Tree)
    (own : ∀ t ∈ ts, t.system = true ∧ t.discardable = false) :
    p.dispatchAll ts = { p with outbox := ts.foldl Outbound.Outbox.offer p.outbox } := by
  induction ts generalizing p with
  | nil => rfl
  | cons t ts ih =>
    have first := own t List.mem_cons_self
    have rest := ih (p.dispatch t) fun s member => own s (List.mem_cons_of_mem t member)
    unfold dispatchAll at rest ⊢
    rw [List.foldl_cons, rest, dispatchOwn p first.1 first.2]
    rfl

def emptied (p : Pipeline) : Kind → Pipeline
  | .transaction => { p with transactions := { p.transactions with table := [] } }
  | .event => { p with events := { p.events with table := [] } }

def summaries (stamp : Stamp) (p : Pipeline) : Kind → List Tree × MessageIds
  | .transaction => Aggregate.Table.flush stamp p.ids p.transactions.table
  | .event => Aggregate.Table.flush stamp p.ids p.events.table

theorem summariesOwn (stamp : Stamp) (p : Pipeline) (k : Kind) :
    ∀ t ∈ (p.summaries stamp k).1, t.system = true ∧ t.discardable = false ∧
      t.message.detail.type = "System" ∧ t.message.detail.name = k.title := by
  cases k with
  | transaction => exact Aggregate.flushSystem stamp p.ids p.transactions.table
  | event => exact Aggregate.flushSystem stamp p.ids p.events.table

theorem flushParts (stamp : Stamp) (p : Pipeline) (k : Kind) :
    p.flushOf stamp k = ((p.summaries stamp k).1, { p.emptied k with
      ids := (p.summaries stamp k).2
      outbox := (p.summaries stamp k).1.foldl Outbound.Outbox.offer p.outbox }) := by
  have own : ∀ t ∈ (p.summaries stamp k).1, t.system = true ∧ t.discardable = false :=
    fun t member => ⟨(summariesOwn stamp p k t member).1, (summariesOwn stamp p k t member).2.1⟩
  cases k with
  | transaction => exact Prod.ext rfl (dispatchAllOwn _ _ own)
  | event => exact Prod.ext rfl (dispatchAllOwn _ _ own)

end TraceRelay.Pipeline
