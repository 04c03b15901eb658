import TraceRelay.Aggregate.Intake
import TraceRelay.Outbound.Outbox
import TraceRelay.Routing.State
/-! The way of a tree through the agent. A tree that may be discarded and misses the sampler is folded
into the local aggregates; any other is offered to the outbox, and only what it holds is aggregated. Trees of
the agent itself are never aggregated. -/
namespace TraceRelay
open Aggregate (Intake TransactionTotals EventTotals Observation Stamp)

structure Pipeline where
  routing : Routing
  sampled : UInt64 := 0
  transactions : Intake TransactionTotals := { capacity := Aggregate.usualCapacity }
  events : Intake EventTotals := { capacity := Aggregate.usualCapacity }
  outbox : Outbound.Outbox := {}
  ids : MessageIds

namespace Pipeline

/-- One tree in so many is kept. -/
def every (ratio : Float) : UInt64 := max 1 (1.0 / ratio).toUInt64

/-- Ratios from one up keep everything and ratios next to zero nothing; neither counts. -/
def sample (p : Pipeline) : Bool × Pipeline :=
  let ratio := p.routing.sample
  if 1.0 ≤ ratio then (true, p)
  else if ratio < Routing.epsilon then (false, p)
  else
    let n := p.sampled + 1
    (n % every ratio == 0, { p with sampled := n })

inductive Sighting
  | transaction (o : Observation)
  | event (o : Observation)
  deriving DecidableEq, Repr

mutual

def sightings (domain : String) : Message → List Sighting
  | .transaction d t cs => .transaction (.of domain d t) :: sightingsAll domain cs
  | .event d => [.event (.of domain d 0)]
  | .heartbeat _ => []

def sightingsAll (domain : String) : List Message → List Sighting
  | [] => []
  | m :: ms => sightings domain m ++ sightingsAll domain ms

end

def observe (p : Pipeline) : Sighting → Pipeline
  | .transaction o => { p with transactions := p.transactions.observe o }
  | .event o => { p with events := p.events.observe o }

def aggregate (p : Pipeline) (t : Tree) : Pipeline :=
  (sightings t.domain t.message).foldl observe p

def aggregateChildren (p : Pipeline) (t : Tree) : Pipeline :=
  (sightingsAll t.domain t.message.children).foldl observe p

def offer (p : Pipeline) (t : Tree) : Pipeline := { p with outbox := p.outbox.offer t }

def forward (p : Pipeline) (t : Tree) : Pipeline :=
  (if t.system then p else p.aggregateChildren t).offer t

def dispatch (p : Pipeline) (t : Tree) : Pipeline :=
  if t.discardable then
    let (hit, p) := p.sample
    if hit then p.forward t else p.aggregate t
  else p.forward t

def dispatchAll (p : Pipeline) (ts : List Tree) : Pipeline := ts.foldl dispatch p

def stage (p : Pipeline) : Aggregate.Kind → Aggregate.Stage
  | .transaction => p.transactions.stage
  | .event => p.events.stage

def setStage (p : Pipeline) (stage : Aggregate.Stage) : Aggregate.Kind → Pipeline
  | .transaction => { p with transactions := { p.transactions with stage := stage } }
  | .event => { p with events := { p.events with stage := stage } }

def absorb? (p : Pipeline) : Aggregate.Kind → Option Pipeline
  | .transaction => p.transactions.absorb?.map fun a => { p with transactions := a }
  | .event => p.events.absorb?.map fun a => { p with events := a }

def flushOf (stamp : Stamp) (p : Pipeline) : Aggregate.Kind → List Tree × Pipeline
  | .transaction =>
    let (trees, ids, transactions) := p.transactions.flush stamp p.ids
    (trees, dispatchAll { p with ids := ids, transactions := transactions } trees)
  | .event =>
    let (trees, ids, events) := p.events.flush stamp p.ids
    (trees, dispatchAll { p with ids := ids, events := events } trees)

def flush (stamp : Stamp) (p : Pipeline) : List Tree × Pipeline :=
  let (ts, p) := p.flushOf stamp .transaction
  let (es, p) := p.flushOf stamp .event
  (ts ++ es, p)

def settle (p : Pipeline) : Pipeline :=
  { p with transactions := p.transactions.settle, events := p.events.settle }

def tick (stamp : Stamp) (p : Pipeline) : List Tree × Pipeline := p.settle.flush stamp

def close (p : Pipeline) (k : Aggregate.Kind) : Pipeline :=
  if p.stage k = .running then p.setStage .closing k else p

def drained (p : Pipeline) : Aggregate.Kind → Bool
  | .transaction => p.transactions.waiting.isEmpty
  | .event => p.events.waiting.isEmpty

def stop (stamp : Stamp) (p : Pipeline) : List Tree × Pipeline :=
  let (trees, p) := ((p.close .transaction).close .event).tick stamp
  (trees, (p.setStage .finished .transaction).setStage .finished .event)

def rollover (p : Pipeline) (hour : Int64) : Bool × Pipeline :=
  let (later, ids) := p.ids.rollover hour
  (later, { p with ids := ids })

def updateRouting (p : Pipeline) (u : Routing.Update) : Pipeline :=
  { p with routing := p.routing.apply u }

end Pipeline

end TraceRelay
