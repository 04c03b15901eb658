import TraceRelay.Routing.State
import TraceRelay.Outbound.Outbox
/-! The supervisor of the workers. It starts a pool for the routing table as it is, waits for the table to
change or for the end, stops the pool and waits until every worker is gone before it starts the next.
A change is told by the version of the table, which the supervisor marks as seen when it reads the table
and when a change wakes it. -/
namespace TraceRelay.Outbound

inductive Stage
  | reading
  | starting (table : List String)
  | waiting
  | stopping (restart : Bool)
  | finished
  deriving DecidableEq, Repr

structure Supervisor where
  stage : Stage := .reading
  seen : Nat := 0
  pool : Option (List String) := none
  closing : Bool := false
  deriving DecidableEq, Repr

inductive Turn
  | read
  | start
  | wake
  | shutdown
  | joined
  deriving DecidableEq, Repr

namespace Supervisor

def step? (s : Supervisor) (r : Routing) (shutdownAsked : Bool) : Turn → Option Supervisor
  | .read =>
    if s.stage = .reading then some { s with stage := .starting r.table, seen := r.version } else none
  | .start =>
    match s.stage with
    | .starting table => some { s with stage := .waiting, pool := some table }
    | _ => none
  | .wake =>
    if s.stage = .waiting ∧ s.seen ≠ r.version then
      some { s with stage := .stopping true, seen := r.version }
    else none
  | .shutdown =>
    if s.stage = .waiting ∧ shutdownAsked then
      some { s with stage := .stopping false, closing := true }
    else none
  | .joined =>
    match s.stage with
    | .stopping restart =>
      some { s with stage := if restart then .reading else .finished, pool := none }
    | _ => none

end Supervisor

/-- One place in a pool. Every collector gets its own workers, those of the normal lane first. -/
structure Post where
  lane : Lane
  address : String
  number : Nat
  deriving DecidableEq, Repr

def posts (count : Lane → Nat) (table : List String) : List Post :=
  table.flatMap fun address => [Lane.normal, Lane.high].flatMap fun lane =>
    (List.range (count lane)).map fun number => ⟨lane, address, number⟩

def Post.name (p : Post) : String := p.lane.name ++ "-" ++ p.address ++ "-" ++ Decimal.nat p.number

/-- What is logged when a write fails, or takes longer than it may. -/
def Post.unwritten (p : Post) (reason : String) : Log.Event where
  level := .warn
  target := "cat_agent::consumer"
  message := "Consumer " ++ p.name ++ " write " ++ reason ++ ", connection has been dropped"

end TraceRelay.Outbound
