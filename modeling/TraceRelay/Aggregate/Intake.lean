import TraceRelay.Queue
import TraceRelay.Aggregate.Table
import TraceRelay.Log.Line
/-! An aggregator: a bounded queue of observations in front of a table. Whoever observes never waits; a
queue that is full or closed drops the observation and counts it. -/
namespace TraceRelay.Aggregate

inductive Stage
  | running | closing | finished
  deriving DecidableEq, Repr

structure Intake (α : Type) where
  capacity : Nat
  waiting : Queue Observation := .empty
  stage : Stage := .running
  /-- Without a bound, since 2^64 drops are never reached. -/
  dropped : Nat := 0
  table : Table α := []

def usualCapacity : Nat := 1000

/-- Milliseconds between two flushes. -/
def flushInterval : Nat := 3000

inductive Verdict
  | queued | full | closed
  deriving DecidableEq, Repr

namespace Intake

variable {α : Type} [Totals α]

def verdict (a : Intake α) : Verdict :=
  if a.stage ≠ .running then .closed
  else if a.waiting.size < a.capacity then .queued
  else .full

def observe (a : Intake α) (o : Observation) : Intake α :=
  match a.verdict with
  | .queued => { a with waiting := a.waiting.push o }
  | _ => { a with dropped := a.dropped + 1 }

def entry (level : Log.Level) (message : String) : Log.Event where
  level := level
  target := "cat_agent::aggregator_service"
  message := message

def notice? (a : Intake α) (o : Observation) : Option Log.Event :=
  let title := (Totals.kind α).title
  match a.verdict with
  | .queued => none
  | .full => some (entry .warn
      (title ++ " queue is full, " ++ o.type ++ "," ++ o.name ++ " has been discarded"))
  | .closed => some (entry .debug (title ++ " is shut down, observation discarded"))

def absorb? (a : Intake α) : Option (Intake α) :=
  a.waiting.pop?.map fun (o, rest) => { a with waiting := rest, table := a.table.add o }

def settle (a : Intake α) : Intake α :=
  { a with waiting := .empty, table := a.waiting.toList.foldl Table.add a.table }

def flush (stamp : Stamp) (ids : MessageIds) (a : Intake α) : List Tree × MessageIds × Intake α :=
  let (trees, ids) := Table.flush stamp ids a.table
  (trees, ids, { a with table := [] })

end Intake

end TraceRelay.Aggregate
