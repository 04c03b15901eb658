import TraceRelay.Queue
import TraceRelay.Message
import TraceRelay.Log.Line
/-! Trees on their way to the collectors: one bounded queue for those that succeeded, one for those that failed.
Whoever offers a tree never waits; a full queue drops it, and so does the whole outbox once it closes. -/
namespace TraceRelay.Outbound

inductive Lane
  | normal | high
  deriving DecidableEq, Repr

namespace Lane

def of (t : Tree) : Lane := if t.message.succeeded then normal else high

def name : Lane → String
  | normal => "normal"
  | high => "high"

end Lane

def usualCapacity : Nat := 50000

structure Outbox where
  normalCapacity : Nat := usualCapacity
  highCapacity : Nat := usualCapacity
  normal : Queue Tree := .empty
  high : Queue Tree := .empty
  closing : Bool := false
  /-- Without a bound, since 2^64 drops are never reached. -/
  dropped : Nat := 0

inductive Verdict
  | queued | full | closing
  deriving DecidableEq, Repr

namespace Outbox

def lane (b : Outbox) : Lane → Queue Tree
  | .normal => b.normal
  | .high => b.high

def capacity (b : Outbox) : Lane → Nat
  | .normal => b.normalCapacity
  | .high => b.highCapacity

def setLane (b : Outbox) (l : Lane) (q : Queue Tree) : Outbox :=
  match l with
  | .normal => { b with normal := q }
  | .high => { b with high := q }

def verdict (b : Outbox) (t : Tree) : Verdict :=
  if b.closing then .closing
  else if (b.lane (.of t)).size < b.capacity (.of t) then .queued
  else .full

def offer (b : Outbox) (t : Tree) : Outbox :=
  match b.verdict t with
  | .queued => b.setLane (.of t) ((b.lane (.of t)).push t)
  | _ => { b with dropped := b.dropped + 1 }

def notice? (b : Outbox) (t : Tree) : Option Log.Event :=
  match b.verdict t with
  | .full => some {
      level := .warn
      target := "cat_agent::sender"
      message := "Sender " ++ (Lane.of t).name ++ " queue is full, tree " ++ t.id ++
        " has been discarded" }
  | _ => none

def take? (b : Outbox) (l : Lane) : Option (Tree × Outbox) :=
  (b.lane l).pop?.map fun (t, rest) => (t, b.setLane l rest)

def close (b : Outbox) : Outbox := { b with closing := true }

end Outbox

end TraceRelay.Outbound
