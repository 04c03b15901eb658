import TraceRelay.Queue
import TraceRelay.Outbound.Worker
/-! A worker alone with its lane. What is around it stays as it is, so one event follows from the other
until the worker is done, waits for more, or goes on dialing for ever. -/
namespace TraceRelay.Outbound

structure Surroundings where
  cancelled : Bool
  shutdown : Bool
  lasting : Bool
  reachable : Bool
  deriving DecidableEq, Repr

structure Delivery where
  worker : Worker := {}
  lane : Queue Tree

namespace Delivery

def event? (s : Surroundings) (d : Delivery) : Option (Event × Queue Tree) :=
  let answer : Event := if s.reachable then .dialed else .refused
  match d.worker.phase with
  | .receiving =>
    if s.cancelled then some (.cancelled s.shutdown, d.lane)
    else match d.lane.pop? with
      | some (t, rest) => some (.received t, rest)
      | none => if s.lasting then none else some (.closed s.shutdown, d.lane)
  | .draining =>
    match d.lane.pop? with
    | some (t, rest) => some (.drained t, rest)
    | none => some (.nothingQueued, d.lane)
  | .waiting _ => some (if s.cancelled then .cancelled s.shutdown else .waited, d.lane)
  | .finished => none
  | _ => some (answer, d.lane)

def step? (s : Surroundings) (now : Nat) (d : Delivery) : Option Delivery := do
  let (e, lane) ← d.event? s
  return ⟨← d.worker.step? now e, lane⟩

def run (s : Surroundings) (now : Nat) : Nat → Delivery → Delivery
  | 0, d => d
  | n + 1, d =>
    match d.step? s now with
    | some d => run s now n d
    | none => d

/-- A tree needs a step of its own and may be followed by a dial. -/
def steps (d : Delivery) : Nat := 2 * d.lane.size + 8

def settle (s : Surroundings) (now : Nat) (d : Delivery) : Delivery := run s now d.steps d

def finished (d : Delivery) : Bool := d.worker.phase == .finished

def delays : Nat → Worker → List Nat
  | 0, _ => []
  | n + 1, w =>
    match w.phase with
    | .dialing delay =>
      delay :: (((w.step? 0 .refused).bind (·.step? 0 .waited)).map (delays n)).getD []
    | _ => []

end Delivery

end TraceRelay.Outbound
