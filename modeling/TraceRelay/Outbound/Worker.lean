import TraceRelay.Message
/-! One worker of the pool. It takes trees from a lane, gathers them in a batch and writes a batch over a
connection of its own. Events say what happens to the worker; `step?` says what it does then, and refuses
an event that cannot happen in its phase. Times count milliseconds. -/
namespace TraceRelay.Outbound

def batchCapacity : Nat := 150

def tickInterval : Nat := 1000

def connectionMaxAge : Nat := 600000

def dialDeadline : Nat := 1000

def writeDeadline : Nat := 1000

def firstDelay : Nat := 100

def longestDelay : Nat := 5000

def nextDelay (delay : Nat) : Nat := min (delay * 2) longestDelay

inductive Phase
  | receiving
  /-- An attempt to connect is under way; after a refusal the worker waits that long. -/
  | dialing (delay : Nat)
  | waiting (delay : Nat)
  | draining
  | drainDialing
  | lastDialing
  | finished
  deriving DecidableEq, Repr

inductive Event
  | received (t : Tree)
  | tick
  /-- The stop is seen; `shutdown` tells whether the whole sender shuts down. -/
  | cancelled (shutdown : Bool)
  | closed (shutdown : Bool)
  | drained (t : Tree)
  | nothingQueued
  | dialed
  | refused
  | waited

structure Worker where
  phase : Phase := .receiving
  batch : List Tree := []
  established : Option Nat := none
  /-- What was written over each connection, the newest connection first. -/
  connections : List (List Tree) := []
  /-- Once the stop was seen no tree is taken any more but for draining. -/
  stopSeen : Bool := false

namespace Worker

def fresh (w : Worker) (now : Nat) : Bool :=
  match w.established with
  | some t => now - t < connectionMaxAge
  | none => false

def write (w : Worker) : Worker :=
  match w.connections with
  | [] => w
  | c :: cs => { w with connections := (c ++ w.batch) :: cs, batch := [] }

def connect (w : Worker) (now : Nat) : Worker :=
  { w with established := some now, connections := [] :: w.connections }

/-- Writes and goes on to `done`, or gives up an old connection and turns to `dial`. An empty batch
needs no connection. -/
def flush (w : Worker) (now : Nat) (dial done : Phase) : Worker :=
  if w.batch.isEmpty then { w with phase := done }
  else if w.fresh now then { w.write with phase := done }
  else { w with established := none, phase := dial }

def add (w : Worker) (t : Tree) (now : Nat) (dial done : Phase) : Worker :=
  let w := { w with batch := w.batch ++ [t] }
  if batchCapacity ≤ w.batch.length then w.flush now dial done else { w with phase := done }

def lastFlush (w : Worker) (now : Nat) : Worker := w.flush now .lastDialing .finished

def leave (w : Worker) (shutdown : Bool) (now : Nat) : Worker :=
  if shutdown then { w with phase := .draining } else w.lastFlush now

def step? (w : Worker) (now : Nat) : Event → Option Worker
  | .received t =>
    if w.phase = .receiving ∧ !w.stopSeen then some (w.add t now (.dialing firstDelay) .receiving)
    else none
  | .tick =>
    if w.phase = .receiving ∧ !w.stopSeen then some (w.flush now (.dialing firstDelay) .receiving)
    else none
  | .cancelled shutdown =>
    match w.phase with
    | .receiving => some ({ w with stopSeen := true }.leave shutdown now)
    | .waiting _ => some { w with stopSeen := true, phase := .receiving }
    | _ => none
  | .closed shutdown =>
    if w.phase = .receiving ∧ !w.stopSeen then some (w.leave shutdown now) else none
  | .drained t =>
    if w.phase = .draining then some (w.add t now .drainDialing .draining) else none
  | .nothingQueued => if w.phase = .draining then some (w.lastFlush now) else none
  | .dialed =>
    match w.phase with
    | .dialing _ => some { (w.connect now).write with phase := .receiving }
    | .drainDialing => some { (w.connect now).write with phase := .draining }
    | .lastDialing => some { (w.connect now).write with phase := .finished }
    | _ => none
  | .refused =>
    match w.phase with
    | .dialing delay => some { w with phase := .waiting delay }
    | .drainDialing => some (w.lastFlush now)
    | .lastDialing => some { w with phase := .finished }
    | _ => none
  | .waited =>
    match w.phase with
    | .waiting delay => some { w with phase := .dialing (nextDelay delay) }
    | _ => none

def written (w : Worker) : List Tree := w.connections.reverse.flatten

end Worker

def Event.taken : Event → List Tree
  | .received t => [t]
  | .drained t => [t]
  | _ => []

end TraceRelay.Outbound
