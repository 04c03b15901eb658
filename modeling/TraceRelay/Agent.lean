import TraceRelay.Ingest.Body
import TraceRelay.Inbound.Frame
import TraceRelay.Control.Poll
import TraceRelay.Pipeline
/-! The agent as a whole: what it takes to start, what it does with bodies and requests, and the order in
which it shuts down. The sender closes only after both aggregators are finished, so that their last
summaries still find it open. -/
namespace TraceRelay
open Text (Bytes)
open Aggregate (Kind Stamp)

inductive Shutdown
  | notAsked
  | background
  | aggregators
  | sender
  deriving DecidableEq, Repr

structure Agent where
  settings : Settings
  pipeline : Pipeline
  shutdown : Shutdown := .notAsked

namespace Agent

def refusesTrees (a : Agent) : Bool := a.shutdown ≠ .notAsked

def startRouting (s : Settings) (answer : String → Control.Outcome) (servers : List String) : Routing :=
  let seeded : Routing := { sample := s.sample }
  let seeded := match s.routers with
    | some value => seeded.updateRouters value
    | none => seeded
  (Control.poll answer servers seeded).routing

def start? (s : Settings) (hour : Int64) (answer : String → Control.Outcome) (servers : List String) :
    Except Settings.Fault Agent :=
  let routing := startRouting s answer servers
  if routing.table = [] then .error .noRouters
  else .ok {
    settings := s
    pipeline := { routing := routing, ids := .start s.domain s.ipHex hour } }

def send (a : Agent) (t : Tree) : Agent :=
  if a.refusesTrees || !a.pipeline.routing.enabled then a
  else { a with pipeline := a.pipeline.dispatch t }

def setIds (a : Agent) (ids : MessageIds) : Agent := { a with pipeline := { a.pipeline with ids := ids } }

def handle (a : Agent) (body : Bytes) : Except Ingest.Refusal Unit × Agent :=
  match Ingest.decode a.pipeline.ids body with
  | (.ok t, ids) => (.ok (), (a.setIds ids).send t)
  | (.error e, ids) => (.error e, a.setIds ids)

def createId (a : Agent) (domain : String) : String × Agent :=
  let (id, ids) := a.pipeline.ids.next domain
  (id, a.setIds ids)

inductive Command
  | createId | sendTree
  deriving DecidableEq, Repr

def Command.ofNumber? (n : Nat) : Option Command :=
  if n = 1 then some createId else if n = 2 then some sendTree else none

def answer (a : Agent) (r : Inbound.Request) : Option Inbound.Response × Agent :=
  match Command.ofNumber? r.command with
  | some .createId =>
    if r.body = [] then (some ⟨.noDomain, []⟩, a)
    else
      let (id, a) := a.createId (Text.lossy r.body)
      (some ⟨.ok, Text.utf8 id⟩, a)
  | some .sendTree => (none, (a.handle r.body).2)
  | none => (some ⟨.unknownCommand, []⟩, a)

def answerAll (a : Agent) : List Inbound.Request → List Inbound.Response × Agent
  | [] => ([], a)
  | r :: rs =>
    let (response, a) := a.answer r
    let (responses, a) := answerAll a rs
    (response.toList ++ responses, a)

def serve (a : Agent) (stream : Bytes) : List Inbound.Response × Agent :=
  a.answerAll (Inbound.requests stream)

def refusalStatus : Ingest.Refusal → Inbound.Status
  | .missingHeaderField _ => .headerUnreadable
  | _ => .messageUnreadable

def entry (level : Log.Level) (message : String) : Log.Event where
  level := level
  target := "cat_agent::server"
  message := message

def rejection (peer : String) (e : Ingest.Refusal) : Log.Event :=
  entry .error ("Send message from " ++ peer ++ " rejected with status " ++ (refusalStatus e).name ++ ": " ++ e.message)

/-- A body that is refused has no response; only the log tells. -/
def notices (a : Agent) (peer : String) (r : Inbound.Request) : List Log.Event :=
  match Command.ofNumber? r.command with
  | some .createId => []
  | some .sendTree =>
    match (a.handle r.body).1 with
    | .ok _ => Ingest.notices r.body
    | .error e => Ingest.notices r.body ++ [rejection peer e]
  | none => [entry .debug ("Unknown command " ++ Decimal.nat r.command ++ " from " ++ peer)]

inductive Turn
  | dispatch (t : Tree)
  | absorb (k : Kind)
  | tick (k : Kind) (stamp : Stamp)
  | askShutdown
  | backgroundJoined
  | closeAggregator (k : Kind)
  | finishAggregator (k : Kind) (stamp : Stamp)
  | aggregatorsJoined
  | closeSender
  | take (l : Outbound.Lane)
  | update (u : Routing.Update)
  | rollover (hour : Int64)

def step? (a : Agent) : Turn → Option Agent
  | .dispatch t => some { a with pipeline := a.pipeline.dispatch t }
  | .absorb k =>
    if a.pipeline.stage k = .finished then none
    else (a.pipeline.absorb? k).map fun p => { a with pipeline := p }
  | .tick k stamp =>
    if a.pipeline.stage k = .running then
      some { a with pipeline := (a.pipeline.flushOf stamp k).2 }
    else none
  | .askShutdown =>
    if a.shutdown = .notAsked then some { a with shutdown := .background } else none
  | .backgroundJoined =>
    if a.shutdown = .background then some { a with shutdown := .aggregators } else none
  | .closeAggregator k =>
    if a.shutdown = .aggregators ∧ a.pipeline.stage k = .running then
      some { a with pipeline := a.pipeline.close k }
    else none
  | .finishAggregator k stamp =>
    if a.pipeline.stage k = .closing ∧ a.pipeline.drained k then
      some { a with pipeline := (a.pipeline.flushOf stamp k).2.setStage .finished k }
    else none
  | .aggregatorsJoined =>
    if a.shutdown = .aggregators ∧ a.pipeline.stage .transaction = .finished ∧
        a.pipeline.stage .event = .finished then
      some { a with shutdown := .sender }
    else none
  | .closeSender =>
    if a.shutdown = .sender then
      some { a with pipeline := { a.pipeline with outbox := a.pipeline.outbox.close } }
    else none
  | .take l =>
    (a.pipeline.outbox.take? l).map fun (_, b) => { a with pipeline := { a.pipeline with outbox := b } }
  | .update u => some { a with pipeline := a.pipeline.updateRouting u }
  | .rollover hour => some { a with pipeline := (a.pipeline.rollover hour).2 }

end Agent

end TraceRelay
