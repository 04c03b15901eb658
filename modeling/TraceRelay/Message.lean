/-! Trace messages. A tree is what travels: one root message and the envelope that says where it
came from. Only transactions hold other messages. -/
namespace TraceRelay

/-- What every message carries. The timestamp counts milliseconds since 1970. -/
structure Detail where
  type : String
  name : String
  status : String
  data : String
  timestamp : Int64
  deriving DecidableEq, Repr, Inhabited

def success : String := "0"

inductive Message
  | transaction (detail : Detail) (duration : Int64) (children : List Message)
  | event (detail : Detail)
  | heartbeat (detail : Detail)
  deriving Repr, Inhabited

namespace Message

def detail : Message → Detail
  | transaction d _ _ => d
  | event d => d
  | heartbeat d => d

def children : Message → List Message
  | transaction _ _ cs => cs
  | _ => []

def succeeded (m : Message) : Bool := m.detail.status == success

mutual

def walk (depth : Nat) : Message → List (Nat × Message)
  | transaction d t cs => (depth, transaction d t cs) :: walkAll (depth + 1) cs
  | event d => [(depth, event d)]
  | heartbeat d => [(depth, heartbeat d)]

def walkAll (depth : Nat) : List Message → List (Nat × Message)
  | [] => []
  | m :: ms => walk depth m ++ walkAll depth ms

end

def label (m : Message) : String := m.detail.type ++ ":" ++ m.detail.name

end Message

structure Tree where
  domain : String
  id : String
  parentId : String := ""
  rootId : String := ""
  threadGroup : String := ""
  threadId : String := ""
  threadName : String := ""
  message : Message
  discardable : Bool := true
  system : Bool := false
  deriving Repr, Inhabited

def agentThreadGroup : String := "cat-agent-group"
def agentThreadName : String := "cat-agent"

def Tree.ofAgent (domain id threadId : String) (message : Message) : Tree where
  domain := domain
  id := id
  threadGroup := agentThreadGroup
  threadId := threadId
  threadName := agentThreadName
  message := message
  discardable := false
  system := true

end TraceRelay
