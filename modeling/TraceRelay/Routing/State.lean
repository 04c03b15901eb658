import TraceRelay.Routing.Address
import TraceRelay.Decimal.Shortest
import TraceRelay.Log.Line
/-! What the control plane steers: the routing table, the sample ratio and whether the agent takes part
at all. A table, once there, is only ever replaced by another that has an address. -/
namespace TraceRelay

structure Routing where
  sample : Float
  enabled : Bool := true
  table : List String := []
  /-- Changes of the table so far; whoever waits for one compares it. -/
  version : Nat := 0
  deriving DecidableEq

namespace Routing

/-- Ratios closer than this are the same, and a ratio below it keeps nothing. -/
def epsilon : Float := Float.ofBits 0x3E112E0BE826D695

inductive Update
  | routers (value : String)
  | sample (value : String)
  | block (value : String)
  deriving DecidableEq, Repr

def changes (r : Routing) (value : String) : Bool :=
  addresses value ≠ [] && addresses value ≠ r.table

def updateRouters (r : Routing) (value : String) : Routing :=
  if r.changes value then { r with table := addresses value, version := r.version + 1 } else r

def ratio? (value : String) : Option Float :=
  (Decimal.readFloat? (Text.trimChars value.toList)).filter Float.isFinite

def differs (r : Routing) (x : Float) : Bool := epsilon < (x - r.sample).abs

def updateSample (r : Routing) (value : String) : Routing :=
  match ratio? value with
  | some x => if r.differs x then { r with sample := x } else r
  | none => r

def updateBlock (r : Routing) (value : String) : Routing := { r with enabled := value = "false" }

def apply (r : Routing) : Update → Routing
  | .routers v => r.updateRouters v
  | .sample v => r.updateSample v
  | .block v => r.updateBlock v

def entry (level : Log.Level) (message : String) : Log.Event where
  level := level
  target := "cat_agent::router"
  message := message

def notices (r : Routing) : Update → List Log.Event
  | .routers v =>
    if addresses v = [] then
      [entry .warn ("Ignoring router update with no usable address: " ++ Text.quoted v)]
    else if r.changes v then
      [entry .info ((if r.table = [] then "Routers initialized to " else "Routers changed to ") ++
        Text.quotedList (addresses v))]
    else []
  | .sample v =>
    match ratio? v with
    | some x =>
      if r.differs x then
        [entry .info ("Sample rate has been set to " ++ Decimal.float (x * 100) ++ "%")]
      else []
    | none => [entry .warn ("Sample should be a valid float, " ++ Text.quoted v ++ " given")]
  | .block v =>
    let enabled := v == "false"
    if r.enabled = enabled then []
    else [entry .info (if enabled then "Agent has been enabled" else "Agent has been disabled")]

end Routing

end TraceRelay
