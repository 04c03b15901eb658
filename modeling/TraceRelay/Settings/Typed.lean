import TraceRelay.Settings.Basic
import TraceRelay.Settings.Value
import TraceRelay.Text.Split
/-! Settings from a value. A table gives fields by name, a list by position; what is absent keeps its
default, and what is unknown is passed over. -/
namespace TraceRelay.Settings
open Text (trimChars splitWhere)

namespace Value

def text? : Value → Option String
  | .text s => some s
  | .letter c => some (String.singleton c)
  | _ => none

def int64? : Value → Option Int64
  | .integer i =>
    if Int64.minValue.toInt ≤ i ∧ i ≤ Int64.maxValue.toInt then some (Int64.ofInt i) else none
  | _ => none

def uint64? : Value → Option UInt64
  | .integer i => if 0 ≤ i ∧ i < UInt64.size then some (UInt64.ofNat i.toNat) else none
  | _ => none

def float? : Value → Option Float
  | .fraction x => some x
  | v => match v.int64? with
    | some i => some i.toFloat
    | none => v.uint64?.map UInt64.toFloat

def optionalText? : Value → Option (Option String)
  | .missing => some none
  | v => v.text?.map some

def plainText? : Value → Option String
  | .text s => some s
  | _ => none

def servers? : Value → Option (List String)
  | .text s => some ((splitWhere (fun c => c == ';' || c == ',') s.toList).map fun piece =>
      String.ofList (trimChars piece))
  | .list items => items.mapM plainText?
  | _ => none

def field? (whole : Value) (name : String) (place : Nat) : Option Value :=
  match whole with
  | .table entries => Value.get? name entries
  | .list items => items[place]?
  | _ => none

def isRecord : Value → Bool
  | .table _ => true
  | .list _ => true
  | _ => false

def setting (whole : Value) (name : String) (place : Nat) (read? : Value → Option α)
    (set : α → Settings → Settings) (s : Settings) : Option Settings :=
  match whole.field? name place with
  | none => some s
  | some v => (read? v).map (set · s)

end Value

def readAgent? (v : Value) (s : Settings) : Option Settings :=
  if v.isRecord then
    v.setting "domain" 0 Value.text? (fun x s => { s with domain := x }) s
    >>= v.setting "hostname" 1 Value.text? (fun x s => { s with hostname := x })
    >>= v.setting "env" 2 Value.text? (fun x s => { s with environment := x })
    >>= v.setting "ip" 3 Value.text? (fun x s => { s with ip := x })
    >>= v.setting "servers" 4 Value.servers? (fun x s => { s with servers := x })
    >>= v.setting "routers" 5 Value.optionalText? (fun x s => { s with routers := x })
    >>= v.setting "sample" 6 Value.float? (fun x s => { s with sample := x })
    >>= v.setting normalSetting 7 Value.int64? (fun x s => { s with normalWorkers := x })
    >>= v.setting highSetting 8 Value.int64? (fun x s => { s with highWorkers := x })
  else none

def readServer? (v : Value) (s : Settings) : Option Settings :=
  if v.isRecord then
    v.setting "addr" 0 Value.text? (fun x s => { s with address := x }) s
    >>= v.setting "read_timeout_millis" 1 Value.uint64? (fun x s => { s with readTimeout := x })
    >>= v.setting "write_timeout_millis" 2 Value.uint64? (fun x s => { s with writeTimeout := x })
  else none

def readPart? (whole : Value) (name : String) (place : Nat)
    (read? : Value → Settings → Option Settings) (s : Settings) : Option Settings :=
  match whole.field? name place with
  | none => some s
  | some v => read? v s

def ofValue? (v : Value) : Option Settings :=
  if v.isRecord then
    v.setting "log_level" 0 Value.text? (fun x s => { s with logLevel := x }) {}
    >>= readPart? v "cat" 1 readAgent?
    >>= readPart? v "server" 2 readServer?
  else none

end TraceRelay.Settings
