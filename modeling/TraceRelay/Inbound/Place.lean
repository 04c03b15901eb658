import TraceRelay.Decimal.Integer
/-! Where the agent listens: a host and a service number, or a socket file. -/
namespace TraceRelay.Inbound

inductive Place
  | network (host : String) (service : UInt16)
  | socketFile (path : String)
  deriving DecidableEq, Repr

namespace Place

inductive Fault
  | noService | badService
  | system (cause : String)
  deriving DecidableEq, Repr

def Fault.cause : Fault → String
  | noService => "invalid socket address"
  | badService => "invalid port value"
  | system cause => cause

def Fault.message (f : Fault) (address : String) : String :=
  "Failed to bind " ++ address ++ ": " ++ f.cause

def scheme : List Char := "unix://".toList

def service? (cs : List Char) : Option UInt16 :=
  let digits := match cs with
    | '+' :: r => r
    | r => r
  (Decimal.readNat? digits).bind fun n => if n < 65536 then some (UInt16.ofNat n) else none

def ofText (address : String) : Except Fault Place :=
  let cs := address.toList
  if scheme.isPrefixOf cs then .ok (.socketFile (String.ofList (cs.drop scheme.length)))
  else if ':' ∉ cs then .error .noService
  else
    let reversed := cs.reverse
    match service? (reversed.takeWhile (· ≠ ':')).reverse with
    | none => .error .badService
    | some p =>
      .ok (.network (String.ofList ((reversed.dropWhile (· ≠ ':')).drop 1).reverse) p)

end Place

end TraceRelay.Inbound
