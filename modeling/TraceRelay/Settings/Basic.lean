import TraceRelay.Text.Blank
import TraceRelay.Routing.Address
/-! Settings of the agent and what makes them usable. `checked?` either names the first fault or gives
settings on which the rest of the program relies: a domain, at least one control server, worker counts
that are not negative, a finite sample ratio, and an address in hexadecimal. -/
namespace TraceRelay

structure Settings where
  logLevel : String := "info"
  domain : String := ""
  hostname : String := ""
  environment : String := "dev"
  ip : String := ""
  /-- Eight digits that stand for `ip`; empty until checked. -/
  ipHex : String := ""
  servers : List String := []
  routers : Option String := none
  sample : Float := 1.0
  normalWorkers : Int64 := 0
  highWorkers : Int64 := 0
  address : String := "127.0.0.1:2280"
  /-- Timeouts count milliseconds. -/
  readTimeout : UInt64 := 5000
  writeTimeout : UInt64 := 5000
  deriving Repr

structure Host where
  name : String
  ip : String
  deriving DecidableEq, Repr

namespace Host

def unknownName : String := "UnknownHost"

def loopback : String := "127.0.0.1"

def nameFrom (given system : String) : String :=
  if given ≠ "" then given else if system ≠ "" then system else unknownName

def ipFrom (interfaces : List (String × String)) : String :=
  let usual := interfaces.find? fun i => i.1 = "eth0" ∨ i.1 = "em1"
  ((usual.orElse fun _ => interfaces.head?).map (·.2)).getD loopback

end Host

namespace Settings

inductive Fault
  | unreadable
  /-- An escape in a quoted value whose place lies within a character. Reading breaks off there. -/
  | splitCharacter
  | missingDomain
  | missingServers
  | negativeWorkers (setting : String)
  | noRouters
  deriving DecidableEq, Repr

def Fault.message : Fault → String
  | .unreadable => "Failed to load configuration: "
  | .splitCharacter => "byte index is not a char boundary"
  | .missingDomain => "cat.domain is required"
  | .missingServers => "cat.servers must list at least one router server"
  | .negativeWorkers setting => setting ++ " must not be negative"
  | .noRouters => "No usable upstream router address"

def normalSetting : String := "sender_normal_queue_consumer_num"
def highSetting : String := "sender_high_queue_consumer_num"

def usualWorkers : Nat := 10

def workers (configured : Int64) : Nat :=
  if configured ≤ 0 then usualWorkers else configured.toInt.toNat

def loopbackHex : String := "7f000001"

def orElse (value otherwise : String) : String := if value = "" then otherwise else value

def fault? (s : Settings) : Option Fault :=
  if Text.trim s.domain = "" then some .missingDomain
  else if s.servers.all Text.isBlankText then some .missingServers
  else if s.normalWorkers < 0 then some (.negativeWorkers normalSetting)
  else if s.highWorkers < 0 then some (.negativeWorkers highSetting)
  else none

def completed (s : Settings) (host : Host) : Settings :=
  let ip := orElse s.ip host.ip
  { s with
    logLevel := orElse s.logLevel "info"
    domain := Text.trim s.domain
    hostname := orElse s.hostname host.name
    environment := orElse s.environment "dev"
    ip := ip
    ipHex := (Routing.ipHex? ip).getD loopbackHex
    servers := s.servers.filter fun server => !Text.isBlankText server
    sample := if s.sample.isFinite then s.sample else 1.0 }

def checked? (s : Settings) (host : Host) : Except Fault Settings :=
  match s.fault? with
  | some f => .error f
  | none => .ok (s.completed host)

end Settings

end TraceRelay
