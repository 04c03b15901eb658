import TraceRelay.Routing.Property
import TraceRelay.Routing.State
import TraceRelay.Settings.Basic
/-! Asking the control plane. Its servers are asked one after the other until one answers well; the
properties of that answer, and of no other, are applied in order. -/
namespace TraceRelay.Control
open Text (Bytes)

/-- Milliseconds between two polls. -/
def pollInterval : Nat := 60000

structure Reply where
  status : Nat
  body : Bytes
  deriving DecidableEq, Repr

abbrev Outcome := Option Reply

def document? (o : Outcome) : Option String :=
  (o.filter fun r => 200 ≤ r.status && r.status < 300).map fun r => Text.lossy r.body

/-- Each server comes with what it answers, so that one which is listed twice can answer in two ways. -/
def ask : List (String × Outcome) → List String × Option String
  | [] => ([], none)
  | (server, outcome) :: rest =>
    match document? outcome with
    | some d => ([server], some d)
    | none => let (asked, d) := ask rest; (server :: asked, d)

def update? : String × String → Option Routing.Update
  | (id, value) =>
    if id = "sample" then some (.sample value)
    else if id = "routers" then some (.routers value)
    else if id = "block" then some (.block value)
    else none

def updates (document : String) : List Routing.Update :=
  (Routing.Property.parse document).filterMap update?

inductive Fault
  | allServersFailed
  deriving DecidableEq, Repr

def Fault.message : Fault → String
  | .allServersFailed => "No router server answered"

structure Polled where
  result : Except Fault Unit
  asked : List String
  routing : Routing

def pollEach (servers : List (String × Outcome)) (r : Routing) : Polled :=
  match ask servers with
  | (asked, some d) => ⟨.ok (), asked, (updates d).foldl Routing.apply r⟩
  | (asked, none) => ⟨.error .allServersFailed, asked, r⟩

def poll (answer : String → Outcome) (servers : List String) (r : Routing) : Polled :=
  pollEach (servers.map fun server => (server, answer server)) r

def formByte (b : UInt8) : List Char :=
  let c := Char.ofNat b.toNat
  if b < 0x80 && (c.isAlphanum || c == '*' || c == '-' || c == '.' || c == '_') then [c]
  else if c == ' ' then ['+']
  else '%' :: (Text.hexByte b).map Char.toUpper

def formText (s : String) : String := String.ofList ((Text.utf8 s).flatMap formByte)

def questions (s : Settings) : List (String × String) :=
  [("env", s.environment), ("domain", s.domain), ("ip", s.ip), ("hostname", s.hostname), ("op", "xml")]

def target (s : Settings) : String :=
  "/cat/s/router?" ++
    String.intercalate "&" ((questions s).map fun (k, v) => formText k ++ "=" ++ formText v)

def pollsDue (ms : Nat) : Nat := ms / pollInterval

end TraceRelay.Control
