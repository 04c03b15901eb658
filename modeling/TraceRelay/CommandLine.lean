import TraceRelay.Agent
import TraceRelay.Text.Casing
import TraceRelay.Inbound.Place
import TraceRelay.Log.Filter
import TraceRelay.Settings.Layers
/-! The command: where its settings are, what it says before the log is open, and what the log says about a
run from start to end. -/
namespace TraceRelay.CommandLine

def pathVariable : String := "CAT_AGENT_CONFIG"
def levelVariable : String := "CAT_AGENT_LOG_LEVEL"
def hostVariable : String := "HOSTNAME"
def usualPath : String := "cat-agent.yaml"

def joinedPath? (argument : String) : Option String :=
  let cs := argument.toList
  let behind := fun front : List Char =>
    if front.isPrefixOf cs then some (String.ofList (cs.drop front.length)) else none
  behind "--conf=".toList <|> behind "-conf=".toList

def pathIn? : List String → Option String
  | [] => none
  | a :: rest =>
    match joinedPath? a with
    | some p => some p
    | none =>
      if a = "--conf" ∨ a = "-conf" then
        match rest with
        | p :: _ => some p
        | [] => none
      else pathIn? rest

abbrev Variables := List (String × String)

def valueOf? (name : String) (vs : Variables) : Option String := (vs.find? (·.1 = name)).map (·.2)

def path (arguments : List String) (vs : Variables) : String :=
  ((pathIn? arguments).orElse fun _ => valueOf? pathVariable vs).getD usualPath

def level (s : Settings) (vs : Variables) : String :=
  Text.lower ((valueOf? levelVariable vs).getD s.logLevel)

inductive Refusal
  | settings (path : String) (fault : Settings.Fault)
  | level (word : String) (fault : Log.Filter.Fault)
  deriving DecidableEq, Repr

def Refusal.message : Refusal → String
  | .settings path fault => "cat-agent: invalid configuration " ++ path ++ ": " ++ fault.message
  | .level word fault => "cat-agent: could not parse log level " ++ word ++ ": " ++ fault.message

def Refusal.status : Refusal → UInt32
  | .settings _ .splitCharacter | .level _ .splitCharacter => 101
  | _ => 1

structure Prepared where
  path : String
  settings : Settings
  filter : List Log.Filter.Directive

def prepare (arguments : List String) (vs : Variables) (file : String → Option String) (host : Host) :
    Except Refusal Prepared :=
  let p := path arguments vs
  match Settings.load? (file p) vs host with
  | .error f => .error (.settings p f)
  | .ok s =>
    let l := level s vs
    match Log.Filter.parse l with
    | .error f => .error (.level l f)
    | .ok ds => .ok ⟨p, s, ds⟩

def entry (level : Log.Level) (message : String) : Log.Event where
  level := level
  target := "cat_agent"
  message := message

def starting (p : Prepared) : Log.Event := entry .info ("Starting cat agent with config " ++ p.path)

inductive Course
  | notStarted (fault : Settings.Fault)
  | notBound (address : String) (fault : Inbound.Place.Fault)
  | stopped
  deriving DecidableEq, Repr

def Course.succeeded : Course → Bool
  | .stopped => true
  | _ => false

def Course.events : Course → List Log.Event
  | .notStarted f => [entry .error ("Failed to start cat agent: " ++ f.message)]
  | .notBound address f => [entry .error (f.message address)]
  | .stopped => [entry .info "Received shutdown signal", entry .info "Bye"]

def Prepared.shown (p : Prepared) (es : List Log.Event) : List Log.Event :=
  es.filter (Log.Filter.enabled p.filter)

end TraceRelay.CommandLine
