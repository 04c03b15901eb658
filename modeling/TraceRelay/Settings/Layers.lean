import TraceRelay.Settings.Typed
import TraceRelay.Settings.Inline
import TraceRelay.Settings.Yaml.Meaning
/-! Where settings come from: defaults, over them a file, over that the environment. -/
namespace TraceRelay.Settings
open Text (trimChars splitOn)

def variableFront : String := "CAT_AGENT_"

def dropFront? (front cs : List Char) : Option (List Char) :=
  if (cs.take front.length).map Char.toLower = front.map Char.toLower then some (cs.drop front.length)
  else none

def pointed : List Char → List Char
  | '_' :: '_' :: r => '.' :: pointed r
  | c :: r => c :: pointed r
  | [] => []

def variablePath? (name : String) : Option (List String) := do
  let rest ← dropFront? variableFront.toList (trimChars name.toList)
  let path := splitOn '.' (trimChars (pointed rest))
  if [] ∈ path then none else some (path.map fun p => String.ofList (p.map Char.toLower))

def environmentLayer? (vs : List (String × String)) : Option Value :=
  vs.foldlM (fun layer (name, value) =>
    match variablePath? name with
    | some path => (Inline.read? value).map fun v => (Value.nested path v).atop layer
    | none => some layer) Value.emptyTable

def fileLayer? : Option String → Option Value
  | none => some Value.emptyTable
  | some source => (Yaml.entries? source).map Value.tableOf

def load? (file : Option String) (vs : List (String × String)) (host : Host) :
    Except Fault Settings :=
  match environmentLayer? vs, fileLayer? file with
  | none, _ => .error .splitCharacter
  | some _, none => .error .unreadable
  | some upper, some lower =>
    match ofValue? (upper.atop lower) with
    | none => .error .unreadable
    | some s => s.checked? host

end TraceRelay.Settings
