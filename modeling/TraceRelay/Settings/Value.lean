import TraceRelay.Keyed
/-! Values of the settings before they get their types, and the layering of one source over another. -/
namespace TraceRelay.Settings

inductive Value
  | missing
  | flag (b : Bool)
  | integer (i : Int)
  | fraction (x : Float)
  | text (s : String)
  /-- One character between single quotes; a text wherever a text is asked for alone. -/
  | letter (c : Char)
  | list (items : List Value)
  | table (entries : List (String × Value))
  deriving Repr, Inhabited

namespace Value

def emptyTable : Value := .table []

def get? (key : String) : List (String × Value) → Option Value := Keyed.get? key

def tableOf (entries : List (String × Value)) : Value :=
  .table (entries.foldl (fun t (k, v) => Keyed.upsert k (fun _ => v) t) [])

def nested : List String → Value → Value
  | [], v => v
  | k :: ks, v => .table [(k, nested ks v)]

mutual

def atop (upper lower : Value) : Value :=
  match upper, lower with
  | .table us, .table ls => .table (atopEntries us ls)
  | v, _ => v
termination_by (sizeOf upper, 0)

def atopEntries (us ls : List (String × Value)) : List (String × Value) :=
  match us with
  | [] => ls
  | (k, v) :: rest =>
    atopEntries rest (Keyed.upsert k (fun old => match old with
      | some o => atop v o
      | none => v) ls)
termination_by (sizeOf us, 1)

end

end Value

end TraceRelay.Settings
