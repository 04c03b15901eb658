import TraceRelay.Settings.Yaml.Node
import TraceRelay.Settings.Yaml.Scalar
import TraceRelay.Text.Split
/-! The values that nodes stand for. A reference stands for the last node whose anchor has its number, and a
document may follow only so many of them. A tag of its own wraps a value into tables named by it. -/
namespace TraceRelay.Settings.Yaml
open Text (Bytes utf8)

abbrev Anchors := List (Nat × Node)

abbrev Follow := StateT Nat Option

def Follow.demand {α : Type} (o : Option α) : Follow α := StateT.lift o

/-- References for each part of a document. -/
def followsPerPart : Nat := 100

def Anchors.get? (known : Anchors) (number : Nat) : Option Node :=
  ((known.reverse.find? (·.1 = number))).map (·.2)

def followed (known : Anchors) : Node → Follow Node
  | .reference number => do
    match ← get with
    | 0 => Follow.demand none
    | left + 1 =>
      set left
      Follow.demand (known.get? number)
  | n => return n

def ownPath? (tag : Bytes) : Option (List String) :=
  match tag with
  | 0x21 :: rest =>
    (Text.ofUtf8? (if rest = [] then tag else rest)).map fun name =>
      ((Text.splitOn '.' name.toList).map String.ofList).takeWhile (· ≠ "")
  | _ => none

def wrapped (tag : Option Bytes) (v : Value) : Value :=
  match tag.bind ownPath? with
  | some path => Value.nested path v
  | none => v

def isOwn (tag : Bytes) : Bool := tag.head? = some 0x21

def commonType? (tag : Bytes) : Option String :=
  let front := utf8 commonFront
  if front.isPrefixOf tag then Text.ofUtf8? (tag.drop front.length) else none

def scalar? (tag : Option Bytes) (plain : Bool) (s : String) : Option Value :=
  match tag with
  | none => some (untagged plain s)
  | some t =>
    if isOwn t then some (untagged plain s)
    else match commonType? t with
      | some type => ofCommonType? type s
      | none => some (.text s)

/-- The entry of a table that numbers where a value comes from; it is no part of the value. -/
def originKey : String := "___figment_value_id"

/-- The entry of a table that holds the value which the table as a whole stands for. -/
def insteadKey : String := "___figment_value_value"

def tableOrInstead (entries : List (String × Value)) : Value :=
  match entries.reverse.find? (·.1 = insteadKey) with
  | some (_, v) => v
  | none => Value.tableOf (entries.filter (·.1 ≠ originKey))

def isOrigin (n : Node) (v : Value) : Bool :=
  match n, v with
  | .scalar _ tag _ _, .integer i => !(tag.bind ownPath?).isSome && 0 ≤ i && i < UInt64.size
  | _, _ => false

def keyText (known : Anchors) (n : Node) : Follow String := do
  match ← followed known n with
  | .scalar _ _ _ s => return s
  | _ => Follow.demand none

def valueHere (known : Anchors) (within : Option (Node → Follow Value)) : Node → Follow Value
  | .scalar _ tag plain s => return wrapped tag (← Follow.demand (scalar? tag plain s))
  | .list _ tag items => do
    let value ← Follow.demand within
    return wrapped tag (.list (← items.mapM value))
  | .table _ tag entries => do
    let value ← Follow.demand within
    let es ← entries.mapM fun (k, n) => do
      let key ← keyText known k
      let n ← followed known n
      let v ← value n
      if key = originKey ∧ !isOrigin n v then Follow.demand none else return (key, v)
    return wrapped tag (tableOrInstead es)
  | .reference _ => Follow.demand none

/-- Collections lie within each other `depth` deep at most, also through references. -/
def value (known : Anchors) : Nat → Node → Follow Value
  | 0, n => do valueHere known none (← followed known n)
  | d + 1, n => do valueHere known (some (value known d)) (← followed known n)

def rootEntries (known : Anchors) : Node → Follow (List (String × Value))
  | .table _ _ entries => entries.mapM fun (k, n) => do
    return (← keyText known k, ← value known (Node.deepest - 1) n)
  | .scalar _ _ true "" => return []
  | _ => Follow.demand none

def Node.entries? (root : Node) : Option (List (String × Value)) :=
  ((rootEntries root.anchored root).run (followsPerPart * root.size)).map (·.1)

def entries? (source : String) : Option (List (String × Value)) := do
  match ← document? (← tokens? (← glyphs? source)) with
  | none => return []
  | some root => root.entries?

end TraceRelay.Settings.Yaml
