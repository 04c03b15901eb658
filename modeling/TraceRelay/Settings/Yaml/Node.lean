import TraceRelay.Settings.Yaml.Layout
import TraceRelay.Keyed
/-! The nodes that a stream of tokens writes. Anchors are numbered as they come, by the number of names in use so
far; a name that is used again gets a new number, which may be one that another name has too. -/
namespace TraceRelay.Settings.Yaml
open Text (Bytes utf8)

inductive Node
  | reference (anchor : Nat)
  | scalar (anchor : Option Nat) (tag : Option Bytes) (plain : Bool) (text : String)
  | list (anchor : Option Nat) (tag : Option Bytes) (items : List Node)
  | table (anchor : Option Nat) (tag : Option Bytes) (entries : List (Node × Node))
  deriving Inhabited, Repr

namespace Node

def missing : Node := .scalar none none true ""

/-- So many collections may lie within each other. -/
def deepest : Nat := 128

mutual

def size : Node → Nat
  | .reference _ => 1
  | .scalar .. => 1
  | .list _ _ items => sizeOfItems items + 2
  | .table _ _ entries => sizeOfEntries entries + 2

def sizeOfItems : List Node → Nat
  | [] => 0
  | n :: ns => size n + sizeOfItems ns

def sizeOfEntries : List (Node × Node) → Nat
  | [] => 0
  | (k, v) :: es => size k + size v + sizeOfEntries es

end

mutual

def anchored : Node → List (Nat × Node)
  | .reference _ => []
  | .scalar a t p s => (a.map fun i => (i, .scalar a t p s)).toList
  | .list a t items => (a.map fun i => (i, .list a t items)).toList ++ anchoredItems items
  | .table a t entries => (a.map fun i => (i, .table a t entries)).toList ++ anchoredEntries entries

def anchoredItems : List Node → List (Nat × Node)
  | [] => []
  | n :: ns => anchored n ++ anchoredItems ns

def anchoredEntries : List (Node × Node) → List (Nat × Node)
  | [] => []
  | (k, v) :: es => anchored k ++ anchored v ++ anchoredEntries es

end

end Node

abbrev Fronts := List (String × Bytes)

def commonFront : String := "tag:yaml.org,2002:"

def usualFronts : Fronts := [("!", utf8 "!"), ("!!", utf8 commonFront)]

def Tag.full? (given : Fronts) (t : Tag) : Option Bytes :=
  if t.handle = "" then some t.suffix
  else ((given ++ usualFronts).find? (·.1 = t.handle)).map (·.2 ++ t.suffix)

structure Reader where
  tokens : List Token
  fronts : Fronts := []
  anchors : List (String × Nat) := []

abbrev Read := StateT Reader Option

namespace Read

def refuse {α : Type} : Read α := StateT.lift none

def demand {α : Type} (o : Option α) : Read α := StateT.lift o

def peek : Read (Option Token) := do return (← get).tokens.head?

def skip : Read Unit := modify fun r => { r with tokens := r.tokens.drop 1 }

def nextIn (ts : List Token) : Read Bool := do return (← peek).any (ts.contains ·)

def took (t : Token) : Read Bool := do
  let here ← nextIn [t]
  if here then skip
  return here

def expect (t : Token) : Read Unit := do
  if !(← took t) then refuse

def orMissing (stops : List Token) (node : Read Node) : Read Node := do
  if ← nextIn stops then return Node.missing else node

def valueOrMissing (stops : List Token) (node : Read Node) : Read Node := do
  if ← took .value then orMissing stops node else return Node.missing

def rounds : Read Nat := do return (← get).tokens.length + 1

def number (name : String) : Read Nat := do
  let r ← get
  let n := r.anchors.length
  set { r with anchors := Keyed.upsert name (fun _ => n) r.anchors }
  return n

def numberOf (name : String) : Read Nat := do demand (Keyed.get? name (← get).anchors)

def anchor? : Read (Option Nat) := do
  match ← peek with
  | some (.anchor name) => do
    skip
    return some (← number name)
  | _ => return none

def tag? : Read (Option Bytes) := do
  match ← peek with
  | some (.tag t) => do
    skip
    return some (← demand (t.full? (← get).fronts))
  | _ => return none

def properties : Read (Option Nat × Option Bytes) := do
  match ← anchor? with
  | some a => return (some a, ← tag?)
  | none =>
    let t ← tag?
    if t.isSome then return (← anchor?, t) else return (none, none)

def blockItems (node : Read Node) : Nat → List Node → Read (List Node)
  | 0, _ => refuse
  | n + 1, items => do
    if ← took .dash then
      let item ← orMissing [.dash, .blockEnd] node
      blockItems node n (item :: items)
    else
      expect .blockEnd
      return items.reverse

/-- Items of a list as deep as the table around it; nothing marks its end. -/
def levelItems (node : Read Node) : Nat → List Node → Read (List Node)
  | 0, _ => refuse
  | n + 1, items => do
    if ← took .dash then
      let item ← orMissing [.dash, .key, .value, .blockEnd] node
      levelItems node n (item :: items)
    else return items.reverse

def blockEntries (node : Read Node) : Nat → List (Node × Node) → Read (List (Node × Node))
  | 0, _ => refuse
  | n + 1, entries => do
    if ← took .key then
      let k ← orMissing [.key, .value, .blockEnd] node
      let v ← valueOrMissing [.key, .value, .blockEnd] node
      blockEntries node n ((k, v) :: entries)
    else
      expect .blockEnd
      return entries.reverse

/-- After a key mark in brackets: a table of one entry. Where no key stands, the token there is lost. -/
def flowPair (node : Read Node) : Read Node := do
  let k ←
    if ← nextIn [.value, .comma, .flowListEnd] then do
      skip
      pure Node.missing
    else node
  let v ← valueOrMissing [.comma, .flowListEnd] node
  return .table none none [(k, v)]

def flowItems (node : Read Node) : Nat → List Node → Read (List Node)
  | 0, _ => refuse
  | n + 1, items => do
    if ← took .flowListEnd then return items.reverse
    if !items.isEmpty then expect .comma
    if ← took .flowListEnd then return items.reverse
    let item ← if ← took .key then flowPair node else node
    flowItems node n (item :: items)

def flowEntry (node : Read Node) : Read (Node × Node) := do
  if ← took .key then
    let k ← orMissing [.value, .comma, .flowTableEnd] node
    return (k, ← valueOrMissing [.comma, .flowTableEnd] node)
  else return (← node, Node.missing)

def flowEntries (node : Read Node) : Nat → List (Node × Node) → Read (List (Node × Node))
  | 0, _ => refuse
  | n + 1, entries => do
    if ← took .flowTableEnd then return entries.reverse
    if !entries.isEmpty then expect .comma
    if ← took .flowTableEnd then return entries.reverse
    let entry ← flowEntry node
    flowEntries node n (entry :: entries)

inductive Site
  | flow
  | item
  | entry
  deriving DecidableEq, Repr

def collection (node : Site → Read Node) (place : Site) (a : Option Nat) (t : Option Bytes) : Read Node := do
  let n ← rounds
  let next ← peek
  if next = some .flowList then
    skip
    return .list a t (← flowItems (node .flow) n [])
  else if next = some .flowTable then
    skip
    return .table a t (← flowEntries (node .flow) n [])
  else if next = some .blockList ∧ place ≠ .flow then
    skip
    return .list a t (← blockItems (node .item) n [])
  else if next = some .blockTable ∧ place ≠ .flow then
    skip
    return .table a t (← blockEntries (node .entry) n [])
  else if next = some .dash ∧ place = .entry then
    return .list a t (← levelItems (node .item) n [])
  else refuse

def startsCollection (place : Site) : Read Bool := do
  match ← peek with
  | some .flowList | some .flowTable => return true
  | some .blockList | some .blockTable => return place ≠ .flow
  | some .dash => return place = .entry
  | _ => return false

/-- A node may hold collections `depth` deep. An anchor or a tag without anything else stands for a missing value. -/
def node : Nat → Site → Read Node
  | depth, place => do
    match ← peek with
    | some (.reference name) => do
      skip
      return .reference (← numberOf name)
    | _ =>
      let (a, t) ← properties
      if ← startsCollection place then
        match depth with
        | 0 => refuse
        | d + 1 => collection (node d) place a t
      else
        match ← peek with
        | some (.scalar plain text) => do
          skip
          return .scalar a t plain text
        | _ => if a.isSome ∨ t.isSome then return .scalar a t true "" else refuse

def knownVersion (major minor : Nat) : Bool := major = 1 && (minor = 1 || minor = 2)

def directives (versioned : Bool) : Nat → Read Unit
  | 0 => refuse
  | n + 1 => do
    match ← peek with
    | some (.directive (.version major minor)) => do
      skip
      if versioned || !knownVersion major minor then refuse
      directives true n
    | some (.directive (.front handle bytes)) => do
      skip
      if (← get).fronts.any (·.1 = handle) then refuse
      modify fun r => { r with fronts := r.fronts ++ [(handle, bytes)] }
      directives versioned n
    | _ => return ()

def startsDirective : Read Bool := do
  match ← peek with
  | some (.directive _) => return true
  | _ => return false

def root : Read Node := do
  if (← startsDirective) || (← nextIn [.documentStart]) then
    directives false (← rounds)
    expect .documentStart
    if (← peek).isNone || (← startsDirective) || (← nextIn [.documentStart, .documentEnd]) then
      return Node.missing
    else node Node.deepest .item
  else node Node.deepest .item

def document? : Read (Option Node) := do
  if (← peek).isNone then return none
  let n ← root
  modify fun r => { r with tokens := r.tokens.dropWhile (· = .documentEnd) }
  if (← peek).isNone then return some n else refuse

end Read

def document? (tokens : List Token) : Option (Option Node) :=
  (Read.document?.run { tokens := tokens }).map (·.1)

end TraceRelay.Settings.Yaml
