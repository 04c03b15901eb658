import TraceRelay.Settings.Yaml.Glyph
/-! Scalars written as a block of lines under a header. The first line that is not empty sets the indentation
unless the header does. Lines stay as they are or fold; the breaks at the end are stripped, clipped to one or kept. -/
namespace TraceRelay.Settings.Yaml

inductive Chomping
  | strip
  | clip
  | keep
  deriving DecidableEq, Repr

structure BlockHeader where
  folds : Bool
  chomping : Chomping := .clip
  deeper : Nat := 0
  deriving DecidableEq, Repr

def chomping? (c : Char) : Option Chomping :=
  if c = '+' then some .keep else if c = '-' then some .strip else none

def deeper? (c : Char) : Option Nat :=
  if '1' ≤ c ∧ c ≤ '9' then some (c.toNat - '0'.toNat) else none

def BlockHeader.read? (folds : Bool) (gs : List Glyph) : Option (BlockHeader × List Glyph) :=
  let a := charAt gs 0
  let b := charAt gs 1
  match chomping? a, chomping? b with
  | some chomp, _ =>
    if b = '0' then none
    else match deeper? b with
      | some n => some (⟨folds, chomp, n⟩, gs.drop 2)
      | none => some (⟨folds, chomp, 0⟩, gs.drop 1)
  | none, after =>
    if a = '0' then none
    else match deeper? a, after with
      | some n, some chomp => some (⟨folds, chomp, n⟩, gs.drop 2)
      | some n, none => some (⟨folds, .clip, n⟩, gs.drop 1)
      | none, _ => some (⟨folds, .clip, 0⟩, gs)

structure BlockText where
  text : List Char := []
  indent : Nat
  deepest : Nat := 0
  inLine : Bool := false
  ended : Option Char := none
  empties : List Char := []
  startedBlank : Bool := false
  deriving DecidableEq, Repr

namespace BlockText

def startLine (folds : Bool) (indent : Nat) (c : Char) (b : BlockText) : BlockText :=
  let joined :=
    if folds && b.ended == some '\n' && !b.startedBlank && !isBlank c then
      if b.empties.isEmpty then ' ' :: b.text else b.text
    else b.ended.toList ++ b.text
  { b with
    text := c :: (b.empties ++ joined), indent := indent, inLine := true, ended := none, empties := [],
    startedBlank := isBlank c }

def close (chomping : Chomping) (b : BlockText) : String :=
  String.ofList (match chomping with
    | .strip => b.text
    | .clip => b.ended.toList ++ b.text
    | .keep => b.empties ++ (b.ended.toList ++ b.text)).reverse

def linesFrom? (folds : Bool) (least : Nat) (b : BlockText) : List Glyph → Option (BlockText × List Glyph)
  | [] => none
  | g :: r =>
    if b.inLine then
      if isBreak g.char then linesFrom? folds least { b with inLine := false, ended := some g.char } r
      else if g.char == ending then some (b, g :: r)
      else linesFrom? folds least { b with text := g.char :: b.text } r
    else
      let before := b.indent == 0 || g.column < b.indent
      if before && g.char == ' ' then linesFrom? folds least b r
      else if before && g.char == '\t' then none
      else
        let b := { b with deepest := max b.deepest g.column }
        if isBreak g.char then linesFrom? folds least { b with empties := g.char :: b.empties } r
        else
          let indent := if b.indent == 0 then max b.deepest least else b.indent
          if g.column == indent && g.char != ending then linesFrom? folds least (b.startLine folds indent g.char) r
          else some ({ b with indent := indent }, g :: r)

end BlockText

def blockText? (folds : Bool) (parent : Option Nat) (gs : List Glyph) : Option (String × List Glyph) := do
  let (header, rest) ← BlockHeader.read? folds gs
  let rest ← restOfLine? rest
  let indent := if header.deeper = 0 then 0 else parent.getD 0 + header.deeper
  let least := match parent with
    | some column => column + 1
    | none => 1
  let (block, rest) ← BlockText.linesFrom? folds least { indent := indent } rest
  return (block.close header.chomping, rest)

end TraceRelay.Settings.Yaml
