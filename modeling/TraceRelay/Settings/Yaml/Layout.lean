import TraceRelay.Settings.Yaml.Quoted
import TraceRelay.Settings.Yaml.Plain
import TraceRelay.Settings.Yaml.BlockText
import TraceRelay.Settings.Yaml.Token
/-! How the layout of a YAML text makes its tokens. Outside brackets the columns decide where collections begin and
end, and a word is a key only because of the colon behind it, so that its token is put in afterwards. A key stands on
one line and is short; what is longer has to be introduced by a question mark. -/
namespace TraceRelay.Settings.Yaml

/-- Where a key may have begun: `before` tokens stand in front of it. A required one has to become a key, since
nothing else can stand at its column. -/
structure KeySlot where
  start : Glyph
  before : Nat
  required : Bool
  deriving DecidableEq, Repr

/-- A key is this long at most, in bytes. -/
def longestKey : Nat := 1024

def KeySlot.isPast (k : KeySlot) (g : Glyph) : Bool :=
  k.start.line < g.line || k.start.octets + longestKey < g.octets

structure Layout where
  newestFirst : List Token := []
  count : Nat := 0
  columns : List Nat := []
  keyMayStart : Bool := true
  slot : Option KeySlot := none
  outer : List (Option KeySlot) := []
  deriving DecidableEq, Repr

namespace Layout

def inFlow (l : Layout) : Bool := !l.outer.isEmpty

def push (t : Token) (l : Layout) : Layout :=
  { l with newestFirst := t :: l.newestFirst, count := l.count + 1 }

def insert (before : Nat) (t : Token) (l : Layout) : Layout :=
  let after := l.count - before
  { l with newestFirst := l.newestFirst.take after ++ t :: l.newestFirst.drop after, count := l.count + 1 }

def forget? (slot : Option KeySlot) : Option (Option KeySlot) :=
  if slot.any KeySlot.required then none else some none

def dropSlot? (l : Layout) : Option Layout := (forget? l.slot).map fun s => { l with slot := s }

def passSlot? (g : Glyph) (slot : Option KeySlot) : Option (Option KeySlot) :=
  if slot.any (·.isPast g) then forget? slot else some slot

def passSlots? (g : Glyph) (l : Layout) : Option Layout := do
  return { l with slot := ← passSlot? g l.slot, outer := ← l.outer.mapM (passSlot? g) }

def openSlot? (g : Glyph) (l : Layout) : Option Layout :=
  if l.keyMayStart then
    let required := !l.inFlow && l.columns.head? == some g.column
    l.dropSlot?.map fun l => { l with slot := some ⟨g, l.count, required⟩ }
  else some l

def openBrackets (l : Layout) : Layout := { l with slot := none, outer := l.slot :: l.outer }

def closeBrackets (l : Layout) : Layout :=
  match l.outer with
  | [] => l
  | s :: rest => { l with slot := s, outer := rest }

def closeBlocksFrom (column : Option Nat) (l : Layout) : List Nat → Layout
  | [] => { l with columns := [] }
  | c :: cs =>
    if column.any (c ≤ ·) then { l with columns := c :: cs }
    else closeBlocksFrom column (l.push .blockEnd) cs

def closeBlocks (column : Option Nat) (l : Layout) : Layout :=
  if l.inFlow then l else closeBlocksFrom column l l.columns

def openBlock (column : Nat) (before : Nat) (t : Token) (l : Layout) : Layout :=
  if l.inFlow || l.columns.head?.any (column ≤ ·) then l
  else { l.insert before t with columns := column :: l.columns }

def mayStart (b : Bool) (l : Layout) : Layout := { l with keyMayStart := b }

def boundary? (l : Layout) (t : Token) : Option Layout := do
  return ((← (l.closeBlocks none).dropSlot?).mayStart false).push t

def opening? (l : Layout) (g : Glyph) (block t : Token) (next : Bool) : Option Layout :=
  if l.inFlow || l.keyMayStart then do
    return ((← (l.openBlock g.column l.count block).dropSlot?).mayStart next).push t
  else none

def value? (l : Layout) (g : Glyph) : Option Layout :=
  match l.slot with
  | some k =>
    let l := (l.insert k.before .key).openBlock k.start.column k.before .blockTable
    some ({ l with slot := none, keyMayStart := false }.push .value)
  | none =>
    if l.inFlow then some ((l.mayStart false).push .value)
    else if l.keyMayStart then some (((l.openBlock g.column l.count .blockTable).mayStart true).push .value)
    else none

def node? (l : Layout) (g : Glyph) (t : Token) : Option Layout :=
  (l.openSlot? g).map fun l => (l.mayStart false).push t

def least (l : Layout) : Nat :=
  match l.columns with
  | [] => 0
  | c :: _ => c + 1

def plain? (l : Layout) (g : Glyph) (gs : List Glyph) : Option (Layout × List Glyph) := do
  let p ← Yaml.plain? l.inFlow l.least gs
  let l ← l.node? g (.scalar true p.text)
  return (l.mayStart p.endedLine, p.rest)

def token? (l : Layout) (g : Glyph) (r : List Glyph) : Option (Layout × List Glyph) :=
  let gs := g :: r
  let standsAlone := endsWord (charAt r 0)
  if g.column = 0 ∧ g.char = '%' then do
    let (d, rest) ← directive? r
    return (← l.boundary? (.directive d), rest)
  else if startsDocumentMark gs then
    (l.boundary? (if g.char = '-' then .documentStart else .documentEnd)).map fun l => (l, gs.drop 3)
  else if g.char = '[' then
    (l.openSlot? g).map fun l => ((l.openBrackets.mayStart true).push .flowList, r)
  else if g.char = '{' then
    (l.openSlot? g).map fun l => ((l.openBrackets.mayStart true).push .flowTable, r)
  else if g.char = ']' then
    l.dropSlot?.map fun l => ((l.closeBrackets.mayStart false).push .flowListEnd, r)
  else if g.char = '}' then
    l.dropSlot?.map fun l => ((l.closeBrackets.mayStart false).push .flowTableEnd, r)
  else if g.char = ',' then l.dropSlot?.map fun l => ((l.mayStart true).push .comma, r)
  else if g.char = '-' ∧ standsAlone then (l.opening? g .blockList .dash true).map fun l => (l, r)
  else if g.char = '?' ∧ (l.inFlow ∨ standsAlone) then
    (l.opening? g .blockTable .key !l.inFlow).map fun l => (l, r)
  else if g.char = ':' ∧ (l.inFlow ∨ standsAlone) then (l.value? g).map fun l => (l, r)
  else if g.char = '*' then do
    let (name, rest) ← anchorName? r
    return (← l.node? g (.reference name), rest)
  else if g.char = '&' then do
    let (name, rest) ← anchorName? r
    return (← l.node? g (.anchor name), rest)
  else if g.char = '!' then do
    let (t, rest) ← tag? l.inFlow gs
    return (← l.node? g (.tag t), rest)
  else if (g.char = '|' ∨ g.char = '>') ∧ !l.inFlow then do
    let l ← l.dropSlot?
    let (text, rest) ← blockText? (g.char == '>') l.columns.head? r
    return ((l.mayStart true).push (.scalar false text), rest)
  else if g.char = '\'' ∨ g.char = '"' then do
    let (text, rest) ← quoted? gs
    return (← l.node? g (.scalar false text), rest)
  else l.plain? g gs

end Layout

/-- Past blanks, comments and line breaks, to where a token starts; a key may start after a break outside brackets.
A tab counts as a blank only where no key can start, and a byte order mark at the start of a line. -/
def skipTo (flow mayStart inComment : Bool) : List Glyph → Bool × List Glyph
  | [] => (mayStart, [])
  | g :: r =>
    if g.char == ending then (mayStart, g :: r)
    else if isBreak g.char then skipTo flow (mayStart || !flow) false r
    else if inComment || g.char == '#' then skipTo flow mayStart true r
    else if g.char == ' ' || (g.char == '\t' && (flow || !mayStart)) ||
        (g.column == 0 && g.char == '\uFEFF') then
      skipTo flow mayStart false r
    else (mayStart, g :: r)

/-- Every token takes at least one glyph, so `n` may be their number. -/
def tokensFrom? : Nat → Layout → List Glyph → Option (List Token)
  | 0, _, _ => none
  | n + 1, l, gs =>
    let (mayStart, gs) := skipTo l.inFlow l.keyMayStart false gs
    match gs with
    | [] => none
    | g :: r => do
      let l ← (l.mayStart mayStart).passSlots? g
      if g.char = ending then return (← (l.closeBlocks none).dropSlot?).newestFirst.reverse
      else
        let (l, rest) ← (l.closeBlocks (some g.column)).token? g r
        tokensFrom? n l rest

def tokens? (gs : List Glyph) : Option (List Token) := tokensFrom? gs.length {} gs

end TraceRelay.Settings.Yaml
