import TraceRelay.Settings.Yaml.Glyph
/-! Names of anchors, tags, and the directives that set the front parts of tags. A tag is a string of bytes, since
escapes may write any; nothing after a zero byte counts. -/
namespace TraceRelay.Settings.Yaml
open Text (Bytes utf8 hexValue?)

structure Tag where
  handle : String
  suffix : Bytes
  deriving DecidableEq, Repr

def nameAt (gs : List Glyph) : List Char := (gs.takeWhile fun g => inName g.char).map Glyph.char

def anchorName? (gs : List Glyph) : Option (String × List Glyph) :=
  let name := nameAt gs
  let rest := gs.drop name.length
  let next := charAt rest 0
  if name ≠ [] ∧ (endsWord next ∨ next ∈ "?:,]\x7d%@\x60".toList) then some (String.ofList name, rest) else none

def inTag (writtenOut : Bool) (c : Char) : Bool :=
  inName c || ";/?:@&=+$.!~*'()".toList.contains c || (writtenOut && (c == ',' || c == '[' || c == ']'))

def announced (b : UInt8) : Nat :=
  if b < 0x80 then 1
  else if b < 0xC0 then 0
  else if b < 0xE0 then 2
  else if b < 0xF0 then 3
  else if b < 0xF8 then 4
  else 0

/-- Characters as their bytes and escaped bytes, newest first in `done`; a sequence of escapes has to have the
shape of a character, and `owed` bytes of it are still missing. -/
def tagBytesFrom? (writtenOut : Bool) (done : Bytes) (owed : Nat) : List Glyph → Option (Bytes × List Glyph)
  | [] => none
  | g :: r =>
    if g.char == '%' then
      match r with
      | a :: b :: r' =>
        match hexValue? a.char, hexValue? b.char with
        | some x, some y =>
          let byte := UInt8.ofNat (x * 16 + y)
          if owed = 0 then
            if announced byte = 0 then none
            else tagBytesFrom? writtenOut (byte :: done) (announced byte - 1) r'
          else if 0x80 ≤ byte ∧ byte < 0xC0 then tagBytesFrom? writtenOut (byte :: done) (owed - 1) r'
          else none
        | _, _ => none
      | _ => none
    else if owed ≠ 0 then none
    else if inTag writtenOut g.char then
      tagBytesFrom? writtenOut ((String.utf8EncodeChar g.char).reverse ++ done) 0 r
    else some (done.reverse, g :: r)

def tagBytes? (writtenOut : Bool) : List Glyph → Option (Bytes × List Glyph) := tagBytesFrom? writtenOut [] 0

structure Handle where
  name : List Char
  closed : Bool
  deriving DecidableEq, Repr

def Handle.text (h : Handle) : String := String.ofList ('!' :: h.name ++ (if h.closed then ['!'] else []))

def Handle.read? (gs : List Glyph) : Option (Handle × List Glyph) :=
  if charAt gs 0 = '!' then
    let name := nameAt (gs.drop 1)
    let rest := gs.drop (name.length + 1)
    if charAt rest 0 = '!' then some (⟨name, true⟩, rest.drop 1) else some (⟨name, false⟩, rest)
  else none

def untilZero (bs : Bytes) : Bytes := bs.takeWhile (· ≠ 0)

def Tag.marked (suffix : Bytes) : Tag :=
  if suffix = [] then ⟨"", utf8 "!"⟩ else ⟨"!", suffix⟩

def Tag.read? (gs : List Glyph) : Option (Tag × List Glyph) :=
  if charAt gs 1 = '<' then do
    let (bytes, rest) ← tagBytes? true (gs.drop 2)
    if bytes ≠ [] ∧ charAt rest 0 = '>' then some (⟨"", untilZero bytes⟩, rest.drop 1) else none
  else do
    let (handle, rest) ← Handle.read? gs
    let (bytes, rest) ← tagBytes? false rest
    if handle.closed then
      if bytes = [] then none else some (⟨handle.text, untilZero bytes⟩, rest)
    else some (Tag.marked (untilZero (utf8 (String.ofList handle.name) ++ bytes)), rest)

def tag? (flow : Bool) (gs : List Glyph) : Option (Tag × List Glyph) :=
  (Tag.read? gs).filter fun (_, rest) => endsWord (charAt rest 0) || (flow && charAt rest 0 == ',')

inductive Directive
  | version (major minor : Nat)
  | front (handle : String) (bytes : Bytes)
  deriving DecidableEq, Repr

def versionPart? (gs : List Glyph) : Option (Nat × List Glyph) :=
  let digits := (gs.takeWhile fun g => g.char.isDigit).map Glyph.char
  if digits = [] ∨ 9 < digits.length then none
  else some (Nat.ofDigitChars 10 digits 0, gs.drop digits.length)

def version? (gs : List Glyph) : Option (Directive × List Glyph) := do
  let (major, rest) ← versionPart? (skipBlanks gs)
  if charAt rest 0 = '.' then
    let (minor, rest) ← versionPart? (rest.drop 1)
    return (.version major minor, rest)
  else none

def front? (gs : List Glyph) : Option (Directive × List Glyph) := do
  let (handle, rest) ← Handle.read? (skipBlanks gs)
  if (handle.closed ∨ handle.name = []) ∧ isBlank (charAt rest 0) then
    let (bytes, rest) ← tagBytes? true (skipBlanks rest)
    if bytes ≠ [] ∧ endsWord (charAt rest 0) then some (.front handle.text (untilZero bytes), rest) else none
  else none

def directive? (gs : List Glyph) : Option (Directive × List Glyph) := do
  let name := nameAt gs
  let rest := gs.drop name.length
  let (directive, rest) ←
    if !endsWord (charAt rest 0) then none
    else if name = "YAML".toList then version? rest
    else if name = "TAG".toList then front? rest
    else none
  return (directive, ← restOfLine? rest)

end TraceRelay.Settings.Yaml
