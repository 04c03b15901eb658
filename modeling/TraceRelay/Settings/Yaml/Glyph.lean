import TraceRelay.Text.Utf8
/-! The characters of a YAML text, each with its place, and what kinds of them there are. A line ends with a
line feed, a carriage return, both, or U+0085, which all count as a line feed, or with U+2028 or U+2029. -/
namespace TraceRelay.Settings.Yaml

structure Glyph where
  char : Char
  line : Nat
  column : Nat
  octets : Nat
  deriving DecidableEq, Repr

/-- Closes every text, and gives its end a place. It is not readable, so no text holds it. -/
def ending : Char := '\x00'

def readable (c : Char) : Bool :=
  let n := c.toNat
  n == 9 || n == 0xA || n == 0xD || (0x20 ≤ n && n ≤ 0x7E) || n == 0x85 ||
    (0xA0 ≤ n && n ≤ 0xFFFD) || 0x10000 ≤ n

def isBlank (c : Char) : Bool := c == ' ' || c == '\t'

def isBreak (c : Char) : Bool := c == '\n' || c == '\u2028' || c == '\u2029'

def endsLine (c : Char) : Bool := isBreak c || c == ending

def endsWord (c : Char) : Bool := isBlank c || endsLine c

def isFlowMark (c : Char) : Bool := c == ',' || c == '[' || c == ']' || c == '{' || c == '}'

def inName (c : Char) : Bool := c.isAlphanum || c == '-' || c == '_'

def lineFeeds (c : Char) : Bool := c == '\n' || c == '\r' || c == '\u0085'

def layOut (done : List Glyph) (line column octets : Nat) : List Char → List Glyph
  | [] => (⟨ending, line, column, octets⟩ :: done).reverse
  | '\r' :: '\n' :: r => layOut (⟨'\n', line, column, octets⟩ :: done) (line + 1) 0 (octets + 2) r
  | c :: r =>
    let next := octets + c.utf8Size
    if lineFeeds c then layOut (⟨'\n', line, column, octets⟩ :: done) (line + 1) 0 next r
    else if isBreak c then layOut (⟨c, line, column, octets⟩ :: done) (line + 1) 0 next r
    else layOut (⟨c, line, column, octets⟩ :: done) line (column + 1) next r

def glyphs? (source : String) : Option (List Glyph) :=
  let cs := source.toList
  if cs.all readable then some (layOut [] 0 0 0 cs) else none

def charAt (gs : List Glyph) (k : Nat) : Char :=
  match gs[k]? with
  | some g => g.char
  | none => ending

def skipBlanks (gs : List Glyph) : List Glyph := gs.dropWhile fun g => isBlank g.char

def restOfLine? (gs : List Glyph) : Option (List Glyph) :=
  let afterBlanks := skipBlanks gs
  let atEnd :=
    if charAt afterBlanks 0 = '#' then afterBlanks.dropWhile fun g => !endsLine g.char else afterBlanks
  match atEnd with
  | [] => none
  | g :: r =>
    if isBreak g.char then some r else if g.char == ending then some (g :: r) else none

def startsDocumentMark (gs : List Glyph) : Bool :=
  match gs with
  | ⟨a, _, 0, _⟩ :: ⟨b, _, _, _⟩ :: ⟨c, _, _, _⟩ :: r =>
    (a == '-' || a == '.') && b == a && c == a && endsWord (charAt r 0)
  | _ => false

end TraceRelay.Settings.Yaml
