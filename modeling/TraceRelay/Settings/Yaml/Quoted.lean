import TraceRelay.Settings.Yaml.Gap
/-! Scalars in quotes. Their lines fold; in double quotes a backslash starts an escape, and before the end of a
line takes the break away. A document mark may not stand inside. -/
namespace TraceRelay.Settings.Yaml

/-- After the opening quote; `text` is what was read so far, newest first. A quote inside is written twice. -/
def singleQuotedFrom? (text : List Char) (gap : Gap) : List Glyph → Option (String × List Glyph)
  | [] => none
  | g :: r =>
    if isBlank g.char || isBreak g.char then singleQuotedFrom? text (gap.add g.char) r
    else if g.char == ending || startsDocumentMark (g :: r) then none
    else
      let text := gap.folded ++ text
      if g.char != '\'' then singleQuotedFrom? (g.char :: text) {} r
      else match r with
        | [] => none
        | q :: r' =>
          if q.char == '\'' then singleQuotedFrom? ('\'' :: text) {} r'
          else some (String.ofList text.reverse, r)

def namedEscape? : Char → Option Char
  | '0' => some '\x00'
  | 'a' => some '\x07'
  | 'b' => some '\x08'
  | 't' => some '\t'
  | '\t' => some '\t'
  | 'n' => some '\n'
  | 'v' => some '\x0b'
  | 'f' => some '\x0c'
  | 'r' => some '\r'
  | 'e' => some '\x1b'
  | ' ' => some ' '
  | '"' => some '"'
  | '/' => some '/'
  | '\\' => some '\\'
  | 'N' => some '\u0085'
  | '_' => some '\u00a0'
  | 'L' => some '\u2028'
  | 'P' => some '\u2029'
  | _ => none

def digitsAfter : Char → Nat
  | 'x' => 2
  | 'u' => 4
  | 'U' => 8
  | _ => 0

def codePoint? (digits : List Char) : Option Char := do
  let n ← digits.foldlM (fun n c => (Text.hexValue? c).map (n * 16 + ·)) 0
  if n.isValidChar then some (Char.ofNat n) else none

def escape? (letter : Char) (after : List Glyph) : Option (Char × Nat) :=
  let width := digitsAfter letter
  if width = 0 then (namedEscape? letter).map fun c => (c, 0)
  else
    let digits := (after.take width).map Glyph.char
    if digits.length < width then none else (codePoint? digits).map fun c => (c, width)

/-- After the opening quote; `passed` glyphs still belong to the escape before. -/
def doubleQuotedFrom? (text : List Char) (gap : Gap) (passed : Nat) :
    List Glyph → Option (String × List Glyph)
  | [] => none
  | g :: r =>
    match passed with
    | k + 1 => doubleQuotedFrom? text gap k r
    | 0 =>
      if isBlank g.char || isBreak g.char then doubleQuotedFrom? text (gap.add g.char) 0 r
      else if g.char == ending || startsDocumentMark (g :: r) then none
      else
        let text := gap.folded ++ text
        if g.char == '"' then some (String.ofList text.reverse, r)
        else if g.char == '\\' then
          match r with
          | [] => none
          | e :: r' =>
            if isBreak e.char then doubleQuotedFrom? text Gap.joined 0 r'
            else match escape? e.char r' with
              | some (c, width) => doubleQuotedFrom? (c :: text) {} width r'
              | none => none
        else doubleQuotedFrom? (g.char :: text) {} 0 r

def quoted? : List Glyph → Option (String × List Glyph)
  | [] => none
  | g :: r =>
    if g.char == '\'' then singleQuotedFrom? [] {} r
    else if g.char == '"' then doubleQuotedFrom? [] {} 0 r
    else none

end TraceRelay.Settings.Yaml
