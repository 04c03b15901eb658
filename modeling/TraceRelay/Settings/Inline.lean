import TraceRelay.Settings.Value
import TraceRelay.Text.Blank
import TraceRelay.Text.Utf8
import TraceRelay.Decimal.Rounding
/-! Values written on one line, as in the environment: `true`, numbers, `[a, b]`, `{a=b}`, `"quoted"`,
and plain text for whatever else. What cannot be read to its end is plain text as a whole. -/
namespace TraceRelay.Settings.Inline

def isSpace (c : Char) : Bool :=
  c == ' ' || c == '\t' || c == '\n' || c == '\r' || c == '\x0c'

def skip (cs : List Char) : List Char := cs.dropWhile isSpace

def inWord (c : Char) : Bool := c != ',' && c != '{' && c != '}' && c != '[' && c != ']'

def inKey (c : Char) : Bool := c.isAlphanum || c == '_' || c == '-'

inductive Refusal
  | notWritten
  | splitsCharacter
  deriving DecidableEq, Repr

abbrev Reading := Except Refusal

def demand (o : Option α) : Reading α :=
  match o with
  | some a => .ok a
  | none => .error .notWritten

def rawQuoted? : List Char → Option (List Char × List Char)
  | [] => none
  | '"' :: r => some ([], r)
  | '\\' :: c :: r => (rawQuoted? r).map fun (raw, rest) => ('\\' :: c :: raw, rest)
  | c :: r => (rawQuoted? r).map fun (raw, rest) => (c :: raw, rest)

def codePoint? (digits : List Char) : Option Char := do
  let n ← digits.foldlM (fun n c => (Text.hexValue? c).map (n * 16 + ·)) 0
  if n.isValidChar then some (Char.ofNat n) else none

def simpleEscape? : Char → Option Char
  | '"' => some '"'
  | '\\' => some '\\'
  | 'b' => some '\x08'
  | 'f' => some '\x0c'
  | 'n' => some '\n'
  | 'r' => some '\r'
  | 't' => some '\t'
  | _ => none

def mayStand (c : Char) : Bool := c == '\t' || (0x20 ≤ c.toNat && c.toNat != 0x7F)

def digitsAfter (letter : Char) : Nat := if letter = 'u' then 4 else if letter = 'U' then 8 else 0

def escape? (letter : Char) (after : List Char) : Option Char :=
  let width := digitsAfter letter
  let digits := after.take width
  if width = 0 then simpleEscape? letter
  else if digits.length < width then none
  else codePoint? digits

def firstBytes? : Nat → List Char → Option (List Char)
  | 0, _ => some []
  | _ + 1, [] => none
  | n + 1, c :: r => if n + 1 < c.utf8Size then none else (firstBytes? (n + 1 - c.utf8Size) r).map (c :: ·)

/-- What the text holds, newest first, before its first escape: as many bytes of `raw` as characters were read. What
lies between those bytes and the escape is left out. -/
def heldBefore (raw : List Char) (place : Nat) (held : Option (List Char)) : Reading (List Char) :=
  match firstBytes? place raw, held with
  | none, _ => .error .splitsCharacter
  | some _, some text => .ok text
  | some front, none => .ok front.reverse

/-- Reads the inside of a quoted text from character number `place` on; `held` is the text so far, newest first,
once there was an escape, and `passed` characters belong to the escape before. -/
def unescapeFrom (raw : List Char) (place : Nat) (held : Option (List Char)) (passed : Nat) :
    List Char → Reading (Option (List Char))
  | [] => .ok held
  | c :: r =>
    match passed with
    | k + 1 => unescapeFrom raw (place + 1) held k r
    | 0 =>
      if c = '\\' then
        match r with
        | [] => .error .notWritten
        | letter :: after => do
          let text ← heldBefore raw place held
          let e ← demand (escape? letter after)
          unescapeFrom raw (place + 2) (some (e :: text)) (digitsAfter letter) after
      else if mayStand c then unescapeFrom raw (place + 1) (held.map (c :: ·)) 0 r
      else .error .notWritten

def unescape (raw : List Char) : Reading String := do
  match ← unescapeFrom raw 0 none 0 raw with
  | some newestFirst => return String.ofList newestFirst.reverse
  | none => return String.ofList raw

def quoted : List Char → Reading (String × List Char)
  | '"' :: r => do
    let (raw, rest) ← demand (rawQuoted? r)
    return (← unescape raw, rest)
  | _ => .error .notWritten

def ofWord (cs : List Char) : Value :=
  let asInteger : Value :=
    match Decimal.readInt? cs with
    | some i => if Int64.minValue.toInt ≤ i ∧ i < UInt64.size then .integer i else .text (String.ofList cs)
    | none => .text (String.ofList cs)
  if '.' ∈ cs then
    match Decimal.readFloat? cs with
    | some x => .fraction x
    | none => asInteger
  else asInteger

def key (cs : List Char) : Reading (String × List Char) :=
  match cs with
  | '"' :: _ => quoted cs
  | _ =>
    let k := cs.takeWhile inKey
    if k = [] then .error .notWritten else .ok (String.ofList k, cs.drop k.length)

mutual

/-- `depth` bounds the nesting and the items; the length of the text always suffices. -/
def value : Nat → List Char → Reading (Value × List Char)
  | 0, _ => .error .notWritten
  | n + 1, cs => do
    let cs := skip cs
    let (v, rest) ←
      if "true".toList.isPrefixOf cs then .ok (.flag true, cs.drop 4)
      else if "false".toList.isPrefixOf cs then .ok (.flag false, cs.drop 5)
      else match cs with
        | '{' :: r => do
          let (es, rest) ← entries n r
          .ok (Value.tableOf es, rest)
        | '[' :: r => do
          let (vs, rest) ← items n r
          .ok (.list vs, rest)
        | '"' :: _ => do
          let (s, rest) ← quoted cs
          .ok (.text s, rest)
        | '\'' :: c :: '\'' :: rest => .ok (.letter c, rest)
        | '\'' :: _ => .error .notWritten
        | _ =>
          let word := cs.takeWhile inWord
          .ok (ofWord (Text.trimChars word), cs.drop word.length)
    return (v, skip rest)

def items : Nat → List Char → Reading (List Value × List Char)
  | 0, _ => .error .notWritten
  | _, ']' :: r => .ok ([], r)
  | n + 1, cs => do
    let (v, rest) ← value n cs
    match rest with
    | ',' :: r =>
      let (vs, rest) ← items n r
      return (v :: vs, rest)
    | ']' :: r => return ([v], r)
    | _ => .error .notWritten

def entries : Nat → List Char → Reading (List (String × Value) × List Char)
  | 0, _ => .error .notWritten
  | _, '}' :: r => .ok ([], r)
  | n + 1, cs => do
    let (k, rest) ← key (skip cs)
    match skip rest with
    | '=' :: r =>
      let (v, rest) ← value n r
      match rest with
      | ',' :: r =>
        let (es, rest) ← entries n r
        return ((k, v) :: es, rest)
      | '}' :: r => return ([(k, v)], r)
      | _ => .error .notWritten
    | _ => .error .notWritten

end

def read? (s : String) : Option Value :=
  let cs := s.toList
  match value (2 * cs.length + 2) cs with
  | .ok (v, []) => some v
  | .error .splitsCharacter => none
  | _ => some (.text s)

end TraceRelay.Settings.Inline
