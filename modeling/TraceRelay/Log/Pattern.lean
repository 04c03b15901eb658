import TraceRelay.Text.Blank
import TraceRelay.Text.Letters
import TraceRelay.Text.Utf8
/-! Patterns that the value of a field may be asked to fit, and which of them can be built. A pattern knows letters
beyond ASCII one by one: it has no table for classes of them, nor for their cases. It is written between braces
and thus holds no closing one, so that repetitions are not counted. -/
namespace TraceRelay.Log.Pattern

inductive Fault
  | malformed
  /-- It asks for the edge of a word among letters beyond ASCII. -/
  | wordEdge
  deriving DecidableEq, Repr

def Fault.message : Fault → String
  | .malformed => "error building NFA"
  | .wordEdge => "unsupported regex feature for DFAs: cannot build DFAs for regexes with Unicode word " ++
      "boundaries; switch to ASCII word boundaries, or heuristically enable Unicode word boundaries or " ++
      "use a different regex engine"

structure Mode where
  folds : Bool := false
  wide : Bool := true
  spaced : Bool := false
  deriving DecidableEq, Repr

namespace Mode

def takesCharacter (m : Mode) : Bool := !(m.folds && m.wide)

def takesInClass (m : Mode) (c : Char) : Bool := m.takesCharacter && (m.wide || c.toNat < 0x80)

def takesNegation (m : Mode) (negated : Bool) : Bool := !negated || m.wide

def skip (m : Mode) (inComment : Bool) : List Char → List Char
  | [] => []
  | c :: r =>
    if !m.spaced then c :: r
    else if inComment then m.skip (c ≠ '\n') r
    else if Text.isBlank c then m.skip false r
    else if c = '#' then m.skip true r
    else c :: r

end Mode

inductive Escape
  | character (c : Char)
  | digits | spaces | letters
  | edge (ofWord : Bool)
  deriving DecidableEq, Repr

def signs : List Char := "\\.+*?()|[]\x7b\x7d^$#&-~".toList

def escapable (c : Char) : Bool :=
  signs.contains c || (c.toNat < 0x80 && !c.isAlphanum && c != '<' && c != '>')

def controlEscape? : Char → Option Char
  | 'a' => some '\x07'
  | 'f' => some '\x0c'
  | 't' => some '\t'
  | 'n' => some '\n'
  | 'r' => some '\r'
  | 'v' => some '\x0b'
  | _ => none

def hex? (m : Mode) : Nat → Nat → List Char → Option (Nat × List Char)
  | 0, value, r => some (value, r)
  | n + 1, value, r =>
    match m.skip false r with
    | [] => none
    | c :: rest => (Text.hexValue? c).bind fun d => hex? m n (value * 16 + d) rest

def hexEscape? (m : Mode) (width : Nat) (r : List Char) : Option (Escape × List Char) := do
  let (n, rest) ← hex? m width 0 r
  let aByte := width = 2 ∧ 0x7F < n
  if !n.isValidChar ∨ (aByte ∧ !m.wide) then none else some (.character (Char.ofNat n), rest)

def escape? (m : Mode) : List Char → Option (Escape × List Char)
  | [] => none
  | c :: r =>
    if c = 'x' then hexEscape? m 2 r
    else if c = 'u' then hexEscape? m 4 r
    else if c = 'U' then hexEscape? m 8 r
    else if c = 'd' then some (.digits, r)
    else if c = 's' then some (.spaces, r)
    else if c = 'w' then some (.letters, r)
    else if escapable c then some (.character c, r)
    else if c = 'A' ∨ c = 'z' then some (.edge false, r)
    else if c = 'b' ∨ c = 'B' ∨ c = '<' ∨ c = '>' then some (.edge true, r)
    else (controlEscape? c).map fun e => (.character e, r)

def member? (m : Mode) : List Char → Option (Option Char × List Char)
  | [] => none
  | '\\' :: r => do
    match ← escape? m r with
    | (.character c, rest) => if m.takesInClass c then some (some c, rest) else none
    | (.edge _, _) => none
    | (_, rest) => if m.wide then none else some (none, rest)
  | c :: r => if m.takesInClass c then some (some c, r) else none

def range? (m : Mode) (cs : List Char) : Option (List Char) := do
  let (first, rest) ← member? m cs
  match m.skip false rest with
  | [] => none
  | '-' :: r =>
    match m.skip false r with
    | [] => none
    | ']' :: _ | '-' :: _ => some ('-' :: r)
    | r => do
      let (last, rest) ← member? m r
      match first, last with
      | some a, some b => if a ≤ b then some rest else none
      | _, _ => none
  | rest => some rest

def classNames : List String :=
  ["alnum", "alpha", "ascii", "blank", "cntrl", "digit", "graph", "lower", "print", "punct", "space", "upper",
    "word", "xdigit"]

def namedClass? : List Char → Option (Bool × List Char)
  | ':' :: r =>
    let (negated, r) := match r with
      | '^' :: r => (true, r)
      | r => (false, r)
    let name := r.takeWhile (· ≠ ':')
    match r.drop name.length with
    | ':' :: ']' :: rest => if classNames.contains (String.ofList name) then some (negated, rest) else none
    | _ => none
  | _ => none

def dashes (m : Mode) : Nat → List Char → List Char
  | n + 1, '-' :: r => dashes m n (m.skip false r)
  | _, cs => cs

def openClass? (m : Mode) (r : List Char) : Option (List Char) :=
  let r := m.skip false r
  let (negated, r) := match r with
    | '^' :: r => (true, m.skip false r)
    | r => (false, r)
  let members := dashes m r.length r
  let dashed := members.length < r.length
  if !m.takesNegation negated ∨ (dashed ∧ !m.takesCharacter) then none
  else match members with
    | ']' :: rest =>
      if dashed then some members else if m.takesCharacter then some (m.skip false rest) else none
    | _ => some members

/-- The rest of a class that lies `depth` brackets deep; `n` is at least the number of characters. -/
def class? (m : Mode) : Nat → Nat → List Char → Option (List Char)
  | 0, _, _ => none
  | n + 1, depth, cs =>
    match m.skip false cs with
    | [] => none
    | '[' :: r =>
      match namedClass? r with
      | some (negated, rest) =>
        if m.takesCharacter ∧ m.takesNegation negated then class? m n depth rest else none
      | none => (openClass? m r).bind (class? m n (depth + 1))
    | ']' :: r => if depth = 0 then some r else class? m n (depth - 1) r
    | '&' :: '&' :: r | '-' :: '-' :: r | '~' :: '~' :: r => class? m n depth r
    | cs => (range? m cs).bind (class? m n depth)

structure Flags where
  given : List Char := []
  negating : Bool := false
  mode : Mode

namespace Flags

def set (on : Bool) (flag : Char) (m : Mode) : Mode :=
  if flag = 'i' then { m with folds := on }
  else if flag = 'u' then { m with wide := on }
  else if flag = 'x' then { m with spaced := on }
  else m

def read? (f : Flags) : List Char → Option (Flags × Char × List Char)
  | [] => none
  | c :: r =>
    if c = ':' ∨ c = ')' then if f.given.head? = some '-' then none else some (f, c, r)
    else if f.given.contains c then none
    else if c = '-' then read? { f with given := c :: f.given, negating := true } r
    else if "imsuxUR".toList.contains c then
      read? { f with given := c :: f.given, mode := set (!f.negating) c f.mode } r
    else none

end Flags

structure Progress where
  mode : Mode := {}
  outer : List Mode := []
  repeatable : Bool := false
  names : List (List Char) := []
  wordEdge : Bool := false
  deriving DecidableEq, Repr

namespace Progress

def opened (p : Progress) (m : Mode) : Progress :=
  { p with mode := m, outer := p.mode :: p.outer, repeatable := false }

def item (p : Progress) : Progress := { p with repeatable := true }

def startsName (c : Char) : Bool := c == '_' || (Text.isAlphanumeric c && !c.isDigit)

def continuesName (c : Char) : Bool := c == '_' || c == '.' || c == '[' || c == ']' || Text.isAlphanumeric c

def named? (p : Progress) (r : List Char) : Option (Progress × List Char) :=
  let name := r.takeWhile (· ≠ '>')
  match r.drop name.length with
  | [] => none
  | _ :: rest =>
    if name.head?.any startsName ∧ name.all continuesName ∧ !p.names.contains name then
      some ({ p.opened p.mode with names := name :: p.names }, rest)
    else none

def group? (p : Progress) (r : List Char) : Option (Progress × List Char) :=
  match p.mode.skip false r with
  | '?' :: '=' :: _ | '?' :: '!' :: _ | '?' :: '<' :: '=' :: _ | '?' :: '<' :: '!' :: _ => none
  | '?' :: 'P' :: '<' :: r | '?' :: '<' :: r => p.named? r
  | '?' :: r => do
    let (f, close, rest) ← Flags.read? { mode := p.mode } r
    if close = ':' then some (p.opened f.mode, rest)
    else if f.given = [] then none
    else some ({ p with mode := f.mode, repeatable := false }, rest)
  | r => some (p.opened p.mode, r)

def escaped? (p : Progress) (r : List Char) : Option (Progress × List Char) := do
  match ← escape? p.mode r with
  | (.character _, rest) => if p.mode.takesCharacter then some (p.item, rest) else none
  | (.edge ofWord, rest) => some ({ p.item with wordEdge := p.wordEdge || (ofWord && p.mode.wide) }, rest)
  | (_, rest) => if p.mode.wide then none else some (p.item, rest)

def step? (p : Progress) (c : Char) (r : List Char) : Option (Progress × List Char) :=
  if c = '(' then p.group? r
  else if c = ')' then
    match p.outer with
    | [] => none
    | m :: rest => some ({ p.item with mode := m, outer := rest }, r)
  else if c = '|' then some ({ p with repeatable := false }, r)
  else if c = '[' then do
    let members ← openClass? p.mode r
    return (p.item, ← class? p.mode (r.length + 1) 0 members)
  else if c = '?' ∨ c = '*' ∨ c = '+' then if p.repeatable then some (p, r) else none
  else if c = '\x7b' then none
  else if c = '\\' then p.escaped? r
  else if c = '.' then if p.mode.wide then some (p.item, r) else none
  else if c = '^' ∨ c = '$' then some (p.item, r)
  else if p.mode.takesCharacter then some (p.item, r)
  else none

/-- Every step takes a character at least, so `n` may be one more than there are. -/
def run? : Nat → Progress → List Char → Option Progress
  | 0, _, _ => none
  | n + 1, p, cs =>
    match p.mode.skip false cs with
    | [] => if p.outer = [] then some p else none
    | c :: r => (p.step? c r).bind fun (p, rest) => run? n p rest

end Progress

def fault? (cs : List Char) : Option Fault :=
  match Progress.run? (cs.length + 1) {} cs with
  | none => some .malformed
  | some p => if p.wordEdge then some .wordEdge else none

end TraceRelay.Log.Pattern
