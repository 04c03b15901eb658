import TraceRelay.Text.Scan
/-! Documents of properties: `property` elements, each with an `id` and a `value` attribute among
others, in any order and either quote. Whatever else the document holds is passed over. -/
namespace TraceRelay.Routing.Property
open Text (matchesOf replaceAll)

def isSpace (c : Char) : Bool := c == ' ' || c == '\t' || c == '\r' || c == '\n'

def startsName (c : Char) : Bool := c.isAlpha || c == '_'

def inName (c : Char) : Bool := c.isAlphanum || c == '_' || c == '.' || c == ':' || c == '-'

structure Attribute where
  name : List Char
  raw : List Char
  deriving DecidableEq, Repr

def quoted? : List Char → Option (List Char × Nat)
  | q :: r =>
    if q = '"' ∨ q = '\'' then
      let body := r.takeWhile (· ≠ q)
      if body.length < r.length then some (body, body.length + 2) else none
    else none
  | [] => none

def attributeHere? (cs : List Char) : Option (Attribute × Nat) :=
  match cs with
  | [] => none
  | c :: _ =>
    if startsName c then
      let name := cs.takeWhile inName
      let gap := (cs.drop name.length).takeWhile isSpace
      match cs.drop (name.length + gap.length) with
      | '=' :: r =>
        let space := r.takeWhile isSpace
        (quoted? (r.drop space.length)).map fun (raw, n) =>
          (⟨name, raw⟩, name.length + gap.length + 1 + space.length + n)
      | _ => none
    else none

def attributes (cs : List Char) : List Attribute := matchesOf attributeHere? cs

def opening : List Char := "<property".toList

def elementHere? (cs : List Char) : Option (List Char × Nat) :=
  if opening.isPrefixOf cs then
    let r := cs.drop opening.length
    let inside := r.takeWhile (· ≠ '>')
    let spaced : Bool := match inside with
      | [] => true
      | c :: _ => isSpace c
    if spaced && inside.length < r.length then some (inside, opening.length + inside.length + 1)
    else none
  else none

def lessThan : List Char := "&lt;".toList
def greaterThan : List Char := "&gt;".toList
def doubleQuote : List Char := "&quot;".toList
def singleQuote : List Char := "&apos;".toList
def ampersand : List Char := "&amp;".toList

/-- The five predefined entities, one after the other; the ampersand comes last so that its image is
not taken for the start of another entity. -/
def unescape (cs : List Char) : List Char :=
  if '&' ∈ cs then
    replaceAll ampersand ['&'] (replaceAll singleQuote ['\''] (replaceAll doubleQuote ['"']
      (replaceAll greaterThan ['>'] (replaceAll lessThan ['<'] cs))))
  else cs

def lastNamed? (name : List Char) (as : List Attribute) : Option (List Char) :=
  (as.reverse.find? (·.name = name)).map (·.raw)

def ofElement? (inside : List Char) : Option (String × String) := do
  let as := attributes inside
  let id ← lastNamed? "id".toList as
  let value ← lastNamed? "value".toList as
  return (String.ofList (unescape id), String.ofList (unescape value))

def parse (document : String) : List (String × String) :=
  (matchesOf elementHere? document.toList).filterMap ofElement?

end TraceRelay.Routing.Property
