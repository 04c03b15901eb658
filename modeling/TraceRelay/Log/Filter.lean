import TraceRelay.Log.Line
import TraceRelay.Log.Pattern
import TraceRelay.Decimal.Rounding
import TraceRelay.Text.Letters
import TraceRelay.Text.Split
import TraceRelay.Text.Blank
import TraceRelay.Text.Utf8
/-! Filters of the log: directives between commas, each with a target, a span, fields and a level. The
directive with the longest target decides about an event, then the one with more fields, then the last. -/
namespace TraceRelay.Log
open Text (Bytes)

namespace Filter

abbrev Depth := Nat

def everything : Depth := 5

def wordDepth? (cs : List Char) : Option Depth :=
  let word := String.ofList (cs.map Char.toUpper)
  if word = "OFF" then some 0 else (Level.ofName? word).map Level.depth

def depth? (cs : List Char) : Option Depth :=
  let digits := match cs with
    | '+' :: r => r
    | r => r
  match (Decimal.readNat? digits).filter (· ≤ everything) with
  | some n => some n
  | none => if cs = [] then some 1 else wordDepth? cs

inductive Fault
  | malformed
  | unknownLevel
  | badPattern (fault : Pattern.Fault)
  | splitCharacter
  deriving DecidableEq, Repr

def Fault.message : Fault → String
  | .malformed => "invalid filter directive"
  | .unknownLevel => "error parsing level filter: expected one of \"off\", \"error\", \"warn\", " ++
      "\"info\", \"debug\", \"trace\", or a number 0-5"
  | .badPattern fault => "invalid field filter: " ++ fault.message
  | .splitCharacter => "byte index is not a char boundary"

structure FieldMatch where
  name : List Char
  valued : Bool
  deriving DecidableEq, Repr

def FieldMatch.ofChars (cs : List Char) : Except Fault FieldMatch :=
  let name := cs.takeWhile (· ≠ '=')
  match cs.drop name.length with
  | [] => .ok ⟨name, false⟩
  | _ :: r =>
    let value := r.takeWhile (· ≠ '=')
    if (Decimal.readFloat? value).isSome then .ok ⟨name, true⟩
    else match Pattern.fault? value with
      | some fault => .error (.badPattern fault)
      | none => .ok ⟨name, true⟩

structure Directive where
  target : Option (List Char) := none
  span : Option (List Char) := none
  fields : List FieldMatch := []
  depth : Depth := everything
  deriving DecidableEq, Repr

inductive Part
  | start
  | levelOrTarget (read : Bytes)
  | span (read : Bytes)
  | field (read : Bytes)
  | fields
  | target
  | level (read : Bytes)
  deriving DecidableEq, Repr

def mayStart (c : Char) : Bool := c == '-' || c == ':' || c == '_' || Text.isAlphanumeric c

structure Reading where
  part : Part := .start
  directive : Directive := {}
  deriving DecidableEq, Repr

def cut (bytes : Bytes) : Except Fault (List Char) :=
  match Text.ofUtf8? bytes with
  | some name => .ok name.toList
  | none => .error .splitCharacter

/-- `kept` are the bytes that count where a name is cut out of the directive; they differ from those of
`c`, which decides, only behind blanks in front. -/
def Reading.feed (r : Reading) (c : Char) (kept : Bytes) : Except Fault Reading :=
  let d := r.directive
  match r.part with
  | .start =>
    if c = '[' then .ok { r with part := .span [] }
    else if mayStart c then .ok { r with part := .levelOrTarget kept }
    else .error .malformed
  | .levelOrTarget read =>
    if c = '=' then (cut read).map fun name => ⟨.level [], { d with target := some name }⟩
    else if c = '[' then (cut read).map fun name => ⟨.span [], { d with target := some name }⟩
    else .ok { r with part := .levelOrTarget (read ++ kept) }
  | .span read =>
    if c = ']' then (cut read).map fun name => ⟨.target, { d with span := some name }⟩
    else if c = '\x7b' then
      if read = [] then .ok ⟨.field [], { d with span := none }⟩
      else (cut read).map fun name => ⟨.field [], { d with span := some name }⟩
    else .ok { r with part := .span (read ++ kept) }
  | .field read =>
    if c = '\x7d' then
      if read = [] then .error .malformed
      else do
        let field ← FieldMatch.ofChars (← cut read)
        return ⟨.fields, { d with fields := d.fields ++ [field] }⟩
    else .ok { r with part := .field (read ++ kept) }
  | .fields => if c = ']' then .ok { r with part := .target } else .error .malformed
  | .target => if c = '=' then .ok { r with part := .level [] } else .error .malformed
  | .level read => .ok { r with part := .level (read ++ kept) }

def feedAll (r : Reading) (bytes : Bytes) : List Char → Except Fault Reading
  | [] => .ok r
  | c :: rest => do feedAll (← r.feed c (bytes.take c.utf8Size)) (bytes.drop c.utf8Size) rest

/-- A word alone is a level if it can be one. `beyond` is what a name at the very end still takes in. -/
def Reading.finish (r : Reading) (beyond : Bytes) : Except Fault Directive :=
  let d := r.directive
  match r.part with
  | .levelOrTarget read => do
    let word ← cut (read ++ beyond)
    match depth? word with
    | some n => return { d with depth := n }
    | none => return { d with target := some word }
  | .level read => do
    let word ← cut (read ++ beyond)
    if word = [] then return d
    else match depth? word with
      | some n => return { d with depth := n }
      | none => .error .unknownLevel
  | .target => .ok d
  | _ => .error .malformed

/-- Blanks around a directive do not decide anything, but names are cut out by position as if those in
front were not there. -/
def directive? (cs : List Char) : Except Fault Directive := do
  let trimmed := Text.trimChars cs
  let bytes := cs.flatMap String.utf8EncodeChar
  let r ← feedAll {} bytes trimmed
  r.finish (bytes.drop (trimmed.flatMap String.utf8EncodeChar).length)

def parse (text : String) : Except Fault (List Directive) :=
  ((Text.splitOn ',' text.toList).filter (· ≠ [])).mapM directive?

/-- Directives about spans or values of fields say nothing about an event outside of spans. -/
def Directive.isStatic (d : Directive) : Bool := d.span.isNone && d.fields.all (!·.valued)

def Directive.concerns (d : Directive) (target : String) (fields : List String) : Bool :=
  d.isStatic && (d.target.getD []).isPrefixOf target.toList &&
    d.fields.all fun f => fields.any (·.toList = f.name)

def Directive.yields (a b : Directive) : Bool :=
  let size := fun (d : Directive) => match d.target with
    | none => 0
    | some t => t.length + 1
  size a < size b || (size a == size b && a.fields.length ≤ b.fields.length)

def decisive? (ds : List Directive) : Option Directive :=
  ds.foldl (fun best d => match best with
    | none => some d
    | some b => if b.yields d then some d else some b) none

/-- Every event has the field `message`. -/
def enabled (ds : List Directive) (e : Event) : Bool :=
  match decisive? (ds.filter fun d => d.concerns e.target ("message" :: e.fields.map Field.name)) with
  | some d => e.level.depth ≤ d.depth
  | none => false

end Filter

end TraceRelay.Log
