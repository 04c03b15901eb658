import TraceRelay.Ingest.Error
import TraceRelay.Text.Split
import TraceRelay.Message
/-! The bytes of a body as a header and lines. A line is what stands between line feeds; it has
exactly seven fields, tabs between them, and the first is one byte. -/
namespace TraceRelay.Ingest
open Text (Bytes lossy lossyChars)

def tab : UInt8 := 9
def lineFeed : UInt8 := 10

inductive Stop
  | tab | lineFeed | atEnd
  deriving DecidableEq, Repr

structure Cut where
  field : Bytes
  stop : Stop
  rest : Bytes
  deriving DecidableEq, Repr

def inField (b : UInt8) : Bool := b != tab && b != lineFeed

def cut (bs : Bytes) : Cut :=
  match bs.dropWhile inField with
  | [] => ⟨bs, .atEnd, []⟩
  | b :: r => ⟨bs.takeWhile inField, if b = tab then .tab else .lineFeed, r⟩

structure Header where
  domain : Bytes
  threadGroup : Bytes
  threadId : Bytes
  threadName : Bytes
  messageId : Bytes
  parentId : Bytes
  rootId : Bytes
  deriving DecidableEq, Repr

def headerField (f : HeaderField) (bs : Bytes) : Except Refusal (Bytes × Bytes) :=
  match cut bs with
  | ⟨field, .tab, rest⟩ => .ok (field, rest)
  | _ => .error (.missingHeaderField f)

def Header.read (bs : Bytes) : Except Refusal (Header × Bytes) := do
  let (domain, bs) ← headerField .domain bs
  let (threadGroup, bs) ← headerField .threadGroup bs
  let (threadId, bs) ← headerField .threadId bs
  let (threadName, bs) ← headerField .threadName bs
  let (messageId, bs) ← headerField .messageId bs
  let (parentId, bs) ← headerField .parentId bs
  let last := cut bs
  return (⟨domain, threadGroup, threadId, threadName, messageId, parentId, last.field⟩, last.rest)

structure Line where
  mark : UInt8
  type : Bytes
  name : Bytes
  status : Bytes
  timestamp : Bytes
  duration : Bytes
  data : Bytes
  deriving DecidableEq, Repr

namespace Line

def ofSegment? (segment : Bytes) : Option Line :=
  match Text.splitOn tab segment with
  | [[mark], type, name, status, timestamp, duration, data] =>
    some ⟨mark, type, name, status, timestamp, duration, data⟩
  | _ => none

def number (bs : Bytes) : Int64 :=
  (Decimal.readInt64? (Text.trimChars (lossyChars bs))).getD 0

def detail (l : Line) : Detail :=
  ⟨lossy l.type, lossy l.name, lossy l.status, lossy l.data, number l.timestamp⟩

def label (l : Line) : String := lossy l.type ++ ":" ++ lossy l.name

/-- Only the single byte `0` says that all went well. -/
def failed (l : Line) : Bool := l.status != [48]

end Line

/-- What stands between line feeds; nothing after the last one is no line. -/
def segments (bs : Bytes) : List Bytes :=
  let all := Text.splitOn lineFeed bs
  if all.getLast? = some [] then all.dropLast else all

structure Lines where
  lines : List Line
  malformedAt : Option Nat
  deriving DecidableEq, Repr

def Lines.read (start : Nat) : List Bytes → Lines
  | [] => ⟨[], none⟩
  | s :: ss =>
    match Line.ofSegment? s with
    | none => ⟨[], some start⟩
    | some l =>
      let rest := Lines.read (start + s.length + 1) ss
      ⟨l :: rest.lines, rest.malformedAt⟩

end TraceRelay.Ingest
