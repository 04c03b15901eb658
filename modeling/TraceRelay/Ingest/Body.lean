import TraceRelay.Ingest.Nesting
import TraceRelay.MessageId
import TraceRelay.Log.Line
/-! Reading a whole body. What is wrong first in the body is what gets reported, except that an open
transaction or a missing message only shows at the end. An id is drawn for an accepted body that
brings none, and never for a refused one. -/
namespace TraceRelay.Ingest
open Text (Bytes lossy)

structure Parsed where
  header : Header
  message : Message
  discardable : Bool

structure Parsing where
  outcome : Except Refusal Parsed
  replaced : List Message

def finish (header : Header) (n : Nesting) : Except Refusal Parsed :=
  match n.stack, n.root with
  | o :: _, _ => .error (.neverClosed o.label)
  | [], none => .error .noMessage
  | [], some m => .ok ⟨header, m, n.discardable⟩

def parse (body : Bytes) : Parsing :=
  match Header.read body with
  | .error e => ⟨.error e, []⟩
  | .ok (header, rest) =>
    let lines := Lines.read (body.length - rest.length) (segments rest)
    let (n, refusal) := ({} : Nesting).run lines.lines
    let outcome := match refusal, lines.malformedAt with
      | some e, _ => .error e
      | none, some start => .error (.malformedLine start)
      | none, none => finish header n
    ⟨outcome, n.replaced.reverse⟩

def Parsed.toTree (p : Parsed) (id : String) : Tree where
  domain := lossy p.header.domain
  id := id
  parentId := lossy p.header.parentId
  rootId := lossy p.header.rootId
  threadGroup := lossy p.header.threadGroup
  threadId := lossy p.header.threadId
  threadName := lossy p.header.threadName
  message := p.message
  discardable := p.discardable

def decode (ids : MessageIds) (body : Bytes) : Except Refusal Tree × MessageIds :=
  match (parse body).outcome with
  | .error e => (.error e, ids)
  | .ok p =>
    let own := lossy p.header.messageId
    if own = "" then
      let (id, ids) := ids.next (lossy p.header.domain)
      (.ok (p.toTree id), ids)
    else (.ok (p.toTree own), ids)

def notices (body : Bytes) : List Log.Event :=
  (parse body).replaced.map fun m =>
    { level := .debug, target := "cat_agent::decoder",
      message := "Body has more than one top-level element, dropping " ++ m.label }

end TraceRelay.Ingest
