import TraceRelay.Ingest.Line
/-! Lines as messages: a stack of open transactions. What is complete goes to the innermost open
transaction, or becomes the root when none is open. -/
namespace TraceRelay.Ingest
open Text (lossy)

structure Opened where
  detail : Detail
  duration : Int64
  newestFirst : List Message

namespace Opened

def label (o : Opened) : String := o.detail.type ++ ":" ++ o.detail.name

def close (o : Opened) : Message := .transaction o.detail o.duration o.newestFirst.reverse

def add (o : Opened) (m : Message) : Opened := { o with newestFirst := m :: o.newestFirst }

/-- A field that the closing line leaves empty keeps what the opening line said. -/
def amend (o : Opened) (l : Line) : Opened where
  detail := { o.detail with
    status := if l.status = [] then o.detail.status else lossy l.status
    data := if l.data = [] then o.detail.data else lossy l.data }
  duration := if l.duration = [] then o.duration else Line.number l.duration
  newestFirst := o.newestFirst

end Opened

structure Nesting where
  stack : List Opened := []
  root : Option Message := none
  replaced : List Message := []
  discardable : Bool := true

namespace Nesting

def attach (n : Nesting) (m : Message) : Nesting :=
  match n.stack with
  | o :: os => { n with stack := o.add m :: os }
  | [] => { n with root := some m, replaced := n.root.toList ++ n.replaced }

def note (n : Nesting) (l : Line) : Nesting :=
  if l.failed then { n with discardable := false } else n

def closing (n : Nesting) (l : Line) : Except Refusal Nesting :=
  match n.stack with
  | [] => .error (.closeWithoutOpen l.label)
  | o :: os =>
    if o.detail.type = lossy l.type ∧ o.detail.name = lossy l.name then
      .ok ({ n with stack := os }.attach (o.amend l).close)
    else .error (.closeMismatch o.label l.label)

def step (n : Nesting) (l : Line) : Except Refusal Nesting :=
  let n := n.note l
  if l.mark = 't'.toUInt8 then
    .ok { n with stack := ⟨l.detail, Line.number l.duration, []⟩ :: n.stack }
  else if l.mark = 'T'.toUInt8 then n.closing l
  else if l.mark = 'A'.toUInt8 then
    .ok (n.attach (.transaction l.detail (Line.number l.duration) []))
  else if l.mark = 'E'.toUInt8 then .ok (n.attach (.event l.detail))
  else if l.mark = 'H'.toUInt8 then .ok (n.attach (.heartbeat l.detail))
  else .error (.unknownMark l.mark)

def run (n : Nesting) : List Line → Nesting × Option Refusal
  | [] => (n, none)
  | l :: ls =>
    match n.step l with
    | .ok n' => n'.run ls
    | .error e => (n, some e)

end Nesting

end TraceRelay.Ingest
