import TraceRelay.Record.Encoding
/-! The encoder of one worker. Every record is put together in the same scratch buffer, from which it is
copied, after its length, to the end of what will be sent. -/
namespace TraceRelay.Record
open Text (utf8)

abbrev Buffer := Array UInt8

def putGroups (buf : Buffer) (w : UInt64) : Buffer :=
  if w &&& ~~~0x7F = 0 then buf.push w.toUInt8
  else putGroups (buf.push ((w &&& 0x7F).toUInt8 ||| 0x80)) (w >>> 7)
termination_by w.toNat
decreasing_by
  rename_i more
  have large := mt (oneGroupLeft w).mpr more
  rw [groupShifted]
  omega

def putVarint (buf : Buffer) (i : Int64) : Buffer := putGroups buf i.toUInt64

def putText (buf : Buffer) (s : String) : Buffer :=
  let bs := utf8 s
  putVarint buf (Int64.ofNat bs.length) ++ bs

def putStart (buf : Buffer) (d : Detail) : Buffer :=
  putText (putText (putVarint buf d.timestamp) d.type) d.name

/-- No data is marked by a zero of its own. -/
def putEnd (buf : Buffer) (d : Detail) : Buffer :=
  let buf := putText buf d.status
  if d.data.isEmpty then putVarint buf 0 else putText buf d.data

def putLeaf (buf : Buffer) (mark : UInt8) (d : Detail) : Buffer := putEnd (putStart (buf.push mark) d) d

mutual

def putMessage (buf : Buffer) : Message → Buffer
  | .transaction d t cs =>
    let buf := putMessages (putStart (buf.push opens) d) cs
    putVarint (putEnd (buf.push closes) d) t
  | .event d => putLeaf buf marksEvent d
  | .heartbeat d => putLeaf buf marksHeartbeat d

def putMessages (buf : Buffer) : List Message → Buffer
  | [] => buf
  | m :: ms => putMessages (putMessage buf m) ms

end

structure Encoder where
  origin : Origin
  scratch : Buffer := #[]

namespace Encoder

def encode (e : Encoder) (t : Tree) : Encoder :=
  let r := ofTree e.origin t
  let cleared := e.scratch.shrink 0
  { e with scratch := putMessage (r.header.foldl putText (cleared ++ tag)) r.message }

def encodeFramed (e : Encoder) (out : Buffer) (t : Tree) : Encoder × Buffer :=
  let e := e.encode t
  (e, out ++ word32 e.scratch.size ++ e.scratch)

def encodeAll (e : Encoder) (out : Buffer) : List Tree → Encoder × Buffer
  | [] => (e, out)
  | t :: ts =>
    let (e, out) := e.encodeFramed out t
    e.encodeAll out ts

end Encoder

end TraceRelay.Record
