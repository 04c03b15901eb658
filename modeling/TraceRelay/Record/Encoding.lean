import TraceRelay.Record.Varint
import TraceRelay.Message
/-! Records for the collectors: a tag, ten header texts, then the messages in the order of the trace. A
transaction is bracketed by `t` and `T`; its children stand between, and what is only known at its
end stands after. Framed, a record follows its length in four bytes. -/
namespace TraceRelay
open Text (Bytes utf8)

structure Record where
  domain : String
  host : String
  ip : String
  threadGroup : String
  threadId : String
  threadName : String
  id : String
  parentId : String
  rootId : String
  session : String
  message : Message
  deriving Repr, Inhabited

structure Origin where
  host : String
  ip : String
  deriving DecidableEq, Repr

namespace Record

def ofTree (origin : Origin) (t : Tree) : Record where
  domain := t.domain
  host := origin.host
  ip := origin.ip
  threadGroup := t.threadGroup
  threadId := t.threadId
  threadName := t.threadName
  id := t.id
  parentId := t.parentId
  rootId := t.rootId
  session := ""
  message := t.message

def header (r : Record) : List String :=
  [r.domain, r.host, r.ip, r.threadGroup, r.threadId, r.threadName, r.id, r.parentId, r.rootId,
    r.session]

def tag : Bytes := utf8 "NT1"

def opens : UInt8 := 't'.toUInt8
def closes : UInt8 := 'T'.toUInt8
def marksEvent : UInt8 := 'E'.toUInt8
def marksHeartbeat : UInt8 := 'H'.toUInt8

def text (s : String) : Bytes :=
  let bs := utf8 s
  varint (Int64.ofNat bs.length) ++ bs

def atStart (d : Detail) : Bytes := varint d.timestamp ++ text d.type ++ text d.name

def atEnd (d : Detail) : Bytes := text d.status ++ text d.data

mutual

def body : Message → Bytes
  | .transaction d t cs =>
    opens :: atStart d ++ bodies cs ++ closes :: atEnd d ++ varint t
  | .event d => marksEvent :: atStart d ++ atEnd d
  | .heartbeat d => marksHeartbeat :: atStart d ++ atEnd d

def bodies : List Message → Bytes
  | [] => []
  | m :: ms => body m ++ bodies ms

end

def encode (r : Record) : Bytes := tag ++ r.header.flatMap text ++ body r.message

def word32 (n : Nat) : Bytes :=
  [UInt8.ofNat (n / 256 / 256 / 256), UInt8.ofNat (n / 256 / 256), UInt8.ofNat (n / 256),
    UInt8.ofNat n]

def framed (r : Record) : Bytes :=
  let bs := r.encode
  word32 bs.length ++ bs

end Record

end TraceRelay
