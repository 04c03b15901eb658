import TraceRelay.Record.Encoding
/-! Reading records back. Every function returns what it found at the front and what follows it; none
means that the bytes are no record. -/
namespace TraceRelay.Record
open Text (Bytes ofUtf8?)

def take? (n : Nat) (bs : Bytes) : Option (Bytes × Bytes) :=
  if n ≤ bs.length then some (bs.take n, bs.drop n) else none

def readText? (bs : Bytes) : Option (String × Bytes) := do
  let (n, bs) ← readGroups? bs
  let (raw, bs) ← take? n bs
  return (← ofUtf8? raw, bs)

def readTexts? : Nat → Bytes → Option (List String × Bytes)
  | 0, bs => some ([], bs)
  | n + 1, bs => do
    let (s, bs) ← readText? bs
    let (ss, bs) ← readTexts? n bs
    return (s :: ss, bs)

def readStart? (bs : Bytes) : Option (Detail × Bytes) := do
  let (timestamp, bs) ← readVarint? bs
  let (type, bs) ← readText? bs
  let (name, bs) ← readText? bs
  return (⟨type, name, "", "", timestamp⟩, bs)

def readEnd? (d : Detail) (bs : Bytes) : Option (Detail × Bytes) := do
  let (status, bs) ← readText? bs
  let (data, bs) ← readText? bs
  return ({ d with status := status, data := data }, bs)

mutual

/-- `steps` bounds the messages read; the number of bytes always suffices. -/
def readMessage? : Nat → Bytes → Option (Message × Bytes)
  | 0, _ => none
  | _, [] => none
  | steps + 1, b :: bs => do
    let (d, bs) ← readStart? bs
    if b = opens then
      let (cs, bs) ← readMessages? steps bs
      let (d, bs) ← readEnd? d bs
      let (t, bs) ← readVarint? bs
      return (.transaction d t cs, bs)
    else
      let (d, bs) ← readEnd? d bs
      if b = marksEvent then return (.event d, bs)
      else if b = marksHeartbeat then return (.heartbeat d, bs)
      else none

def readMessages? : Nat → Bytes → Option (List Message × Bytes)
  | 0, _ => none
  | _, [] => none
  | steps + 1, b :: bs =>
    if b = closes then some ([], bs)
    else do
      let (m, bs) ← readMessage? steps (b :: bs)
      let (ms, bs) ← readMessages? steps bs
      return (m :: ms, bs)

end

def read? (bs : Bytes) : Option (Record × Bytes) := do
  let (front, bs) ← take? tag.length bs
  if front = tag then
    let (texts, bs) ← readTexts? 10 bs
    let (m, bs) ← readMessage? (bs.length + 1) bs
    match texts with
    | [domain, host, ip, threadGroup, threadId, threadName, id, parentId, rootId, session] =>
      return (⟨domain, host, ip, threadGroup, threadId, threadName, id, parentId, rootId, session,
        m⟩, bs)
    | _ => none
  else none

def readWord32? : Bytes → Option (Nat × Bytes)
  | a :: b :: c :: d :: r =>
    some (((a.toNat * 256 + b.toNat) * 256 + c.toNat) * 256 + d.toNat, r)
  | _ => none

/-- Frames up to the end of the bytes; each record fills its frame. -/
def readFrames? : Nat → Bytes → Option (List Record)
  | _, [] => some []
  | 0, _ => none
  | frames + 1, bs => do
    let (n, bs) ← readWord32? bs
    let (raw, bs) ← take? n bs
    let (r, left) ← read? raw
    if left = [] then return r :: (← readFrames? frames bs) else none

def readAll? (bs : Bytes) : Option (List Record) := readFrames? bs.length bs

end TraceRelay.Record
