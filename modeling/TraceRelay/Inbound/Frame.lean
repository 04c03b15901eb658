import TraceRelay.Record.Reading
/-! Frames of client connections. A request is a command and a total length in four bytes each, then the
body; a response has the status in place of the command. Reading stops at the end of the stream, at a
frame that is cut short, and at one that announces too much. -/
namespace TraceRelay.Inbound
open Text (Bytes)
open Record (word32 readWord32? take?)

def headerLength : Nat := 8

def maxBody : Nat := 16 * 1024 * 1024

structure Request where
  command : Nat
  body : Bytes
  deriving DecidableEq, Repr

/-- The length counts the header too; one below that of the header stands for an empty body. -/
def Request.encode (r : Request) : Bytes :=
  word32 r.command ++ word32 (headerLength + r.body.length) ++ r.body

inductive Next
  | request (r : Request) (rest : Bytes)
  | ended
  | tooLong (length : Nat)
  deriving DecidableEq, Repr

def next (bs : Bytes) : Next :=
  match readWord32? bs with
  | none => .ended
  | some (command, bs) =>
    match readWord32? bs with
    | none => .ended
    | some (total, bs) =>
      let length := total - headerLength
      if maxBody < length then .tooLong length
      else match take? length bs with
        | some (body, rest) => .request ⟨command, body⟩ rest
        | none => .ended

theorem readWord32Length {bs rest : Bytes} {n : Nat} (h : readWord32? bs = some (n, rest)) :
    rest.length + 4 = bs.length := by
  unfold readWord32? at h
  split at h
  · simp only [Option.some.injEq, Prod.mk.injEq] at h
    simp [← h.2]
  · cases h

theorem takeLength {k : Nat} {bs front rest : Bytes} (h : take? k bs = some (front, rest)) :
    rest.length ≤ bs.length := by
  unfold take? at h
  split at h
  · simp only [Option.some.injEq, Prod.mk.injEq] at h
    simp [← h.2]
  · cases h

theorem nextLength {bs rest : Bytes} {r : Request} (h : next bs = .request r rest) :
    rest.length + headerLength ≤ bs.length := by
  unfold next at h
  split at h
  · cases h
  · rename_i command bs₁ h₁
    split at h
    · cases h
    · rename_i total bs₂ h₂
      dsimp only at h
      split at h
      · cases h
      · split at h
        · rename_i body rest' h₃
          injection h with _ hr
          subst hr
          have l₁ := readWord32Length h₁
          have l₂ := readWord32Length h₂
          have l₃ := takeLength h₃
          simp only [headerLength]
          omega
        · cases h

def requests (bs : Bytes) : List Request :=
  match h : next bs with
  | .request r rest =>
    have : rest.length < bs.length := by
      have := nextLength h
      simp only [headerLength] at this
      omega
    r :: requests rest
  | _ => []
termination_by bs.length

inductive Status
  | ok | headerUnreadable | messageUnreadable | unknownCommand | noDomain
  deriving DecidableEq, Repr

def Status.code : Status → Nat
  | ok => 0
  | headerUnreadable => 1
  | messageUnreadable => 2
  | unknownCommand => 3
  | noDomain => 4

def Status.name : Status → String
  | ok => "Ok"
  | headerUnreadable => "MsgReadHeaderErr"
  | messageUnreadable => "MsgReadMessageErr"
  | unknownCommand => "NotFoundCmd"
  | noDomain => "BadDomain"

structure Response where
  status : Status
  payload : Bytes
  deriving DecidableEq, Repr

def Response.encode (r : Response) : Bytes :=
  word32 r.status.code ++ word32 (headerLength + r.payload.length) ++ r.payload

structure Received where
  status : Nat
  length : Nat
  payload : Bytes
  deriving DecidableEq, Repr

def received? (bs : Bytes) : Option (Received × Bytes) := do
  let (status, bs) ← readWord32? bs
  let (length, bs) ← readWord32? bs
  let (payload, rest) ← take? (length - headerLength) bs
  return (⟨status, length, payload⟩, rest)

end TraceRelay.Inbound
