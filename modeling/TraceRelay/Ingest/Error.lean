import TraceRelay.Text.Quoted
import TraceRelay.Decimal.Integer
/-! Why a body is refused. -/
namespace TraceRelay.Ingest

inductive HeaderField
  | domain | threadGroup | threadId | threadName | messageId | parentId
  deriving DecidableEq, Repr

def HeaderField.name : HeaderField → String
  | domain => "domain"
  | threadGroup => "thread_group_name"
  | threadId => "thread_id"
  | threadName => "thread_name"
  | messageId => "message_id"
  | parentId => "parent_message_id"

/-- `start` counts bytes from the beginning of the body; labels read `type:name`. -/
inductive Refusal
  | missingHeaderField (field : HeaderField)
  | malformedLine (start : Nat)
  | unknownMark (mark : UInt8)
  | closeWithoutOpen (close : String)
  | closeMismatch (opened close : String)
  | neverClosed (opened : String)
  | noMessage
  deriving DecidableEq, Repr

/-- An unknown mark is shown as the character with that code. -/
def Refusal.message : Refusal → String
  | missingHeaderField f => "Header field " ++ f.name ++ " is missing"
  | malformedLine start => "Malformed message line at byte " ++ Decimal.nat start
  | unknownMark b => "Unknown message type " ++ Text.quotedChar (Char.ofNat b.toNat)
  | closeWithoutOpen close => "Close of " ++ close ++ " without an open transaction"
  | closeMismatch opened close =>
    "Close of " ++ close ++ " does not match open transaction " ++ opened
  | neverClosed opened => "Transaction " ++ opened ++ " was never closed"
  | noMessage => "Body contains no message"

end TraceRelay.Ingest
