import TraceRelay.Control.Poll
/-! Requests to a control server and the replies it sends, as bytes on a connection that the server
closes after its reply. -/
namespace TraceRelay.Control
open Text (Bytes)

def request (server : String) (s : Settings) : Bytes :=
  Text.utf8 ("GET " ++ target s ++ " HTTP/1.0\r\nHost: " ++ server ++
    "\r\nAccept: */*\r\nConnection: close\r\n\r\n")

def blankLine : Bytes := Text.utf8 "\r\n\r\n"

def afterHeaders : Bytes → Option Bytes
  | [] => none
  | b :: r => if blankLine.isPrefixOf (b :: r) then some ((b :: r).drop 4) else afterHeaders r

def status? (bs : Bytes) : Option Nat :=
  let line := bs.takeWhile fun b => b ≠ 13 && b ≠ 10
  let word := ((line.dropWhile (· ≠ 32)).drop 1).takeWhile (· ≠ 32)
  if (Text.utf8 "HTTP/").isPrefixOf line then Decimal.readNat? (Text.lossyChars word) else none

def reply? (bs : Bytes) : Option Reply := do
  return ⟨← status? bs, ← afterHeaders bs⟩

end TraceRelay.Control
