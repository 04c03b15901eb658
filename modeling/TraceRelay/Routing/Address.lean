import TraceRelay.Text.Blank
import TraceRelay.Text.Split
import TraceRelay.Text.Utf8
import TraceRelay.Decimal.Integer
/-! Addresses: lists of collector addresses in one text, and the eight digits that stand for an IPv4
address inside ids. -/
namespace TraceRelay.Routing
open Text (trimChars splitOn)

def usable (piece : List Char) : Bool := piece ≠ [] && piece.count ':' == 1

def addresses (value : String) : List String :=
  (((splitOn ';' value.toList).map trimChars).filter usable).map String.ofList

def octet? (cs : List Char) : Option UInt8 :=
  if cs.length ≤ 3 ∧ (cs.head? = some '0' → cs.length = 1) then
    (Decimal.readNat? cs).bind fun n => if n < 256 then some (UInt8.ofNat n) else none
  else none

def ipv4? (cs : List Char) : Option (List UInt8) :=
  match splitOn '.' cs with
  | [a, b, c, d] => [a, b, c, d].mapM octet?
  | _ => none

def ipHex? (ip : String) : Option String := (ipv4? (trimChars ip.toList)).map Text.hex

end TraceRelay.Routing
