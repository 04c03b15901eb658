import TraceRelay.Settings.Value
import TraceRelay.Text.Utf8
import TraceRelay.Decimal.Rounding
/-! What an untagged plain scalar of YAML stands for, and what a tag asks for. -/
namespace TraceRelay.Settings.Yaml
open Text (Bytes utf8)

def nullWord (s : String) : Bool := s == "~" || s == "null" || s == "Null" || s == "NULL"

def flagWord? (s : String) : Option Bool :=
  if s = "true" ∨ s = "True" ∨ s = "TRUE" then some true
  else if s = "false" ∨ s = "False" ∨ s = "FALSE" then some false
  else none

def digitIn? (base : Nat) (c : Char) : Option Nat := (Text.hexValue? c).filter (· < base)

def natIn? (base : Nat) (cs : List Char) : Option Nat :=
  if cs = [] then none
  else cs.foldlM (fun n c => (digitIn? base c).map (n * base + ·)) 0

def magnitude? : List Char → Option Nat
  | '0' :: 'x' :: r => natIn? 16 r
  | '0' :: 'o' :: r => natIn? 8 r
  | '0' :: 'b' :: r => natIn? 2 r
  | cs => natIn? 10 cs

def zeroPadded (cs : List Char) : Bool :=
  match (Decimal.takeSign cs).2 with
  | '0' :: d :: r => d.isDigit && r.all Char.isDigit
  | _ => false

/-- One more than the largest integer that counts as one. -/
def integerLimit : Nat := 0x100000000000000000000000000000000

def integerWord? (cs : List Char) : Option Int :=
  if zeroPadded cs then none
  else match cs with
    | '-' :: r => (magnitude? r).bind fun n => if 2 * n ≤ integerLimit then some (-(n : Int)) else none
    | '+' :: r => (magnitude? r).bind fun n => if n < integerLimit then some (n : Int) else none
    | _ => (magnitude? cs).bind fun n => if n < integerLimit then some (n : Int) else none

def infinite (negative : Bool) : Float :=
  Float.ofBits (if negative then 0xFFF0000000000000 else 0x7FF0000000000000)

def fractionWord? (cs : List Char) : Option Float :=
  let unsigned := match cs with
    | '+' :: r => r
    | _ => cs
  let isInfinity := fun w : List Char => w = ".inf".toList ∨ w = ".Inf".toList ∨ w = ".INF".toList
  if isInfinity unsigned then some (infinite false)
  else if cs.head? = some '-' ∧ isInfinity (cs.drop 1) then some (infinite true)
  else if cs = ".nan".toList ∨ cs = ".NaN".toList ∨ cs = ".NAN".toList then
    some (Float.ofBits 0x7FF8000000000000)
  else if cs.head? = some '+' ∧ (unsigned.head? = some '+' ∨ unsigned.head? = some '-') then none
  else (Decimal.readFloat? unsigned).filter Float.isFinite

def ofPlain (s : String) : Value :=
  if s = "" ∨ nullWord s then .missing
  else match flagWord? s with
    | some b => .flag b
    | none => match integerWord? s.toList with
      | some i => .integer i
      | none =>
        if zeroPadded s.toList then .text s
        else match fractionWord? s.toList with
          | some x => .fraction x
          | none => .text s

def untagged (plain : Bool) (s : String) : Value := if plain then ofPlain s else .text s

def ofCommonType? (type : String) (s : String) : Option Value :=
  if type = "null" then if nullWord s then some .missing else none
  else if type = "bool" then (flagWord? s).map Value.flag
  else if type = "int" then (integerWord? s.toList).map Value.integer
  else if type = "float" then (fractionWord? s.toList).map Value.fraction
  else some (.text s)

end TraceRelay.Settings.Yaml
