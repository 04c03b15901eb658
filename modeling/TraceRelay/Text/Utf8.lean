import TraceRelay.Text.Blank
/-! Bytes of a text, and the reading of arbitrary bytes as text. Reading never fails: each maximal
part of an ill-formed sequence, and each stray byte, becomes one replacement character. -/
namespace TraceRelay.Text

abbrev Bytes := List UInt8

def utf8 (s : String) : Bytes := s.toList.flatMap String.utf8EncodeChar

def replacement : Char := '\uFFFD'

/-- A character begun but not finished: its bits so far, how many bytes it still owes, and the
bounds of the next one. -/
structure Begun where
  bits : Nat
  owed : Nat
  low : UInt8
  high : UInt8
  deriving DecidableEq, Repr

inductive Lead
  | whole (c : Char)
  | begun (b : Begun)
  | stray
  deriving DecidableEq, Repr

/-- What a byte means where a character may start. The second byte of the first and last three-byte
and four-byte blocks is bounded more tightly, which leaves out overlong forms, surrogates and code
points past the last one. -/
def Lead.ofByte (b : UInt8) : Lead :=
  if b < 0x80 then .whole (Char.ofNat b.toNat)
  else if b < 0xC2 then .stray
  else if b < 0xE0 then .begun ⟨b.toNat - 0xC0, 1, 0x80, 0xBF⟩
  else if b < 0xF0 then
    .begun ⟨b.toNat - 0xE0, 2, if b = 0xE0 then 0xA0 else 0x80, if b = 0xED then 0x9F else 0xBF⟩
  else if b < 0xF5 then
    .begun ⟨b.toNat - 0xF0, 3, if b = 0xF0 then 0x90 else 0x80, if b = 0xF4 then 0x8F else 0xBF⟩
  else .stray

structure Reading where
  newestFirst : List Char
  begun : Option Begun
  deriving DecidableEq, Repr

namespace Reading

def start (text : List Char) (b : UInt8) : Reading :=
  match Lead.ofByte b with
  | .whole c => ⟨c :: text, none⟩
  | .begun p => ⟨text, some p⟩
  | .stray => ⟨replacement :: text, none⟩

def feed (r : Reading) (b : UInt8) : Reading :=
  match r.begun with
  | none => start r.newestFirst b
  | some p =>
    if p.low ≤ b && b ≤ p.high then
      let bits := p.bits * 64 + (b.toNat - 0x80)
      if p.owed ≤ 1 then ⟨Char.ofNat bits :: r.newestFirst, none⟩
      else ⟨r.newestFirst, some ⟨bits, p.owed - 1, 0x80, 0xBF⟩⟩
    else start (replacement :: r.newestFirst) b

def finish (r : Reading) : List Char :=
  match r.begun with
  | none => r.newestFirst.reverse
  | some _ => (replacement :: r.newestFirst).reverse

end Reading

def lossyChars (bs : Bytes) : List Char := (bs.foldl Reading.feed ⟨[], none⟩).finish

def lossy (bs : Bytes) : String := String.ofList (lossyChars bs)

/-- Text of bytes that are well formed, none otherwise. -/
def ofUtf8? (bs : Bytes) : Option String :=
  let s := lossy bs
  if utf8 s = bs then some s else none

def hexDigit (n : Nat) : Char := Nat.digitChar n

def hexByte (b : UInt8) : List Char := [hexDigit (b.toNat / 16), hexDigit (b.toNat % 16)]

def hex (bs : Bytes) : String := String.ofList (bs.flatMap hexByte)

def hexValue? (c : Char) : Option Nat :=
  if c.isDigit then some (c.toNat - '0'.toNat)
  else if 'a' ≤ c && c ≤ 'f' then some (c.toNat - 'a'.toNat + 10)
  else if 'A' ≤ c && c ≤ 'F' then some (c.toNat - 'A'.toNat + 10)
  else none

def ofHexChars? : List Char → Option Bytes
  | [] => some []
  | [_] => none
  | a :: b :: r => do
    let x ← hexValue? a
    let y ← hexValue? b
    return UInt8.ofNat (x * 16 + y) :: (← ofHexChars? r)

def ofHex? (s : String) : Option Bytes := ofHexChars? s.toList

end TraceRelay.Text
