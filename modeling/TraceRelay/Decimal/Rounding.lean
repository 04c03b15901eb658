import TraceRelay.Decimal.Integer
/-! Reading a decimal fraction as the nearest binary fraction of 53 bits, ties to the even neighbour.
All arithmetic before the last step is exact. -/
namespace TraceRelay.Decimal

def divNearest (n d : Nat) : Nat :=
  let q := n / d
  let r := n % d
  if 2 * r < d then q else if d < 2 * r then q + 1 else q + q % 2

/-- Exponent `k` with `2 ^ k ≤ n / d < 2 ^ (k + 1)`, for positive `n` and `d`. -/
def floorLog2 (n d : Nat) : Int :=
  let k : Int := (n.log2 : Int) - d.log2
  let reaches := if 0 ≤ k then d * Nat.pow 2 k.toNat ≤ n else d ≤ n * Nat.pow 2 (-k).toNat
  if reaches then k else k - 1

def infinityBits : Nat := 0x7FF0000000000000

/-- The bit above the 52 that are written. -/
def hiddenBit : Nat := 0x10000000000000

/-- The bits of the binary fraction nearest to `n / d`. Exponent and fraction add up to one number
because a fraction that rounds up to the next power of two carries into the exponent. -/
def nearestBits (n d : Nat) : Nat :=
  if n = 0 then 0
  else
    let q := max (-1074) (floorLog2 n d - 52)
    let m :=
      if 0 ≤ q then divNearest n (d * Nat.pow 2 q.toNat)
      else divNearest (n * Nat.pow 2 (-q).toNat) d
    min infinityBits ((q + 1074).toNat * hiddenBit + m)

structure Literal where
  negative : Bool
  digits : Nat
  exponent : Int
  deriving DecidableEq, Repr

def signBit : Nat := 0x8000000000000000

/-- Exponents far outside the range are settled before any power is formed. -/
def Literal.toFloat (l : Literal) : Float :=
  let size : Int := (natChars l.digits).length + l.exponent
  let magnitude :=
    if l.digits = 0 ∨ size < -330 then 0
    else if 310 < size then infinityBits
    else if 0 ≤ l.exponent then nearestBits (l.digits * Nat.pow 10 l.exponent.toNat) 1
    else nearestBits l.digits (Nat.pow 10 (-l.exponent).toNat)
  Float.ofBits (UInt64.ofNat (if l.negative then signBit + magnitude else magnitude))

def takeSign : List Char → Bool × List Char
  | '-' :: r => (true, r)
  | '+' :: r => (false, r)
  | cs => (false, cs)

def readExponent? : List Char → Option Int
  | [] => some 0
  | c :: r => if c = 'e' ∨ c = 'E' then readInt? r else none

def readLiteral? (negative : Bool) (cs : List Char) : Option Literal :=
  let whole := cs.takeWhile Char.isDigit
  let (fraction, rest) := match cs.dropWhile Char.isDigit with
    | '.' :: r => (r.takeWhile Char.isDigit, r.dropWhile Char.isDigit)
    | r => ([], r)
  if whole = [] ∧ fraction = [] then none
  else (readExponent? rest).map fun e =>
    ⟨negative, Nat.ofDigitChars 10 (whole ++ fraction) 0, e - fraction.length⟩

def readFloat? (cs : List Char) : Option Float :=
  let (negative, rest) := takeSign cs
  let word := rest.map Char.toLower
  if word = "inf".toList ∨ word = "infinity".toList then
    some (Float.ofBits (UInt64.ofNat (if negative then signBit + infinityBits else infinityBits)))
  else if word = "nan".toList then some (Float.ofBits 0x7FF8000000000000)
  else (readLiteral? negative rest).map Literal.toFloat

end TraceRelay.Decimal
