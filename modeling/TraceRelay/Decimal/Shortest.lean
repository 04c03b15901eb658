import TraceRelay.Decimal.Rounding
/-! The text of a binary fraction: the fewest digits that read back as the same number, of those the
nearest, written out in full without a power of ten. -/
namespace TraceRelay.Decimal

structure Binary where
  mantissa : Nat
  exponent : Int
  deriving DecidableEq, Repr

def Binary.ofBits (bits : Nat) : Binary :=
  let e : Nat := bits / hiddenBit % 2048
  let f : Nat := bits % hiddenBit
  if e = 0 then ⟨f, -1074⟩ else ⟨hiddenBit + f, (e : Int) - 1075⟩

/-- The numbers that read as `b` lie between `low / den` and `high / den` about `mid / den`; both ends
belong to them exactly if the mantissa is even. -/
structure Neighbourhood where
  low : Nat
  mid : Nat
  high : Nat
  den : Nat
  closed : Bool

/-- Below a power of two the next number down is only half as far. -/
def Binary.neighbourhood (b : Binary) : Neighbourhood :=
  let (up, down) := if 0 ≤ b.exponent then (Nat.pow 2 b.exponent.toNat, 1)
    else (1, Nat.pow 2 (-b.exponent).toNat)
  let under := if b.mantissa = hiddenBit ∧ -1074 < b.exponent then 1 else 2
  ⟨(4 * b.mantissa - under) * up, 4 * b.mantissa * up, (4 * b.mantissa + 2) * up, 4 * down,
    b.mantissa % 2 == 0⟩

def Neighbourhood.holds (h : Neighbourhood) (n d : Nat) : Bool :=
  if h.closed then h.low * d ≤ n * h.den && n * h.den ≤ h.high * d
  else h.low * d < n * h.den && n * h.den < h.high * d

structure Scaled where
  digits : Nat
  power : Int
  deriving DecidableEq, Repr

/-- The nearer of the two multiples of `10 ^ power` about the middle that reads back; of two equally
near ones the larger. -/
def Neighbourhood.onGrid? (h : Neighbourhood) (power : Int) : Option Scaled :=
  let (up, down) := if 0 ≤ power then (Nat.pow 10 power.toNat, 1)
    else (1, Nat.pow 10 (-power).toNat)
  let below := h.mid * down / (h.den * up)
  let fits := fun n => h.holds (n * up) down
  let nearerBelow := 2 * (h.mid * down - below * (h.den * up)) < h.den * up
  match fits below, fits (below + 1) with
  | true, true => some ⟨if nearerBelow then below else below + 1, power⟩
  | true, false => some ⟨below, power⟩
  | false, true => some ⟨below + 1, power⟩
  | false, false => none

def decimalSize (n d : Nat) : Int :=
  if d ≤ n then (natChars (n / d)).length
  else
    let k := (natChars (d / n)).length
    if n * Nat.pow 10 (k - 1) < d then 1 - (k : Int) else 2 - (k : Int)

/-- Coarse grids first; seventeen digits always suffice. -/
def Binary.shortest (b : Binary) : Scaled :=
  let h := b.neighbourhood
  let size := decimalSize h.mid h.den
  ((List.range 17).findSome? fun (k : Nat) => h.onGrid? (size - 1 - k)).getD ⟨b.mantissa, b.exponent⟩

def positional (s : Scaled) : List Char :=
  let ds := natChars s.digits
  if 0 ≤ s.power then ds ++ List.replicate s.power.toNat '0'
  else
    let places := (-s.power).toNat
    let padded := List.replicate (places + 1 - ds.length) '0' ++ ds
    let cut := padded.length - places
    let fraction := ((padded.drop cut).reverse.dropWhile (· == '0')).reverse
    if fraction = [] then padded.take cut else padded.take cut ++ '.' :: fraction

def float (x : Float) : String :=
  let bits := x.toBits.toNat
  let magnitude := bits % signBit
  if infinityBits < magnitude then "NaN"
  else
    let body := if magnitude = infinityBits then "inf".toList
      else if magnitude = 0 then ['0']
      else positional (Binary.ofBits magnitude).shortest
    String.ofList (if signBit ≤ bits then '-' :: body else body)

end TraceRelay.Decimal
