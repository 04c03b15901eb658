/-! Integers in decimal. Reading takes an optional sign and at least one digit and nothing else;
writing then reading gives the number back. -/
namespace TraceRelay.Decimal

def natChars (n : Nat) : List Char := Nat.toDigits 10 n

def intChars (i : Int) : List Char :=
  if i < 0 then '-' :: natChars i.natAbs else natChars i.natAbs

def nat (n : Nat) : String := String.ofList (natChars n)

def int (i : Int) : String := String.ofList (intChars i)

def readNat? (cs : List Char) : Option Nat :=
  if cs ≠ [] ∧ cs.all Char.isDigit then some (Nat.ofDigitChars 10 cs 0) else none

def readInt? : List Char → Option Int
  | '+' :: r => (readNat? r).map Int.ofNat
  | '-' :: r => (readNat? r).map fun n => -Int.ofNat n
  | cs => (readNat? cs).map Int.ofNat

def readInt64? (cs : List Char) : Option Int64 :=
  (readInt? cs).bind fun i =>
    if Int64.minValue.toInt ≤ i ∧ i ≤ Int64.maxValue.toInt then some (Int64.ofInt i) else none

def clamp64 (i : Int) : Int64 :=
  Int64.ofInt (max Int64.minValue.toInt (min Int64.maxValue.toInt i))

def addClamped (a b : Int64) : Int64 := clamp64 (a.toInt + b.toInt)

theorem natCharsNonempty (n : Nat) : natChars n ≠ [] := Nat.toDigits_ne_nil

theorem natCharsDigits {n : Nat} {c : Char} (h : c ∈ natChars n) : c.isDigit :=
  Nat.isDigit_of_mem_toDigits (by decide) (by decide) h

theorem natCharsFree {c : Char} (other : ¬ c.isDigit) (n : Nat) : c ∉ natChars n :=
  fun member => other (natCharsDigits member)

theorem intCharKinds {i : Int} {c : Char} (member : c ∈ intChars i) : c = '-' ∨ c.isDigit := by
  unfold intChars at member
  split at member
  · rcases List.mem_cons.mp member with sign | digit
    · exact .inl sign
    · exact .inr (natCharsDigits digit)
  · exact .inr (natCharsDigits member)

theorem intCharsFree {c : Char} (unsigned : c ≠ '-') (other : ¬ c.isDigit) (i : Int) : c ∉ intChars i :=
  fun member => (intCharKinds member).elim unsigned other

theorem readNatOfNatChars (n : Nat) : readNat? (natChars n) = some n := by
  have digits : (natChars n).all Char.isDigit := by
    rw [List.all_eq_true]; exact fun c h => natCharsDigits h
  simp only [readNat?, ne_eq, natCharsNonempty, not_false_eq_true, digits, and_self, if_true]
  exact congrArg some (Nat.ofDigitChars_toDigits (by decide) (by decide))

theorem natCharsInjective {m n : Nat} (h : natChars m = natChars n) : m = n := by
  have := readNatOfNatChars m
  rw [h, readNatOfNatChars] at this
  exact (Option.some.inj this).symm

theorem readIntOfDigits {cs : List Char} (h : ∀ c ∈ cs, c.isDigit) :
    readInt? cs = (readNat? cs).map Int.ofNat := by
  unfold readInt?
  split
  · exact absurd (h '+' (by simp)) (by decide)
  · exact absurd (h '-' (by simp)) (by decide)
  · rfl

theorem readIntOfIntChars (i : Int) : readInt? (intChars i) = some i := by
  unfold intChars
  split
  · simp only [readInt?, readNatOfNatChars, Option.map_some, Option.some.injEq]
    simp only [Int.ofNat_eq_natCast]; omega
  · rw [readIntOfDigits fun c h => natCharsDigits h, readNatOfNatChars]
    simp only [Option.map_some, Option.some.injEq, Int.ofNat_eq_natCast]; omega

theorem intCharsInjective {i j : Int} (h : intChars i = intChars j) : i = j := by
  have := readIntOfIntChars i
  rw [h, readIntOfIntChars] at this
  exact (Option.some.inj this).symm

theorem readInt64OfIntChars (i : Int64) : readInt64? (intChars i.toInt) = some i := by
  simp only [readInt64?, readIntOfIntChars, Option.bind_some]
  rw [if_pos ⟨Int64.le_iff_toInt_le.1 (Int64.minValue_le i),
    Int64.le_iff_toInt_le.1 (Int64.le_maxValue i)⟩, Int64.ofInt_toInt]

end TraceRelay.Decimal
