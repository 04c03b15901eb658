import TraceRelay.Proofs.Text.Utf8
import TraceRelay.Proofs.Ingest.Grammar
import TraceRelay.Decimal.Integer
/-! Texts that can stand in a field: no tab and no line feed. Their bytes hold neither of the two, and no
bytes without them read as anything else. -/
namespace TraceRelay.Ingest
open Text (Bytes utf8 lossy trimChars isBlank)

def Clean (s : String) : Prop := '\t' ∉ s.toList ∧ '\n' ∉ s.toList

theorem plainUtf8 {s : String} (clean : Clean s) : Plain (utf8 s) :=
  ⟨fun member => clean.1 (Text.controlByte (d := 9) (by decide) member),
    fun member => clean.2 (Text.controlByte (d := 10) (by decide) member)⟩

theorem cleanLossy {bs : Bytes} (plain : Plain bs) : Clean (lossy bs) := by
  unfold Clean lossy
  rw [String.toList_ofList]
  exact ⟨Text.controlChar (d := 9) (by decide) (by decide) plain.1,
    Text.controlChar (d := 10) (by decide) (by decide) plain.2⟩

theorem cleanAppend {s t : String} (front : Clean s) (back : Clean t) : Clean (s ++ t) := by
  unfold Clean at *
  simp only [String.toList_append, List.mem_append, not_or]
  exact ⟨⟨front.1, back.1⟩, front.2, back.2⟩

/-! Decimal numbers -/

theorem digitNotBlank {c : Char} (digit : c.isDigit) : isBlank c = false := by
  simp only [Char.isDigit, Bool.and_eq_true, decide_eq_true_eq, UInt32.le_iff_toNat_le] at digit
  have low : 48 ≤ c.toNat := digit.1
  have high : c.toNat ≤ 57 := digit.2
  simp only [isBlank, Bool.or_eq_false_iff, Bool.and_eq_false_iff, decide_eq_false_iff_not, beq_eq_false_iff_ne]
  omega

theorem cleanInt (i : Int) : Clean (Decimal.int i) := by
  unfold Clean Decimal.int
  rw [String.toList_ofList]
  exact ⟨Decimal.intCharsFree (by decide) (by decide) i, Decimal.intCharsFree (by decide) (by decide) i⟩

theorem cleanNat (n : Nat) : Clean (Decimal.nat n) := by
  have asInt : Decimal.nat n = Decimal.int n := by
    rw [Decimal.nat, Decimal.int, Decimal.intChars, if_neg (by omega), Int.natAbs_natCast]
  rw [asInt]
  exact cleanInt n

theorem trimUnblank {cs : List Char} (none : ∀ c ∈ cs, isBlank c = false) : trimChars cs = cs := by
  have stays : ∀ ds : List Char, (∀ c ∈ ds, isBlank c = false) → ds.dropWhile isBlank = ds := by
    intro ds clear
    cases ds with
    | nil => rfl
    | cons d ds => rw [List.dropWhile_cons, clear d (by simp)]; rfl
  rw [trimChars, stays cs none, stays cs.reverse (fun c member => none c (List.mem_reverse.mp member)),
    List.reverse_reverse]

def decimal (i : Int64) : Bytes := utf8 (Decimal.int i.toInt)

theorem numberDecimal (i : Int64) : Line.number (decimal i) = i := by
  have clear : ∀ c ∈ Decimal.intChars i.toInt, isBlank c = false := by
    intro c member
    rcases Decimal.intCharKinds member with sign | digit
    · rw [sign]; rfl
    · exact digitNotBlank digit
  rw [Line.number, decimal, Text.lossyCharsUtf8, Decimal.int, String.toList_ofList, trimUnblank clear,
    Decimal.readInt64OfIntChars, Option.getD_some]

theorem plainDecimal (i : Int64) : Plain (decimal i) := plainUtf8 (cleanInt i.toInt)

end TraceRelay.Ingest
