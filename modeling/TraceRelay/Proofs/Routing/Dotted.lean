import Mathlib.Data.List.Induction
import TraceRelay.Routing.Address
import TraceRelay.Proofs.MessageId.Unique
/-! Dotted addresses and their eight digits. Four octets are read from exactly the text that they are written as, each in
decimal without a zero in front, and the eight digits tell them again. -/
namespace TraceRelay

namespace Decimal

theorem digitWritten {c : Char} (digit : c.isDigit) : c.toNat - 48 < 10 ∧ Nat.digitChar (c.toNat - 48) = c := by
  simp only [Char.isDigit, Bool.and_eq_true, decide_eq_true_eq, UInt32.le_iff_toNat_le] at digit
  have low : 48 ≤ c.toNat := digit.1
  have high : c.toNat ≤ 57 := digit.2
  have small : c.toNat - 48 < 10 := by omega
  refine ⟨small, Char.toNat_inj.mp ?_⟩
  rw [Nat.toNat_digitChar_of_lt_ten small]
  omega

theorem natCharsMore {n d : Nat} (positive : n ≠ 0) (below : d < 10) :
    natChars (10 * n + d) = natChars n ++ [Nat.digitChar d] := by
  have front : (10 * n + d) / 10 = n := by omega
  have last : (10 * n + d) % 10 = d := by omega
  rw [natChars, Nat.toDigits_eq_if (by decide), if_neg (by omega), front, last]
  rfl

/-- Only zero has a zero in front. -/
theorem natCharsLead {n : Nat} (zero : (natChars n).head? = some '0') : n = 0 := by
  induction n using Nat.strongRecOn with
  | ind n ih =>
    rw [natChars, Nat.toDigits_eq_if (by decide)] at zero
    split at zero
    · rw [List.head?_cons, Option.some.injEq] at zero
      exact Nat.digitChar_eq_zero.mp zero
    · obtain ⟨first, found⟩ := Option.isSome_iff_exists.mp (List.isSome_head?.mpr (natCharsNonempty (n / 10)))
      rw [natChars] at found
      rw [List.head?_append, found, Option.some_or] at zero
      have none := ih (n / 10) (by omega) (found.trans zero)
      omega

/-- Digits without a zero in front are those of the number that they are read as. -/
theorem natCharsRead {cs : List Char} (digits : ∀ c ∈ cs, c.isDigit) (filled : cs ≠ [])
    (lead : cs.head? = some '0' → cs.length = 1) : natChars (Nat.ofDigitChars 10 cs 0) = cs := by
  induction cs using List.reverseRecOn with
  | nil => exact absurd rfl filled
  | append_singleton front c ih =>
    obtain ⟨below, written⟩ := digitWritten (digits c (List.mem_append_right _ (List.mem_singleton.mpr rfl)))
    have value : Nat.ofDigitChars 10 (front ++ [c]) 0 = 10 * Nat.ofDigitChars 10 front 0 + (c.toNat - 48) := by
      rw [Nat.ofDigitChars, List.foldl_append]
      rfl
    cases front with
    | nil =>
      rw [value, natChars, Nat.toDigits_eq_if (by decide), if_pos (by simpa using below)]
      simpa using written
    | cons first front =>
      have nonzero : first ≠ '0' := by
        rintro rfl
        have one := lead rfl
        simp at one
      have rest := ih (fun d member => digits d (List.mem_append_left _ member)) (List.cons_ne_nil _ _)
        fun zero => absurd (Option.some.inj zero) nonzero
      have positive : Nat.ofDigitChars 10 (first :: front) 0 ≠ 0 := by
        intro zero
        rw [zero] at rest
        exact nonzero (List.cons.inj rest).1.symm
      rw [value, natCharsMore positive below, rest, written]

end Decimal

namespace Routing
open Text (splitOn joinWith)
open Decimal (natChars)
open MessageIds (HexWord)

/-- Octets as they are written, with dots between them. -/
def dotted (octets : List UInt8) : List Char := joinWith '.' (octets.map fun o => natChars o.toNat)

variable {cs : List Char} {o : UInt8} {octets : List UInt8}

theorem octetWritten (o : UInt8) : octet? (natChars o.toNat) = some o := by
  have below := o.toNat_lt
  have short : (natChars o.toNat).length ≤ 3 := (Nat.length_toDigits_le_iff (by decide) (by decide)).mpr (by omega)
  have lead : (natChars o.toNat).head? = some '0' → (natChars o.toNat).length = 1 := by
    intro zero
    rw [Decimal.natCharsLead zero]
    rfl
  rw [octet?, if_pos ⟨short, lead⟩, Decimal.readNatOfNatChars, Option.bind_some, if_pos (by omega), UInt8.ofNat_toNat]

theorem octetIff : octet? cs = some o ↔ cs = natChars o.toNat := by
  refine ⟨fun read => ?_, fun same => same ▸ octetWritten o⟩
  unfold octet? at read
  split at read
  · rename_i fits
    obtain ⟨n, number, small⟩ := Option.bind_eq_some_iff.mp read
    split at small <;> cases small
    rename_i below
    unfold Decimal.readNat? at number
    split at number <;> cases number
    rename_i digits
    rw [UInt8.toNat_ofNat_of_lt' below]
    exact (Decimal.natCharsRead (List.all_eq_true.mp digits.2) digits.1 fits.2).symm
  · cases read

theorem octetsIff {pieces : List (List Char)} :
    pieces.mapM octet? = some octets ↔ pieces = octets.map fun o => natChars o.toNat := by
  induction pieces generalizing octets with
  | nil => cases octets <;> simp
  | cons p pieces ih =>
    cases octets with
    | nil => simp [List.mapM_cons, Option.bind_eq_some_iff]
    | cons o octets => simp [List.mapM_cons, Option.bind_eq_some_iff, octetIff, ih]

theorem ipv4Iff : ipv4? cs = some octets ↔ octets.length = 4 ∧ cs = dotted octets := by
  constructor
  · intro read
    unfold ipv4? at read
    split at read
    · rename_i a b c d pieces
      have same := octetsIff.mp read
      refine ⟨?_, ?_⟩
      · have length := congrArg List.length same
        rw [List.length_map] at length
        exact length.symm
      · rw [dotted, ← same, ← pieces, Text.joinOfSplit]
    · cases read
  · rintro ⟨four, rfl⟩
    have clean : ∀ q ∈ octets.map fun o => natChars o.toNat, '.' ∉ q := by
      intro q member
      obtain ⟨o, -, rfl⟩ := List.mem_map.mp member
      exact Decimal.natCharsFree (by decide) o.toNat
    match octets, four with
    | [a, b, c, d], _ =>
      rw [ipv4?, dotted, List.map_cons, Text.splitOfJoin clean]
      exact octetsIff.mpr rfl

/-! Eight digits -/

theorem digitHex : ∀ n < 16, Text.hexValue? (Text.hexDigit n) = some n ∧
    MessageIds.hexDigit (Text.hexDigit n) = true ∧ (Text.hexDigit n).isUpper = false := by decide

theorem byteNibbles (b : UInt8) : b.toNat / 16 < 16 ∧ b.toNat % 16 < 16 := by
  have below := b.toNat_lt
  omega

theorem hexRead (octets : List UInt8) : Text.ofHex? (Text.hex octets) = some octets := by
  rw [Text.ofHex?, Text.hex, String.toList_ofList]
  induction octets with
  | nil => rfl
  | cons o octets ih =>
    obtain ⟨high, low⟩ := byteNibbles o
    have whole : UInt8.ofNat (o.toNat / 16 * 16 + o.toNat % 16) = o := by
      rw [Nat.div_add_mod', UInt8.ofNat_toNat]
    simp only [List.flatMap_cons, Text.hexByte, List.cons_append, List.nil_append, Text.ofHexChars?,
      (digitHex _ high).1, (digitHex _ low).1, ih, bind, Option.bind, pure, whole]

/-- Eight digits with no capital among them. -/
structure LowerWord (s : String) : Prop extends HexWord s where
  small : ∀ c ∈ s.toList, c.isUpper = false

theorem hexLower (four : octets.length = 4) : LowerWord (Text.hex octets) := by
  have kinds : ∀ c ∈ octets.flatMap Text.hexByte, MessageIds.hexDigit c = true ∧ c.isUpper = false := by
    intro c member
    obtain ⟨o, -, inside⟩ := List.mem_flatMap.mp member
    obtain ⟨high, low⟩ := byteNibbles o
    simp only [Text.hexByte, List.mem_cons, List.not_mem_nil, or_false] at inside
    rcases inside with rfl | rfl
    · exact (digitHex _ high).2
    · exact (digitHex _ low).2
  have chars : (Text.hex octets).toList = octets.flatMap Text.hexByte := String.toList_ofList
  refine ⟨⟨?_, ?_⟩, ?_⟩ <;> rw [chars]
  · match octets, four with
    | [_, _, _, _], _ => rfl
  · exact fun c member => (kinds c member).1
  · exact fun c member => (kinds c member).2

end Routing

end TraceRelay
