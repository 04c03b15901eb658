import TraceRelay.Text.Utf8
/-! Integers in groups of seven bits, low group first; every group but the last has the high bit set.
A negative number is written as the 64-bit word that stands for it. -/
namespace TraceRelay.Record
open Text (Bytes)

def groups (n : Nat) : Bytes :=
  if n < 128 then [UInt8.ofNat n] else UInt8.ofNat (n % 128 + 128) :: groups (n / 128)

def varint (i : Int64) : Bytes := groups i.toUInt64.toNat

def readGroups? : Bytes → Option (Nat × Bytes)
  | [] => none
  | b :: r =>
    if b.toNat < 128 then some (b.toNat, r)
    else (readGroups? r).map fun (n, rest) => (b.toNat - 128 + 128 * n, rest)

def readVarint? (bs : Bytes) : Option (Int64 × Bytes) :=
  (readGroups? bs).map fun (n, rest) => ((UInt64.ofNat n).toInt64, rest)

theorem aboveSeven {n mask : Nat} (kept : n / 128 &&& mask = n / 128) : n &&& 128 * mask = 128 * (n / 128) := by
  have high : (n &&& 128 * mask) / 128 = n / 128 &&& 128 * mask / 128 := Nat.and_div_two_pow (n := 7)
  have low : (n &&& 128 * mask) % 128 = n % 128 &&& 128 * mask % 128 := Nat.and_mod_two_pow (n := 7)
  rw [Nat.mul_div_cancel_left _ (by decide), kept] at high
  rw [Nat.mul_mod_right, Nat.and_zero] at low
  omega

theorem oneGroupLeft (w : UInt64) : w &&& ~~~0x7F = 0 ↔ w.toNat < 128 := by
  have kept : w.toNat / 128 &&& 0x1FFFFFFFFFFFFFF = w.toNat / 128 := by
    have top := w.toNat_lt
    exact (Nat.and_two_pow_sub_one_eq_mod _ 57).trans (Nat.mod_eq_of_lt (by omega))
  have masked : (w &&& ~~~0x7F).toNat = 128 * (w.toNat / 128) := (UInt64.toNat_and w _).trans (aboveSeven kept)
  rw [← UInt64.toNat_inj, masked, UInt64.toNat_zero]
  omega

theorem groupShifted (w : UInt64) : (w >>> 7).toNat = w.toNat / 128 := by
  rw [UInt64.toNat_shiftRight]
  exact Nat.shiftRight_eq_div_pow w.toNat 7

theorem readGroupsOfGroups (n : Nat) (rest : Bytes) :
    readGroups? (groups n ++ rest) = some (n, rest) := by
  induction n using Nat.strongRecOn with
  | ind n ih =>
    rw [groups]
    split
    · rename_i h
      simp [readGroups?, show n % 256 = n by omega, h]
    · rename_i h
      have small : (UInt8.ofNat (n % 128 + 128)).toNat = n % 128 + 128 := by
        rw [UInt8.toNat_ofNat']; omega
      rw [List.cons_append, readGroups?, small, if_neg (by omega), ih (n / 128) (by omega)]
      simp only [Option.map_some, Option.some.injEq, Prod.mk.injEq, and_true]
      omega

theorem readVarintOfVarint (i : Int64) (rest : Bytes) :
    readVarint? (varint i ++ rest) = some (i, rest) := by
  simp only [readVarint?, varint, readGroupsOfGroups, Option.map_some, UInt64.ofNat_toNat]
  rfl

end TraceRelay.Record
