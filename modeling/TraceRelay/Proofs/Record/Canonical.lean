import Mathlib.Algebra.Group.Nat.Defs
import TraceRelay.Proofs.Record.Buffers
/-! Integers in groups of seven bits. A reader finds where they end without being told, so that none begins another,
and what is written is the shortest of all groups that make up the integer. -/
namespace TraceRelay.Record
open Text (Bytes)

/-! Groups -/

/-- Bytes for a number: seven bits in each, the low ones first, and a high bit where more follow. -/
inductive Grouped : Bytes → Nat → Prop
  | last {b : UInt8} (unmarked : b &&& 0x80 = 0) : Grouped [b] (b &&& 0x7F).toNat
  | more {b : UInt8} {bs : Bytes} {n : Nat} (marked : b &&& 0x80 ≠ 0) (onward : Grouped bs n) :
    Grouped (b :: bs) ((b &&& 0x7F).toNat + 128 * n)

variable {bs front rest : Bytes} {n : Nat}

theorem unmarkedIff (b : UInt8) : b &&& 0x80 = 0 ↔ b.toNat < 128 := by
  have kept : b.toNat / 128 &&& 1 = b.toNat / 128 := by
    have top := b.toNat_lt
    exact (Nat.and_two_pow_sub_one_eq_mod _ 1).trans (Nat.mod_eq_of_lt (by omega))
  have masked : (b &&& 0x80).toNat = 128 * (b.toNat / 128) := (UInt8.toNat_and b _).trans (aboveSeven kept)
  rw [← UInt8.toNat_inj, masked, UInt8.toNat_zero]
  omega

theorem lowSeven (b : UInt8) : (b &&& 0x7F).toNat = b.toNat % 128 :=
  (UInt8.toNat_and b _).trans (Nat.and_two_pow_sub_one_eq_mod b.toNat 7)

theorem lowUnmarked {b : UInt8} (unmarked : b &&& 0x80 = 0) : (b &&& 0x7F).toNat = b.toNat :=
  (lowSeven b).trans (Nat.mod_eq_of_lt ((unmarkedIff b).mp unmarked))

theorem lowMarked {b : UInt8} (marked : b &&& 0x80 ≠ 0) : (b &&& 0x7F).toNat + 128 = b.toNat := by
  have large := mt (unmarkedIff b).mpr marked
  have top := b.toNat_lt
  rw [lowSeven]
  omega

theorem groupedFilled (grouped : Grouped bs n) : 0 < bs.length := by
  cases grouped <;> exact Nat.zero_lt_succ _

theorem lastGroup {n : Nat} (small : n < 128) : UInt8.ofNat n &&& 0x80 = 0 ∧ (UInt8.ofNat n &&& 0x7F).toNat = n := by
  have byte : (UInt8.ofNat n).toNat = n := UInt8.toNat_ofNat_of_lt' (Nat.lt_trans small (by decide))
  have unmarked := (unmarkedIff (.ofNat n)).mpr (by rwa [byte])
  exact ⟨unmarked, (lowUnmarked unmarked).trans byte⟩

theorem furtherGroup {n : Nat} (small : n < 128) :
    UInt8.ofNat (n + 128) &&& 0x80 ≠ 0 ∧ (UInt8.ofNat (n + 128) &&& 0x7F).toNat = n := by
  have byte : (UInt8.ofNat (n + 128)).toNat = n + 128 := UInt8.toNat_ofNat_of_lt' (Nat.add_lt_add_right small 128)
  have marked := mt (unmarkedIff (.ofNat (n + 128))).mp (by omega)
  exact ⟨marked, Nat.add_right_cancel ((lowMarked marked).trans byte)⟩

theorem groupsGrouped (n : Nat) : Grouped (groups n) n := by
  fun_induction groups n with
  | case1 n small =>
    obtain ⟨unmarked, low⟩ := lastGroup small
    have grouped := Grouped.last unmarked
    rwa [low] at grouped
  | case2 n large ih =>
    obtain ⟨marked, low⟩ := furtherGroup (Nat.mod_lt n (by decide : 0 < 128))
    have grouped := Grouped.more marked ih
    rwa [low, Nat.mod_add_div] at grouped

theorem groupsEnd (n : Nat) : ∃ front last, groups n = front ++ [last] ∧ (∀ b ∈ front, b &&& 0x80 ≠ 0) ∧
    last &&& 0x80 = 0 ∧ (last = 0 ↔ n = 0) := by
  fun_induction groups n with
  | case1 n small =>
    obtain ⟨unmarked, low⟩ := lastGroup small
    have byte := (lowUnmarked unmarked).symm.trans low
    refine ⟨[], .ofNat n, rfl, List.forall_mem_nil _, unmarked, ?_⟩
    rw [← UInt8.toNat_inj, byte, UInt8.toNat_zero]
  | case2 n large ih =>
    obtain ⟨front, last, whole, marked, unmarked, zero⟩ := ih
    obtain ⟨first, -⟩ := furtherGroup (Nat.mod_lt n (by decide : 0 < 128))
    refine ⟨_ :: front, last, by rw [whole]; rfl, List.forall_mem_cons.mpr ⟨first, marked⟩, unmarked, ?_⟩
    rw [zero]
    omega

/-! Reading -/

theorem readGrouped (grouped : Grouped front n) (rest : Bytes) : readGroups? (front ++ rest) = some (n, rest) := by
  induction grouped with
  | @last b unmarked =>
    rw [List.singleton_append, readGroups?, if_pos ((unmarkedIff b).mp unmarked), lowUnmarked unmarked]
  | @more b bs n marked onward ih =>
    rw [List.cons_append, readGroups?, if_neg (mt (unmarkedIff b).mpr marked), ih, ← lowMarked marked,
      Nat.add_sub_cancel]
    rfl

theorem groupedOfRead (read : readGroups? bs = some (n, rest)) : ∃ front, bs = front ++ rest ∧ Grouped front n := by
  induction bs generalizing n with
  | nil => cases read
  | cons b bs ih =>
    rw [readGroups?] at read
    split at read
    · rename_i small
      cases read
      have unmarked := (unmarkedIff b).mpr small
      have grouped := Grouped.last unmarked
      rw [lowUnmarked unmarked] at grouped
      exact ⟨[b], rfl, grouped⟩
    · rename_i large
      obtain ⟨⟨m, left⟩, found, same⟩ := Option.map_eq_some_iff.mp read
      cases same
      obtain ⟨front, split, grouped⟩ := ih found
      have marked := mt (unmarkedIff b).mp large
      rw [← lowMarked marked, Nat.add_sub_cancel]
      exact ⟨b :: front, congrArg (b :: ·) split, .more marked grouped⟩

theorem groupedIff : readGroups? bs = some (n, []) ↔ Grouped bs n := by
  constructor
  · intro read
    obtain ⟨front, split, grouped⟩ := groupedOfRead read
    rwa [split, List.append_nil]
  · intro grouped
    have read := readGrouped grouped []
    rwa [List.append_nil] at read

instance : Decidable (Grouped bs n) := decidable_of_iff _ groupedIff

/-- A reader that puts the groups into a word, each at its shift. A shift by all of the word's bits is an error. -/
def gather? (value : UInt64) (shift : Nat) : Bytes → Option (Int64 × Bytes)
  | [] => none
  | b :: bs =>
    if shift < 64 then
      let value := value ||| (b &&& 0x7F).toUInt64 <<< UInt64.ofNat shift
      if b &&& 0x80 = 0 then some (value.toInt64, bs) else gather? value (shift + 7) bs
    else none

variable {value : UInt64} {shift : Nat}

/-- Bits beyond the word are lost to the shift and to the sum alike. -/
theorem placed (below : value.toNat < 2 ^ shift) (within : shift < 64) (b : UInt8) :
    value ||| b.toUInt64 <<< UInt64.ofNat shift = UInt64.ofNat (value.toNat + b.toNat * 2 ^ shift) := by
  have width : 2 ^ 64 = 2 ^ shift * 2 ^ (64 - shift) := by
    rw [← Nat.pow_add, Nat.add_sub_cancel' (Nat.le_of_lt within)]
  have amount : (UInt64.ofNat shift).toNat % 64 = shift := by
    rw [UInt64.toNat_ofNat']
    omega
  have shifted : (b.toUInt64 <<< UInt64.ofNat shift).toNat = 2 ^ shift * (b.toNat % 2 ^ (64 - shift)) := by
    rw [UInt64.toNat_shiftLeft, amount, UInt8.toNat_toUInt64, Nat.shiftLeft_eq, width, Nat.mul_comm,
      Nat.mul_mod_mul_left]
  have summed : (value.toNat + b.toNat * 2 ^ shift) % 2 ^ 64 =
      value.toNat + 2 ^ shift * (b.toNat % 2 ^ (64 - shift)) := by
    rw [width, Nat.mod_mul, Nat.add_mul_mod_self_right, Nat.mod_eq_of_lt below,
      Nat.add_mul_div_right _ _ (Nat.two_pow_pos shift), Nat.div_eq_of_lt below, Nat.zero_add]
  rw [← UInt64.toNat_inj, UInt64.toNat_or, shifted, UInt64.toNat_ofNat', summed, Nat.or_comm,
    ← Nat.two_pow_add_eq_or_of_lt below, Nat.add_comm]

theorem placedBelow (below : value.toNat < 2 ^ shift) (room : shift + 7 < 64) {b : UInt8} (low : b.toNat ≤ 127) :
    (value ||| b.toUInt64 <<< UInt64.ofNat shift).toNat = value.toNat + b.toNat * 2 ^ shift ∧
      value.toNat + b.toNat * 2 ^ shift < 2 ^ (shift + 7) := by
  have wider : 2 ^ (shift + 7) = 2 ^ shift * 128 := Nat.pow_add 2 shift 7
  have narrow : 2 ^ (shift + 7) ≤ 2 ^ 63 := Nat.pow_le_pow_right (by decide) (by omega)
  have most := Nat.mul_le_mul_right (2 ^ shift) low
  have fits : value.toNat + b.toNat * 2 ^ shift < 2 ^ (shift + 7) := by omega
  have kept : value.toNat + b.toNat * 2 ^ shift < UInt64.size := by rw [UInt64.size]; omega
  rw [placed below (by omega), UInt64.toNat_ofNat_of_lt' kept]
  exact ⟨rfl, fits⟩

theorem gatherGrouped (grouped : Grouped front n) (below : value.toNat < 2 ^ shift)
    (room : shift + 7 * front.length ≤ 70) (rest : Bytes) :
    gather? value shift (front ++ rest) = some ((UInt64.ofNat (value.toNat + n * 2 ^ shift)).toInt64, rest) := by
  induction grouped generalizing value shift with
  | @last b unmarked =>
    rw [List.length_singleton] at room
    have within : shift < 64 := by omega
    rw [List.singleton_append, gather?, if_pos within, placed below within]
    exact if_pos unmarked
  | @more b bs n marked onward ih =>
    have filled := groupedFilled onward
    rw [List.length_cons] at room
    have low : (b &&& 0x7F).toNat ≤ 127 := by
      rw [lowSeven]
      omega
    -- as more follows, the shift for it is still within the word: here no bit is lost
    obtain ⟨sum, belowNext⟩ := placedBelow below (by omega) low
    rw [← sum] at belowNext
    have onwards := ih belowNext (by omega)
    have whole : value.toNat + (b &&& 0x7F).toNat * 2 ^ shift + n * 2 ^ (shift + 7) =
        value.toNat + ((b &&& 0x7F).toNat + 128 * n) * 2 ^ shift := by
      rw [Nat.pow_add, Nat.add_mul, Nat.add_assoc, Nat.mul_comm 128 n, Nat.mul_assoc, Nat.mul_comm 128]
    rw [sum, whole] at onwards
    rw [List.cons_append, gather?, if_pos (by omega)]
    exact (if_neg marked).trans onwards

/-! Length -/

theorem groupsLength {n : Nat} (k : Nat) (small : n < 128 ^ (k + 1)) : (groups n).length ≤ k + 1 := by
  induction k generalizing n with
  | zero => rw [groups, if_pos (by omega)]; exact Nat.le_refl 1
  | succ k ih =>
    rw [groups]
    split
    · exact Nat.le_add_left 1 (k + 1)
    · have rest : n / 128 < 128 ^ (k + 1) := Nat.div_lt_of_lt_mul (by rwa [Nat.mul_comm, ← Nat.pow_succ])
      exact Nat.succ_le_succ (ih rest)

theorem varintLength (i : Int64) : (varint i).length ≤ 10 :=
  groupsLength 9 (Nat.lt_of_lt_of_le i.toUInt64.toNat_lt (by decide))

theorem groupsLonger {m n : Nat} (most : m ≤ n) : (groups m).length ≤ (groups n).length := by
  fun_induction groups n generalizing m with
  | case1 n small =>
    rw [groups, if_pos (by omega)]
    exact Nat.le_refl 1
  | case2 n large ih =>
    rw [groups]
    split
    · exact Nat.le_add_left 1 _
    · exact Nat.succ_le_succ (ih (Nat.div_le_div_right most))

theorem groupsMore {low n : Nat} (small : low < 128) (more : 0 < n) :
    groups (low + 128 * n) = UInt8.ofNat (low + 128) :: groups n := by
  have first : (low + 128 * n) % 128 = low := by omega
  have others : (low + 128 * n) / 128 = n := by omega
  rw [groups, if_neg (by omega), first, others]

theorem groupedShortest (grouped : Grouped bs n) : bs = groups n ∨ (groups n).length < bs.length := by
  induction grouped with
  | @last b unmarked =>
    rw [lowUnmarked unmarked, groups, if_pos ((unmarkedIff b).mp unmarked), UInt8.ofNat_toNat]
    exact .inl rfl
  | @more b bs n marked onward ih =>
    have low : (b &&& 0x7F).toNat < 128 := by
      rw [lowSeven]
      exact Nat.mod_lt _ (by decide)
    rcases Nat.eq_zero_or_pos n with rfl | more
    · -- only zeros follow, and the low bits would have done alone
      rw [Nat.mul_zero, Nat.add_zero, groups, if_pos low]
      exact .inr (Nat.succ_lt_succ (groupedFilled onward))
    · rw [groupsMore low more, lowMarked marked, UInt8.ofNat_toNat]
      rcases ih with rfl | longer
      · exact .inl rfl
      · exact .inr (Nat.succ_lt_succ longer)

/-! Integers -/

theorem wordInjective {v w : Int64} : v.toUInt64.toNat = w.toUInt64.toNat ↔ v = w := by
  constructor
  · intro same
    rw [← Int64.toInt64_toUInt64 v, UInt64.toNat_inj.mp same, Int64.toInt64_toUInt64]
  · rintro rfl
    rfl

/-- Also where the groups hold more than a word, which reading cuts off. -/
theorem readLonger {v : Int64} (read : readVarint? bs = some (v, rest)) :
    (varint v).length + rest.length ≤ bs.length := by
  obtain ⟨⟨n, left⟩, found, same⟩ := Option.map_eq_some_iff.mp read
  cases same
  obtain ⟨front, split, grouped⟩ := groupedOfRead found
  have held : (UInt64.ofNat n).toInt64.toUInt64.toNat ≤ n := by
    rw [UInt64.toUInt64_toInt64, UInt64.toNat_ofNat']
    exact Nat.mod_le _ _
  have longer := groupsLonger held
  have shortest : (groups n).length ≤ front.length := by
    rcases groupedShortest grouped with same | longer
    · exact Nat.le_of_eq (congrArg List.length same.symm)
    · exact Nat.le_of_lt longer
  rw [split, List.length_append, varint]
  omega

theorem beginsItself (v w : Int64) : varint v <+: varint w ↔ v = w := by
  constructor
  · rintro ⟨others, whole⟩
    have first := readVarintOfVarint v others
    have all := readVarintOfVarint w []
    rw [List.append_nil, ← whole, first] at all
    cases all
    rfl
  · rintro rfl
    exact List.prefix_refl _

theorem varintsCanonical (v : Int64) :
    (∀ buf, (putVarint buf v).toList = buf.toList ++ varint v) ∧
    (∀ rest, readVarint? (varint v ++ rest) = some (v, rest) ∧
      gather? 0 0 (varint v ++ rest) = some (v, rest)) ∧
    (1 ≤ (varint v).length ∧ (varint v).length ≤ 10) ∧
    (∃ front last, varint v = front ++ [last] ∧ (∀ b ∈ front, b &&& 0x80 ≠ 0) ∧ last &&& 0x80 = 0 ∧
      (last = 0 ↔ v = 0)) ∧
    Grouped (varint v) v.toUInt64.toNat ∧
    (∀ bs, Grouped bs v.toUInt64.toNat → bs = varint v ∨ (varint v).length < bs.length) ∧
    (∀ bs rest, readVarint? bs = some (v, rest) → (varint v).length + rest.length ≤ bs.length) ∧
    ∀ w, varint v <+: varint w ↔ v = w := by
  have grouped : Grouped (varint v) v.toUInt64.toNat := groupsGrouped _
  have length := varintLength v
  refine ⟨fun buf => putVarintList buf v, fun rest => ⟨readVarintOfVarint v rest, ?_⟩,
    ⟨groupedFilled grouped, length⟩, ?_, grouped, fun _ => groupedShortest, fun _ _ => readLonger, beginsItself v⟩
  · have start : (0 : UInt64).toNat < 2 ^ 0 := by decide
    have gathered := gatherGrouped grouped start (by omega) rest
    rwa [UInt64.toNat_zero, Nat.zero_add, Nat.pow_zero, Nat.mul_one, UInt64.ofNat_toNat] at gathered
  · obtain ⟨front, last, whole, marked, unmarked, zero⟩ := groupsEnd v.toUInt64.toNat
    exact ⟨front, last, whole, marked, unmarked, zero.trans (wordInjective (w := 0))⟩

/-- Ten bytes, the last for a single bit. With a group of zeros more it is the same number, but longer, and the
last shift leaves the word. -/
theorem minusOneShortest :
    let padded : Bytes := List.replicate 9 0xFF ++ [0x81, 0x00]
    Grouped padded (-1 : Int64).toUInt64.toNat ∧ readVarint? padded = some (-1, []) ∧ gather? 0 0 padded = none ∧
      (putVarint #[] (-1)).toList = List.replicate 9 0xFF ++ [0x01] ∧ (varint (-1)).length < padded.length := by
  intro padded
  have grouped : Grouped padded (-1 : Int64).toUInt64.toNat := by decide +kernel
  have written : varint (-1) = List.replicate 9 0xFF ++ [0x01] := by decide +kernel
  obtain ⟨put, -, -, -, -, shortest, -⟩ := varintsCanonical (-1)
  refine ⟨grouped, by decide +kernel, by decide +kernel, (put #[]).trans written, ?_⟩
  rcases shortest padded grouped with same | longer
  · exact absurd (same.trans written) (by decide)
  · exact longer

end TraceRelay.Record
