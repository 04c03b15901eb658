import TraceRelay.Text.Utf8
/-! Reading bytes as text. What was written as text reads back as that text, and a control character
can only be read from the byte that stands for it, however ill-formed the bytes around it are. -/
namespace TraceRelay.Text

theorem byteValue {n : Nat} (small : n < 256) : (UInt8.ofNat n).toNat = n := by
  rw [UInt8.toNat_ofNat']
  omega

theorem leadWhole {n : Nat} (small : n < 0x80) :
    Lead.ofByte (UInt8.ofNat n) = .whole (Char.ofNat n) := by
  have value := byteValue (n := n) (by omega)
  simp only [Lead.ofByte, UInt8.lt_iff_toNat_lt, value, UInt8.reduceToNat, if_pos small]

theorem leadTwo {x : Nat} (low : 2 ≤ x) (high : x < 0x20) :
    Lead.ofByte (UInt8.ofNat (x % 0x20 + 0xC0)) = .begun ⟨x, 1, 0x80, 0xBF⟩ := by
  have value := byteValue (n := x % 0x20 + 0xC0) (by omega)
  have bits : x % 0x20 + 0xC0 - 0xC0 = x := by omega
  simp only [Lead.ofByte, UInt8.lt_iff_toNat_lt, value, UInt8.reduceToNat, bits]
  rw [if_neg (by omega), if_neg (by omega), if_pos (by omega)]

theorem leadThree {x : Nat} (high : x < 0x10) :
    Lead.ofByte (UInt8.ofNat (x % 0x10 + 0xE0)) = .begun ⟨x, 2, if x = 0 then 0xA0 else 0x80,
      if x = 13 then 0x9F else 0xBF⟩ := by
  have value := byteValue (n := x % 0x10 + 0xE0) (by omega)
  have bits : x % 0x10 + 0xE0 - 0xE0 = x := by omega
  have first : x % 0x10 + 0xE0 = 0xE0 ↔ x = 0 := by omega
  have surrogates : x % 0x10 + 0xE0 = 0xED ↔ x = 13 := by omega
  simp only [Lead.ofByte, UInt8.lt_iff_toNat_lt, ← UInt8.toNat_inj, value, UInt8.reduceToNat, bits,
    first, surrogates]
  rw [if_neg (by omega), if_neg (by omega), if_neg (by omega), if_pos (by omega)]

theorem leadFour {x : Nat} (high : x < 5) :
    Lead.ofByte (UInt8.ofNat (x % 0x08 + 0xF0)) = .begun ⟨x, 3, if x = 0 then 0x90 else 0x80,
      if x = 4 then 0x8F else 0xBF⟩ := by
  have value := byteValue (n := x % 0x08 + 0xF0) (by omega)
  have bits : x % 0x08 + 0xF0 - 0xF0 = x := by omega
  have first : x % 0x08 + 0xF0 = 0xF0 ↔ x = 0 := by omega
  have last : x % 0x08 + 0xF0 = 0xF4 ↔ x = 4 := by omega
  simp only [Lead.ofByte, UInt8.lt_iff_toNat_lt, ← UInt8.toNat_inj, value, UInt8.reduceToNat, bits,
    first, last]
  rw [if_neg (by omega), if_neg (by omega), if_neg (by omega), if_neg (by omega), if_pos (by omega)]

namespace Reading

theorem feedWhole {b : UInt8} {c : Char} (text : List Char) (lead : Lead.ofByte b = .whole c) :
    feed ⟨text, none⟩ b = ⟨c :: text, none⟩ := by
  simp [feed, start, lead]

theorem feedBegun {b : UInt8} {p : Begun} (text : List Char) (lead : Lead.ofByte b = .begun p) :
    feed ⟨text, none⟩ b = ⟨text, some p⟩ := by
  simp [feed, start, lead]

theorem feedMore {bits owed x : Nat} {low high : UInt8} (text : List Char)
    (above : low.toNat ≤ x % 0x40 + 0x80) (below : x % 0x40 + 0x80 ≤ high.toNat) :
    feed ⟨text, some ⟨bits, owed + 2, low, high⟩⟩ (UInt8.ofNat (x % 0x40 + 0x80)) =
      ⟨text, some ⟨bits * 64 + x % 0x40, owed + 1, 0x80, 0xBF⟩⟩ := by
  have value := byteValue (n := x % 0x40 + 0x80) (by omega)
  have fits : (decide (low ≤ UInt8.ofNat (x % 0x40 + 0x80)) &&
      decide (UInt8.ofNat (x % 0x40 + 0x80) ≤ high)) = true := by
    rw [Bool.and_eq_true, decide_eq_true_eq, decide_eq_true_eq, UInt8.le_iff_toNat_le,
      UInt8.le_iff_toNat_le, value]
    exact ⟨above, below⟩
  have digit : x % 0x40 + 0x80 - 0x80 = x % 0x40 := by omega
  simp only [feed, fits, if_true, value, digit]
  rw [if_neg (by omega)]
  rfl

theorem feedLast (bits x : Nat) (text : List Char) :
    feed ⟨text, some ⟨bits, 1, 0x80, 0xBF⟩⟩ (UInt8.ofNat (x % 0x40 + 0x80)) =
      ⟨Char.ofNat (bits * 64 + x % 0x40) :: text, none⟩ := by
  have value := byteValue (n := x % 0x40 + 0x80) (by omega)
  have fits : (decide (0x80 ≤ UInt8.ofNat (x % 0x40 + 0x80)) &&
      decide (UInt8.ofNat (x % 0x40 + 0x80) ≤ 0xBF)) = true := by
    rw [Bool.and_eq_true, decide_eq_true_eq, decide_eq_true_eq, UInt8.le_iff_toNat_le,
      UInt8.le_iff_toNat_le, value]
    simp only [UInt8.reduceToNat]
    omega
  have digit : x % 0x40 + 0x80 - 0x80 = x % 0x40 := by omega
  simp only [feed, fits, if_true, value, digit]
  rfl

end Reading

theorem feedChar (text : List Char) (c : Char) :
    (String.utf8EncodeChar c).foldl Reading.feed ⟨text, none⟩ = ⟨c :: text, none⟩ := by
  have valid : c.val.toNat < 0xD800 ∨ 0xDFFF < c.val.toNat ∧ c.val.toNat < 0x110000 := c.valid
  have whole : Char.ofNat c.val.toNat = c := Char.ofNat_toNat c
  unfold String.utf8EncodeChar
  generalize c.val.toNat = v at valid whole
  dsimp only
  split
  · rename_i one
    simp only [List.foldl_cons, List.foldl_nil]
    rw [Reading.feedWhole text (leadWhole (by omega)), whole]
  · split
    · rename_i one two
      have bits : v / 64 * 64 + v % 0x40 = v := by omega
      simp only [List.foldl_cons, List.foldl_nil]
      rw [Reading.feedBegun text (leadTwo (by omega) (by omega)), Reading.feedLast, bits, whole]
    · split
      · rename_i one two three
        have bits : (v / 4096 * 64 + v / 64 % 0x40) * 64 + v % 0x40 = v := by omega
        simp only [List.foldl_cons, List.foldl_nil]
        -- the second byte is bounded more tightly: nothing shorter would do, and no surrogates
        rw [Reading.feedBegun text (leadThree (by omega)),
          Reading.feedMore text (by split <;> simp only [UInt8.reduceToNat] <;> omega)
            (by split <;> simp only [UInt8.reduceToNat] <;> omega),
          Reading.feedLast, bits, whole]
      · rename_i one two three
        have bits : ((v / 262144 * 64 + v / 4096 % 0x40) * 64 + v / 64 % 0x40) * 64 + v % 0x40 = v := by
          omega
        simp only [List.foldl_cons, List.foldl_nil]
        rw [Reading.feedBegun text (leadFour (by omega)),
          Reading.feedMore text (by split <;> simp only [UInt8.reduceToNat] <;> omega)
            (by split <;> simp only [UInt8.reduceToNat] <;> omega),
          Reading.feedMore text (by simp only [UInt8.reduceToNat]; omega)
            (by simp only [UInt8.reduceToNat]; omega),
          Reading.feedLast, bits, whole]

theorem feedChars (text cs : List Char) :
    (cs.flatMap String.utf8EncodeChar).foldl Reading.feed ⟨text, none⟩ =
      ⟨cs.reverse ++ text, none⟩ := by
  induction cs generalizing text with
  | nil => rfl
  | cons c cs ih =>
    rw [List.flatMap_cons, List.foldl_append, feedChar, ih, List.reverse_cons, List.append_assoc]
    rfl

theorem lossyCharsUtf8 (s : String) : lossyChars (utf8 s) = s.toList := by
  rw [lossyChars, utf8, feedChars]
  simp [Reading.finish]

theorem lossyUtf8 (s : String) : lossy (utf8 s) = s := by
  rw [lossy, lossyCharsUtf8, String.ofList_toList]

theorem utf8Injective {s t : String} (same : utf8 s = utf8 t) : s = t := by
  rw [← lossyUtf8 s, same, lossyUtf8]

theorem ofUtf8Utf8 (s : String) : ofUtf8? (utf8 s) = some s := by
  simp [ofUtf8?, lossyUtf8]

/-! Control characters -/

theorem ofNatValid {n : Nat} (valid : n.isValidChar) : (Char.ofNat n).toNat = n := by
  unfold Char.ofNat
  rw [dif_pos valid]
  rfl

theorem ofNatInvalid {n : Nat} (invalid : ¬ n.isValidChar) : (Char.ofNat n).toNat = 0 := by
  unfold Char.ofNat
  rw [dif_neg invalid]
  rfl

theorem ofNatControl {n d : Nat} (positive : 0 < d) (small : d < 0x10)
    (same : Char.ofNat n = Char.ofNat d) : n = d := by
  have values := congrArg Char.toNat same
  rw [ofNatValid (n := d) (Or.inl (by omega))] at values
  by_cases valid : n.isValidChar
  · rwa [ofNatValid valid] at values
  · rw [ofNatInvalid valid] at values
    omega

theorem controlByte {d : Nat} (small : d < 0x80) {s : String} (member : UInt8.ofNat d ∈ utf8 s) :
    Char.ofNat d ∈ s.toList := by
  obtain ⟨c, inside, byte⟩ := List.mem_flatMap.mp member
  have value := byteValue (n := d) (by omega)
  have whole : Char.ofNat c.val.toNat = c := Char.ofNat_toNat c
  suffices c.val.toNat = d by rwa [← this, whole]
  unfold String.utf8EncodeChar at byte
  generalize c.val.toNat = v at byte
  dsimp only at byte
  split at byte
  · have same := congrArg UInt8.toNat (List.mem_singleton.mp byte)
    rw [value, byteValue (by omega)] at same
    exact same.symm
  · exfalso
    split at byte
    · simp only [List.mem_cons, List.not_mem_nil, or_false, ← UInt8.toNat_inj, value] at byte
      rw [byteValue (by omega), byteValue (by omega)] at byte
      omega
    · split at byte
      · simp only [List.mem_cons, List.not_mem_nil, or_false, ← UInt8.toNat_inj, value] at byte
        rw [byteValue (by omega), byteValue (by omega), byteValue (by omega)] at byte
        omega
      · simp only [List.mem_cons, List.not_mem_nil, or_false, ← UInt8.toNat_inj, value] at byte
        rw [byteValue (by omega), byteValue (by omega), byteValue (by omega),
          byteValue (by omega)] at byte
        omega

theorem leadIsWhole {b : UInt8} {c : Char} (lead : Lead.ofByte b = .whole c) :
    c = Char.ofNat b.toNat := by
  unfold Lead.ofByte at lead
  split at lead
  · cases lead
    rfl
  · repeat' split at lead
    all_goals contradiction

/-- A character begun will be no control character, whatever bytes finish it. -/
def Begun.High (p : Begun) : Prop :=
  0x80 ≤ p.low.toNat ∧ 0x10 ≤ p.bits * 64 + (p.low.toNat - 0x80)

theorem leadIsHigh {b : UInt8} {p : Begun} (lead : Lead.ofByte b = .begun p) : p.High := by
  unfold Lead.ofByte at lead
  simp only [UInt8.lt_iff_toNat_lt, ← UInt8.toNat_inj, UInt8.reduceToNat] at lead
  split at lead <;> try contradiction
  split at lead <;> try contradiction
  split at lead
  · rw [← Lead.begun.inj lead]
    simp only [Begun.High, UInt8.reduceToNat]
    omega
  · split at lead
    · rw [← Lead.begun.inj lead]
      unfold Begun.High
      dsimp only
      split <;> simp only [UInt8.reduceToNat] <;> omega
    · split at lead <;> try contradiction
      rw [← Lead.begun.inj lead]
      unfold Begun.High
      dsimp only
      split <;> simp only [UInt8.reduceToNat] <;> omega

namespace Reading

def Free (d : Nat) (r : Reading) : Prop :=
  Char.ofNat d ∉ r.newestFirst ∧ ∀ p, r.begun = some p → p.High

variable {d : Nat} {b : UInt8}

theorem freeReplaced (small : d < 0x10) {text : List Char} (free : Char.ofNat d ∉ text) :
    Char.ofNat d ∉ replacement :: text := by
  have other : Char.ofNat d ≠ replacement := by
    intro same
    have values := congrArg Char.toNat same
    rw [ofNatValid (n := d) (Or.inl (by omega))] at values
    have high : replacement.toNat = 0xFFFD := rfl
    omega
  exact List.not_mem_cons_of_ne_of_not_mem other free

theorem freeStart (positive : 0 < d) (small : d < 0x10) (other : b ≠ UInt8.ofNat d) {text : List Char}
    (free : Char.ofNat d ∉ text) : Free d (start text b) := by
  unfold start
  cases lead : Lead.ofByte b with
  | whole c =>
    refine ⟨List.not_mem_cons_of_ne_of_not_mem (fun same => ?_) free, by simp⟩
    rw [leadIsWhole lead] at same
    have value := ofNatControl positive small same.symm
    exact other (by rw [← value, UInt8.ofNat_toNat])
  | begun p => exact ⟨free, fun q begun => Option.some.inj begun ▸ leadIsHigh lead⟩
  | stray => exact ⟨freeReplaced small free, by simp⟩

theorem freeFeed (positive : 0 < d) (small : d < 0x10) (other : b ≠ UInt8.ofNat d) {r : Reading}
    (free : r.Free d) : Free d (r.feed b) := by
  unfold feed
  split
  · exact freeStart positive small other free.1
  · rename_i p begun
    have high := free.2 p begun
    split
    · rename_i fits
      simp only [Bool.and_eq_true, decide_eq_true_eq, UInt8.le_iff_toNat_le] at fits
      have bits : 0x10 ≤ p.bits * 64 + (b.toNat - 0x80) := by
        have bound := high.2
        omega
      dsimp only
      split
      · refine ⟨List.not_mem_cons_of_ne_of_not_mem (fun same => ?_) free.1, by simp⟩
        have value := ofNatControl positive small same.symm
        omega
      · refine ⟨free.1, fun q next => ?_⟩
        cases Option.some.inj next
        simp only [Begun.High, UInt8.reduceToNat]
        omega
    · exact freeStart positive small other (freeReplaced small free.1)

theorem freeFeedAll (positive : 0 < d) (small : d < 0x10) {bs : Bytes} (absent : UInt8.ofNat d ∉ bs)
    {r : Reading} (free : r.Free d) : Free d (bs.foldl feed r) := by
  induction bs generalizing r with
  | nil => exact free
  | cons b bs ih =>
    obtain ⟨other, rest⟩ := List.ne_and_not_mem_of_not_mem_cons absent
    exact ih rest (freeFeed positive small (Ne.symm other) free)

end Reading

theorem controlChar {d : Nat} (positive : 0 < d) (small : d < 0x10) {bs : Bytes}
    (absent : UInt8.ofNat d ∉ bs) : Char.ofNat d ∉ lossyChars bs := by
  have free := Reading.freeFeedAll positive small absent (r := ⟨[], none⟩) ⟨by simp, by simp⟩
  unfold lossyChars Reading.finish
  split
  · exact fun member => free.1 (List.mem_reverse.mp member)
  · exact fun member => Reading.freeReplaced small free.1 (List.mem_reverse.mp member)

/-! Lengths -/

theorem charLength (c : Char) : (String.utf8EncodeChar c).length ≤ 4 := by
  unfold String.utf8EncodeChar
  dsimp only
  repeat' split
  all_goals simp

theorem utf8Length (s : String) : (utf8 s).length ≤ 4 * s.toList.length := by
  unfold utf8
  induction s.toList with
  | nil => simp
  | cons c cs ih =>
    have one := charLength c
    rw [List.flatMap_cons, List.length_append, List.length_cons]
    omega

namespace Reading

/-- Characters read, a character begun among them. -/
def count (r : Reading) : Nat := r.newestFirst.length + if r.begun.isSome then 1 else 0

theorem countStart (text : List Char) (b : UInt8) : (start text b).count ≤ text.length + 1 := by
  unfold start
  split <;> simp [count]

theorem countFeed (r : Reading) (b : UInt8) : (r.feed b).count ≤ r.count + 1 := by
  unfold feed
  split
  · exact Nat.le_trans (countStart _ b) (by simp [count])
  · rename_i p begun
    split
    · dsimp only
      split <;> simp [count, begun]
    · exact Nat.le_trans (countStart _ b) (by simp [count, begun])

theorem countFeedAll (r : Reading) (bs : Bytes) : (bs.foldl feed r).count ≤ r.count + bs.length := by
  induction bs generalizing r with
  | nil => exact Nat.le_refl _
  | cons b bs ih =>
    have first := countFeed r b
    have rest := ih (r.feed b)
    rw [List.foldl_cons, List.length_cons]
    omega

theorem countFinish (r : Reading) : r.finish.length = r.count := by
  unfold finish count
  split <;> simp [*]

theorem startCounts (text : List Char) (b : UInt8) : 1 ≤ (start text b).count := by
  unfold start
  split <;> simp [count]

theorem feedCounts (r : Reading) (b : UInt8) : 1 ≤ (r.feed b).count := by
  unfold feed
  split
  · exact startCounts _ b
  · split
    · dsimp only
      split <;> simp [count]
    · exact startCounts _ b

end Reading

/-- No byte makes more than one character. -/
theorem lossyLength (bs : Bytes) : (lossyChars bs).length ≤ bs.length := by
  have all := Reading.countFeedAll ⟨[], none⟩ bs
  rw [lossyChars, Reading.countFinish]
  exact Nat.le_trans all (by simp [Reading.count])

/-- No byte is read as nothing. -/
theorem lossyEmpty {bs : Bytes} : lossy bs = "" ↔ bs = [] := by
  refine ⟨fun empty => ?_, fun nothing => nothing ▸ rfl⟩
  rcases List.eq_nil_or_concat bs with nothing | ⟨front, b, rfl⟩
  · exact nothing
  · have chars := congrArg (fun s => s.toList.length) empty
    have counted := Reading.feedCounts (front.foldl Reading.feed ⟨[], none⟩) b
    simp [lossy, lossyChars, Reading.countFinish] at chars
    omega

end TraceRelay.Text
