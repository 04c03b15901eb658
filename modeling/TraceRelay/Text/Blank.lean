/-! Blank characters and trimming. Blank means the Unicode property White_Space, so the zero-width
space and the byte order mark are not blank. -/
namespace TraceRelay.Text

def isBlank (c : Char) : Bool :=
  let n := c.toNat
  (9 ≤ n && n ≤ 13) || n == 0x20 || n == 0x85 || n == 0xA0 || n == 0x1680 ||
    (0x2000 ≤ n && n ≤ 0x200A) || n == 0x2028 || n == 0x2029 || n == 0x202F || n == 0x205F ||
    n == 0x3000

def trimChars (cs : List Char) : List Char :=
  ((cs.dropWhile isBlank).reverse.dropWhile isBlank).reverse

def trim (s : String) : String := String.ofList (trimChars s.toList)

def isBlankText (s : String) : Bool := s.toList.all isBlank

theorem headAfterBlanks {cs : List Char} {c : Char}
    (h : (cs.dropWhile isBlank).head? = some c) : isBlank c = false := by
  have := List.head?_dropWhile_not isBlank cs
  rw [h] at this
  exact this

theorem trimCharsHead {cs : List Char} {c : Char}
    (h : (trimChars cs).head? = some c) : isBlank c = false := by
  refine @headAfterBlanks cs c ?_
  have inFront := List.reverse_prefix.2
    (List.dropWhile_suffix isBlank (l := (cs.dropWhile isBlank).reverse))
  rw [List.reverse_reverse] at inFront
  obtain ⟨t, ht⟩ := inFront
  unfold trimChars at h
  rw [← ht, List.head?_append, h]
  rfl

theorem trimCharsLast {cs : List Char} {c : Char}
    (h : (trimChars cs).getLast? = some c) : isBlank c = false := by
  unfold trimChars at h
  rw [List.getLast?_reverse] at h
  exact headAfterBlanks h

end TraceRelay.Text
