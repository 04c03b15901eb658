import TraceRelay.Text.Unprintable
import TraceRelay.Text.Utf8
/-! Quoted text: what a value looks like in a message meant for people. Quotes, backslashes and
characters that do not show are spelled out as escapes. -/
namespace TraceRelay.Text

def hexDigits (n : Nat) : List Char := Nat.toDigits 16 n

/-- `quote` is the mark around the text, the only one of the two quotes that needs an escape. -/
def escapeChar (quote c : Char) : List Char :=
  if c = '\t' then ['\\', 't']
  else if c = '\n' then ['\\', 'n']
  else if c = '\r' then ['\\', 'r']
  else if c = '\x00' then ['\\', '0']
  else if c = '\\' then ['\\', '\\']
  else if c = quote then ['\\', quote]
  else if isPrintable c then [c]
  else ['\\', 'u', '\x7b'] ++ hexDigits c.toNat ++ ['\x7d']

def quotedChar (c : Char) : String := String.ofList ('\'' :: escapeChar '\'' c ++ ['\''])

def quoted (s : String) : String :=
  String.ofList ('"' :: s.toList.flatMap (escapeChar '"') ++ ['"'])

def quotedList (ss : List String) : String :=
  "[" ++ String.intercalate ", " (ss.map quoted) ++ "]"

theorem hexDigitsKinds {n : Nat} {c : Char} (member : c ∈ hexDigits n) : ∃ k < 16, c = Nat.digitChar k := by
  induction n using Nat.strongRecOn with
  | ind n ih =>
    rw [hexDigits, Nat.toDigits_eq_if (by decide)] at member
    split at member
    · rename_i small
      exact ⟨n, small, List.mem_singleton.mp member⟩
    · rcases List.mem_append.mp member with front | last
      · exact ih (n / 16) (by omega) front
      · exact ⟨n % 16, Nat.mod_lt n (by decide), List.mem_singleton.mp last⟩

theorem hexDigitsShown (n : Nat) : (hexDigits n).all isPrintable = true := by
  have digits : ∀ k < 16, isPrintable (Nat.digitChar k) = true := by decide
  refine List.all_eq_true.mpr fun c member => ?_
  obtain ⟨k, small, rfl⟩ := hexDigitsKinds member
  exact digits k small

theorem escapeShown {quote : Char} (mark : isPrintable quote = true) (c : Char) :
    (escapeChar quote c).all isPrintable = true := by
  unfold escapeChar
  repeat' split
  all_goals try decide
  · have backslash : isPrintable '\\' = true := by decide
    simp only [List.all_cons, List.all_nil, backslash, mark, Bool.and_self]
  · rename_i shown
    simp only [List.all_cons, List.all_nil, shown, Bool.and_self]
  · have ends : ['\\', 'u', '\x7b'].all isPrintable = true ∧ ['\x7d'].all isPrintable = true := by decide
    simp only [List.all_append, hexDigitsShown, ends, Bool.and_self]

theorem quotedCharShown (c : Char) : (quotedChar c).toList.all isPrintable = true := by
  have mark : isPrintable '\'' = true := by decide
  simp only [quotedChar, String.toList_ofList, List.all_append, List.all_cons, List.all_nil, mark, escapeShown mark,
    Bool.and_self]

end TraceRelay.Text
