/-! Leftmost matches, one after the other and never overlapping. -/
namespace TraceRelay.Text

/-- `here?` tries a match at the front and tells how many characters it takes; `passed` characters
still belong to the match before. -/
def matchesFrom (here? : List α → Option (β × Nat)) (passed : Nat) : List α → List β
  | [] => []
  | c :: r =>
    match passed with
    | k + 1 => matchesFrom here? k r
    | 0 =>
      match here? (c :: r) with
      | some (b, n) => b :: matchesFrom here? (n - 1) r
      | none => matchesFrom here? 0 r

def matchesOf (here? : List α → Option (β × Nat)) (xs : List α) : List β := matchesFrom here? 0 xs

/-- Every occurrence of `word`, from the left, becomes `image`; what was put in is not read again. -/
def replaceFrom (word image : List Char) (passed : Nat) : List Char → List Char
  | [] => []
  | c :: r =>
    match passed with
    | k + 1 => replaceFrom word image k r
    | 0 =>
      if word.isPrefixOf (c :: r) then image ++ replaceFrom word image (word.length - 1) r
      else c :: replaceFrom word image 0 r

def replaceAll (word image cs : List Char) : List Char := replaceFrom word image 0 cs

end TraceRelay.Text
