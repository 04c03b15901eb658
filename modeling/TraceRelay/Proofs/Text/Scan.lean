import TraceRelay.Text.Scan
/-! Matches and replacements one step at a time: what is taken is not looked at again, and where nothing matches one
character is passed over. -/
namespace TraceRelay.Text

section Matches
variable {α β : Type} {here? : List α → Option (β × Nat)}

theorem matchesPassed (xs ys : List α) : matchesFrom here? xs.length (xs ++ ys) = matchesOf here? ys := by
  induction xs with
  | nil => rfl
  | cons x xs ih => exact ih

theorem matchesTaken {xs ys : List α} {b : β} (filled : xs ≠ []) (found : here? (xs ++ ys) = some (b, xs.length)) :
    matchesOf here? (xs ++ ys) = b :: matchesOf here? ys := by
  cases xs with
  | nil => exact absurd rfl filled
  | cons x xs =>
    rw [matchesOf, List.cons_append, matchesFrom]
    rw [List.cons_append] at found
    rw [found]
    exact congrArg (b :: ·) (matchesPassed xs ys)

theorem matchesSkipped {x : α} {ys : List α} (none : here? (x :: ys) = none) :
    matchesOf here? (x :: ys) = matchesOf here? ys := by
  rw [matchesOf, matchesFrom, none, matchesOf]

theorem matchesOver {xs ys : List α} (never : ∀ x ∈ xs, ∀ zs, here? (x :: zs) = none) :
    matchesOf here? (xs ++ ys) = matchesOf here? ys := by
  induction xs with
  | nil => rfl
  | cons x xs ih =>
    obtain ⟨first, others⟩ := List.forall_mem_cons.mp never
    rw [List.cons_append, matchesSkipped (first _), ih others]

end Matches

section Replace
variable {word image : List Char}

theorem replacePassed (xs ys : List Char) : replaceFrom word image xs.length (xs ++ ys) = replaceAll word image ys := by
  induction xs with
  | nil => rfl
  | cons x xs ih => exact ih

theorem replaceWord (filled : word ≠ []) (cs : List Char) :
    replaceAll word image (word ++ cs) = image ++ replaceAll word image cs := by
  have front : word.isPrefixOf (word ++ cs) = true := List.isPrefixOf_iff_prefix.mpr (List.prefix_append word cs)
  cases word with
  | nil => exact absurd rfl filled
  | cons w ws =>
    rw [List.cons_append] at front
    rw [replaceAll, List.cons_append, replaceFrom, if_pos front]
    exact congrArg (image ++ ·) (replacePassed ws cs)

theorem replaceOther {c : Char} {cs : List Char} (other : ¬ word <+: c :: cs) :
    replaceAll word image (c :: cs) = c :: replaceAll word image cs := by
  rw [replaceAll, replaceFrom, if_neg (mt List.isPrefixOf_iff_prefix.mp other)]
  rfl

end Replace

end TraceRelay.Text
