/-! Splitting at a separator. The pieces joined by the separator give the input back, and no piece
holds the separator. -/
namespace TraceRelay.Text

def splitOn [DecidableEq α] (sep : α) (xs : List α) : List (List α) :=
  xs.foldr (fun x pieces =>
    if x = sep then [] :: pieces
    else match pieces with
      | [] => [[x]]
      | p :: ps => (x :: p) :: ps) [[]]

def joinWith (sep : α) : List (List α) → List α
  | [] => []
  | [p] => p
  | p :: q :: ps => p ++ sep :: joinWith sep (q :: ps)

def splitWhere (isSep : α → Bool) (xs : List α) : List (List α) :=
  xs.foldr (fun x pieces =>
    if isSep x then [] :: pieces
    else match pieces with
      | [] => [[x]]
      | p :: ps => (x :: p) :: ps) [[]]

variable [DecidableEq α] {sep : α}

@[simp] theorem splitOnNil : splitOn sep [] = [[]] := rfl

theorem splitOnCons (x : α) (xs : List α) :
    splitOn sep (x :: xs) = if x = sep then [] :: splitOn sep xs
      else match splitOn sep xs with
        | [] => [[x]]
        | p :: ps => (x :: p) :: ps := rfl

theorem splitOnNonempty (xs : List α) : splitOn sep xs ≠ [] := by
  cases xs with
  | nil => simp
  | cons x xs => rw [splitOnCons]; split
                 · simp
                 · split <;> simp

theorem joinOfSplit (xs : List α) : joinWith sep (splitOn sep xs) = xs := by
  induction xs with
  | nil => rfl
  | cons x xs ih =>
    rw [splitOnCons]
    cases h : splitOn sep xs with
    | nil => exact absurd h (splitOnNonempty xs)
    | cons p ps =>
      rw [h] at ih
      split
      · rename_i hx; subst hx; simp [joinWith, ih]
      · cases ps with
        | nil => simp only [joinWith] at ih ⊢; rw [ih]
        | cons q qs => simp only [joinWith, List.cons_append] at ih ⊢; rw [ih]

theorem splitPieceClean {xs p : List α} (h : p ∈ splitOn sep xs) : sep ∉ p := by
  induction xs generalizing p with
  | nil => simp at h; simp [h]
  | cons x xs ih =>
    rw [splitOnCons] at h
    split at h
    · rcases List.mem_cons.1 h with rfl | h
      · simp
      · exact ih h
    · rename_i hx
      split at h
      · simp at h; subst h; simpa using fun e => hx e.symm
      · rename_i q qs hq
        rcases List.mem_cons.1 h with rfl | h
        · have := ih (p := q) (by simp [hq])
          simp only [List.mem_cons, not_or]
          exact ⟨fun e => hx e.symm, this⟩
        · exact ih (by simp [hq, h])

theorem splitOnFront {p : List α} (h : sep ∉ p) (xs : List α) :
    splitOn sep (p ++ sep :: xs) = p :: splitOn sep xs := by
  induction p with
  | nil => simp [splitOnCons]
  | cons x p ih =>
    simp only [List.mem_cons, not_or] at h
    rw [List.cons_append, splitOnCons, ih h.2, if_neg (fun e => h.1 e.symm)]

theorem splitOnClean {p : List α} (h : sep ∉ p) : splitOn sep p = [p] := by
  induction p with
  | nil => rfl
  | cons x p ih =>
    simp only [List.mem_cons, not_or] at h
    rw [splitOnCons, ih h.2, if_neg (fun e => h.1 e.symm)]

theorem splitOfJoin {p : List α} {ps : List (List α)} (clean : ∀ q ∈ p :: ps, sep ∉ q) :
    splitOn sep (joinWith sep (p :: ps)) = p :: ps := by
  induction ps generalizing p with
  | nil => exact splitOnClean (clean p (by simp))
  | cons q ps ih =>
    rw [joinWith, splitOnFront (clean p (by simp)), ih (fun r member => clean r (by simp [member]))]

omit [DecidableEq α] in
theorem memJoin {p : List α} {pieces : List (List α)} (piece : p ∈ pieces) {x : α} (member : x ∈ p) :
    x ∈ joinWith sep pieces := by
  induction pieces with
  | nil => cases piece
  | cons q ps ih =>
    cases ps with
    | nil =>
      rw [List.mem_singleton.mp piece] at member
      exact member
    | cons r ps =>
      rw [joinWith]
      rcases List.mem_cons.mp piece with same | later
      · exact List.mem_append_left _ (same ▸ member)
      · exact List.mem_append_right _ (List.mem_cons_of_mem _ (ih later))

end TraceRelay.Text
