/-! Entries by key, in the order of first use. -/
namespace TraceRelay

abbrev Keyed (κ ν : Type) := List (κ × ν)

namespace Keyed

variable {κ ν : Type} [DecidableEq κ]

def get? (k : κ) : Keyed κ ν → Option ν
  | [] => none
  | (a, v) :: r => if a = k then some v else get? k r

def upsert (k : κ) (f : Option ν → ν) : Keyed κ ν → Keyed κ ν
  | [] => [(k, f none)]
  | (a, v) :: r => if a = k then (a, f (some v)) :: r else (a, v) :: upsert k f r

def keys (t : Keyed κ ν) : List κ := t.map Prod.fst

theorem getUpsert (k j : κ) (f : Option ν → ν) (t : Keyed κ ν) :
    get? j (upsert k f t) = if j = k then some (f (get? k t)) else get? j t := by
  induction t with
  | nil => by_cases h : k = j <;> simp [upsert, get?, h, eq_comm]
  | cons e r ih =>
    obtain ⟨a, v⟩ := e
    by_cases ha : a = k
    · subst ha
      by_cases hj : a = j
      · subst hj; simp [upsert, get?]
      · simp only [upsert, get?, if_true, if_neg hj, if_neg (Ne.symm hj)]
    · by_cases hj : a = j
      · subst hj; simp [upsert, get?, ha]
      · simp [upsert, get?, ha, hj, ih]

end Keyed

end TraceRelay
