import TraceRelay.Proofs.Aggregate.Shares
/-! Groups of a list by key, keys in the order of first use. Entering the items one by one into keyed entries comes
to the same as taking the groups and folding each; for a table this holds on both of its levels. -/
namespace TraceRelay

theorem nodupErased {α : Type} [DecidableEq α] (xs : List α) : xs.eraseDups.Nodup := by
  induction size : xs.length using Nat.strongRecOn generalizing xs with
  | _ size ih =>
    cases xs with
    | nil => exact .nil
    | cons x xs =>
      have shorter := List.length_filter_le (fun y => !y == x) xs
      rw [List.eraseDups_cons, List.nodup_cons]
      refine ⟨fun again => ?_, ih _ (by rw [← size, List.length_cons]; omega) _ rfl⟩
      simp at again

theorem erasedMore {α : Type} [DecidableEq α] (xs : List α) (x : α) :
    (xs ++ [x]).eraseDups = if x ∈ xs then xs.eraseDups else xs.eraseDups ++ [x] := by
  rw [List.eraseDups_append]
  split <;> simp [List.removeAll, List.eraseDups_cons, *]

theorem permErased {α : Type} [DecidableEq α] {xs ys : List α} (same : xs.Perm ys) :
    xs.eraseDups.Perm ys.eraseDups := by
  refine (List.perm_ext_iff_of_nodup (nodupErased xs) (nodupErased ys)).mpr fun x => ?_
  rw [List.mem_eraseDups, List.mem_eraseDups, same.mem_iff]

namespace Keyed

variable {κ ν β : Type} [DecidableEq κ]

/-- What the items of each key fold to, keys in the order of first use. -/
def folded (key : β → κ) (grow : ν → β → ν) (first : ν) (xs : List β) : Keyed κ ν :=
  (xs.map key).eraseDups.map fun k => (k, (xs.filter (key · = k)).foldl grow first)

theorem keysFolded (key : β → κ) (grow : ν → β → ν) (first : ν) (xs : List β) :
    keys (folded key grow first xs) = (xs.map key).eraseDups := by
  rw [keys, folded, List.map_map]
  exact List.map_id _

theorem foldedNodup (key : β → κ) (grow : ν → β → ν) (first : ν) (xs : List β) :
    (keys (folded key grow first xs)).Nodup := keysFolded key grow first xs ▸ nodupErased _

theorem memFolded {key : β → κ} {grow : ν → β → ν} {first : ν} {xs : List β} {k : κ} :
    k ∈ keys (folded key grow first xs) ↔ ∃ x ∈ xs, key x = k := by
  rw [keysFolded, List.mem_eraseDups, List.mem_map]

theorem upsertAbsent {k : κ} {f : Option ν → ν} {t : Keyed κ ν} (absent : k ∉ keys t) :
    upsert k f t = t ++ [(k, f none)] := by
  induction t with
  | nil => rfl
  | cons e r ih =>
    obtain ⟨a, v⟩ := e
    simp only [keys, List.map_cons, List.mem_cons, not_or] at absent
    rw [upsert, if_neg (Ne.symm absent.1), ih absent.2]
    rfl

theorem upsertPresent {k : κ} {f : Option ν → ν} {value : κ → ν} {ks : List κ} (present : k ∈ ks)
    (nodup : ks.Nodup) : upsert k f (ks.map fun j => (j, value j)) =
      ks.map fun j => (j, if j = k then f (some (value j)) else value j) := by
  induction ks with
  | nil => cases present
  | cons j ks ih =>
    obtain ⟨once, rest⟩ := List.nodup_cons.mp nodup
    by_cases here : j = k
    · have later : ∀ i ∈ ks, i ≠ k := fun i member same => once (here.trans same.symm ▸ member)
      rw [List.map_cons, List.map_cons, upsert, if_pos here, if_pos here]
      refine congrArg _ (List.map_congr_left fun i member => ?_)
      rw [if_neg (later i member)]
    · have inside := (List.mem_cons.mp present).resolve_left (Ne.symm here)
      rw [List.map_cons, List.map_cons, upsert, if_neg here, if_neg here, ih inside rest]

/-- One more item joins those of its key, or opens an entry behind the others. -/
theorem foldedMore (key : β → κ) (grow : ν → β → ν) (first : ν) (xs : List β) (x : β) :
    upsert (key x) (fun v => grow (v.getD first) x) (folded key grow first xs) =
      folded key grow first (xs ++ [x]) := by
  have more : ∀ j, (if j = key x then grow ((xs.filter (key · = j)).foldl grow first) x
      else (xs.filter (key · = j)).foldl grow first) =
      ((xs ++ [x]).filter (key · = j)).foldl grow first := by
    intro j
    rw [List.filter_append, List.foldl_append]
    by_cases same : j = key x
    · simp [same]
    · simp [same, Ne.symm same]
  unfold folded
  rw [List.map_append, List.map_singleton, erasedMore]
  by_cases known : key x ∈ xs.map key
  · rw [if_pos known, upsertPresent (List.mem_eraseDups.mpr known) (nodupErased _)]
    exact List.map_congr_left fun j _ => congrArg _ (more j)
  · have absent : key x ∉ keys ((xs.map key).eraseDups.map fun k =>
        (k, (xs.filter (key · = k)).foldl grow first)) := by
      simpa [keys, Function.comp_def] using known
    have empty : xs.filter (key · = key x) = [] := by
      refine List.filter_eq_nil_iff.mpr fun y member same => known ?_
      exact of_decide_eq_true same ▸ List.mem_map_of_mem member
    have others : ∀ j ∈ (xs.map key).eraseDups, j ≠ key x := fun j member same =>
      known (same ▸ List.mem_eraseDups.mp member)
    have opened := more (key x)
    rw [if_pos rfl, empty] at opened
    rw [if_neg known, upsertAbsent absent, List.map_append, List.map_singleton, ← opened]
    refine congrArg (· ++ _) (List.map_congr_left fun j member => congrArg _ ?_)
    rw [← more, if_neg (others j member)]

theorem foldUpsert (key : β → κ) (grow : ν → β → ν) (first : ν) (xs : List β) :
    xs.foldl (fun t x => upsert (key x) (fun v => grow (v.getD first) x) t) [] = folded key grow first xs := by
  have grown : ∀ ys, xs.foldl (fun t x => upsert (key x) (fun v => grow (v.getD first) x) t)
      (folded key grow first ys) = folded key grow first (ys ++ xs) := by
    induction xs with
    | nil => intro ys; rw [List.append_nil, List.foldl_nil]
    | cons x xs ih =>
      intro ys
      rw [List.foldl_cons, foldedMore, ih, List.append_assoc]
      rfl
  exact grown []

end Keyed

namespace Aggregate

def Observation.label (o : Observation) : String × String := (o.type, o.name)

variable {α : Type} [Totals α]

/-- The entries of one domain, from its observations alone. -/
def entriesOf (part : List Observation) : Keyed (String × String) α :=
  Keyed.folded Observation.label Totals.add Totals.none part

theorem tableGroups (os : List Observation) : (Table.of os : Table α) =
    (os.map Observation.domain).eraseDups.map fun domain =>
      (domain, entriesOf (os.filter (·.domain = domain))) := by
  have entered : (Table.of os : Table α) = Keyed.folded Observation.domain (fun entries o =>
      Keyed.upsert o.label (fun totals => Totals.add (totals.getD Totals.none) o) entries) [] os :=
    Keyed.foldUpsert Observation.domain (fun entries o => Keyed.upsert o.label (fun totals =>
      Totals.add (totals.getD Totals.none) o) entries) [] os
  rw [entered, Keyed.folded]
  refine List.map_congr_left fun domain _ => congrArg _ ?_
  exact Keyed.foldUpsert Observation.label Totals.add Totals.none _

end Aggregate

end TraceRelay
