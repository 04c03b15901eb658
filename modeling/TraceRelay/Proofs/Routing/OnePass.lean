import TraceRelay.Proofs.Routing.Entities
/-! Entities read in one pass. At each place, from the left, an entity that starts there gives its character and is
passed over, and any other character stays; no place is looked at twice. The five replacements in turn come to the
same, whether or not there is an ampersand to start with. -/
namespace TraceRelay.Routing.Property
open Text (matchesOf replaceAll)

def characterHere? (cs : List Char) : Option (Char × Nat) :=
  match entities.find? (fun e => e.1.isPrefixOf cs) with
  | some e => some (e.2, e.1.length)
  | none => cs.head?.map (·, 1)

def onePass (cs : List Char) : List Char := matchesOf characterHere? cs

def inTurn (cs : List Char) : List Char := entities.foldl (fun text e => replaceAll e.1 [e.2] text) cs

def entityOf (c : Char) : List Char := ((entities.find? (·.2 = c)).map (·.1)).getD [c]

def escape (cs : List Char) : List Char := cs.flatMap entityOf

variable {e : List Char × Char} {c : Char} {cs out : List Char}

/-! Reading -/

theorem hereEntity (member : e ∈ entities) (cs : List Char) :
    characterHere? (e.1 ++ cs) = some (e.2, e.1.length) := by
  have front : e.1 <+: e.1 ++ cs := List.prefix_append e.1 cs
  unfold characterHere?
  split
  · rename_i f search
    have starts := List.find?_some (p := fun e : List Char × Char => e.1.isPrefixOf _) search
    have known : f ∈ entities := List.mem_of_find?_eq_some search
    rcases List.prefix_or_prefix_of_prefix (List.isPrefixOf_iff_prefix.mp starts) front with within | around
    · rw [entityApart f known e member within]
    · rw [entityApart e member f known around]
  · rename_i search
    exact absurd (List.isPrefixOf_iff_prefix.mpr front) (List.find?_eq_none.mp search e member)

theorem herePlain (other : ∀ e ∈ entities, ¬ e.1 <+: c :: cs) : characterHere? (c :: cs) = some (c, 1) := by
  have nothing : entities.find? (fun e => e.1.isPrefixOf (c :: cs)) = none :=
    List.find?_eq_none.mpr fun e member => mt List.isPrefixOf_iff_prefix.mp (other e member)
  rw [characterHere?, nothing]
  rfl

theorem onePassResolved (resolved : Resolved entities cs out) : onePass cs = out := by
  induction resolved with
  | done => rfl
  | @entity word c cs out member others ih =>
    have filled : word ≠ [] := by
      obtain ⟨letters, same : word = '&' :: letters, -⟩ := entityLetters member
      exact same ▸ List.cons_ne_nil '&' letters
    exact (Text.matchesTaken filled (hereEntity member cs)).trans (congrArg (c :: ·) ih)
  | @plain c cs out other others ih =>
    have taken : onePass ([c] ++ cs) = c :: onePass cs := Text.matchesTaken (List.cons_ne_nil c []) (herePlain other)
    exact taken.trans (congrArg (c :: ·) ih)

theorem resolvedIff : Resolved entities cs out ↔ unescape cs = out := by
  have whole := unescapeResolved cs
  refine ⟨fun resolved => ?_, fun same => same ▸ whole⟩
  rw [← onePassResolved whole, onePassResolved resolved]

/-! Writing -/

theorem entityOfKinds (c : Char) : (entityOf c, c) ∈ entities ∨ (entityOf c = [c] ∧ c ≠ '&') := by
  unfold entityOf
  cases search : entities.find? (·.2 = c) with
  | none =>
    have absent := List.find?_eq_none.mp search (ampersand, '&') (by decide)
    exact .inr ⟨rfl, fun same => absent (by simp [same])⟩
  | some e =>
    have image := List.find?_some (p := fun e : List Char × Char => decide (e.2 = c)) search
    rw [← of_decide_eq_true image]
    exact .inl (List.mem_of_find?_eq_some search)

theorem escapeResolved (cs : List Char) : Resolved entities (escape cs) cs := by
  induction cs with
  | nil => exact .done
  | cons c cs ih =>
    rw [escape, List.flatMap_cons]
    rcases entityOfKinds c with known | ⟨alone, letter⟩
    · exact .entity known ih
    · rw [alone]
      exact .plain (entityElsewhere (List.Subset.refl entities) letter) ih

/-! Replacing in turn -/

theorem replacePlain (member : e ∈ entities) (image : List Char) (free : '&' ∉ cs) : replaceAll e.1 image cs = cs := by
  have kept := @replaceLetters e [] member image cs free
  rw [List.append_nil] at kept
  exact kept.trans (List.append_nil cs)

theorem inTurnPlain {known : List (List Char × Char)} (within : known ⊆ entities) (free : '&' ∉ cs) :
    known.foldl (fun text e => replaceAll e.1 [e.2] text) cs = cs := by
  induction known with
  | nil => rfl
  | cons e known ih =>
    obtain ⟨member, others⟩ := List.cons_subset.mp within
    rw [List.foldl_cons, replacePlain member _ free, ih others]

theorem unescapeInTurn (cs : List Char) : unescape cs = inTurn cs := by
  unfold unescape
  split
  · rfl
  · exact (inTurnPlain (List.Subset.refl entities) ‹_›).symm

/-- However entities nest, overlap or break off, the replacements in turn read each of them once, and only those that
were written. -/
theorem entitiesReadOnce (cs : List Char) :
    unescape cs = onePass cs ∧ (∀ out, unescape cs = out ↔ Resolved entities cs out) ∧ unescape cs = inTurn cs ∧
      unescape (escape cs) = cs :=
  ⟨(onePassResolved (unescapeResolved cs)).symm, fun _ => resolvedIff.symm, unescapeInTurn cs,
    resolvedIff.mp (escapeResolved cs)⟩

/-- What an ampersand puts in is not read again. -/
example : unescape "&amp;lt;&lt&gt;am&apos;p;".toList = "&lt;&lt>am'p;".toList := by decide +kernel

end TraceRelay.Routing.Property
