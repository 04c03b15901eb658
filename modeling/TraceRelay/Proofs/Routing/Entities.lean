import TraceRelay.Routing.Property
import TraceRelay.Proofs.Text.Scan
/-! Entities resolved in one pass. The replacements are made one after the other, but none of the first four puts in
what the words of the others are made of, so together they read every entity once and nothing that was put in. -/
namespace TraceRelay.Routing.Property
open Text (replaceAll)

def entities : List (List Char × Char) :=
  [(lessThan, '<'), (greaterThan, '>'), (doubleQuote, '"'), (singleQuote, '\''), (ampersand, '&')]

inductive Resolved (known : List (List Char × Char)) : List Char → List Char → Prop
  | done : Resolved known [] []
  | entity {word c cs out} (member : (word, c) ∈ known) (others : Resolved known cs out) :
      Resolved known (word ++ cs) (c :: out)
  | plain {c cs out} (other : ∀ e ∈ known, ¬ e.1 <+: c :: cs) (others : Resolved known cs out) :
      Resolved known (c :: cs) (c :: out)

variable {known : List (List Char × Char)} {e : List Char × Char} {c : Char} {cs out word : List Char}

theorem entityStarts : ∀ e ∈ entities, e.1.head? = some '&' ∧ '&' ∉ e.1.tail := by decide

theorem entityApart : ∀ e ∈ entities, ∀ f ∈ entities, e.1 <+: f.1 → e = f := by decide

theorem entityLetters (member : e ∈ entities) : ∃ letters, e.1 = '&' :: letters ∧ '&' ∉ letters := by
  obtain ⟨head, tail⟩ := entityStarts e member
  obtain ⟨letters, same⟩ := List.head?_eq_some_iff.mp head
  rw [same] at tail
  exact ⟨letters, same, tail⟩

theorem entityElsewhere (within : known ⊆ entities) (letter : c ≠ '&') : ∀ e ∈ known, ¬ e.1 <+: c :: cs := by
  intro e member front
  obtain ⟨letters, same, -⟩ := entityLetters (within member)
  rw [same] at front
  exact letter (List.cons_prefix_cons.mp front).1.symm

/-! Reading a resolved text -/

theorem resolvedOther (other : ∀ e ∈ known, ¬ e.1 <+: c :: cs) (resolved : Resolved known (c :: cs) out) :
    ∃ rest, out = c :: rest ∧ Resolved known cs rest := by
  generalize same : c :: cs = text at resolved
  cases resolved with
  | done => cases same
  | entity member others => exact absurd (same ▸ List.prefix_append _ _) (other _ member)
  | plain _ others =>
    cases same
    exact ⟨_, rfl, others⟩

theorem resolvedEntity (within : known ⊆ entities) (member : e ∈ known) (resolved : Resolved known (e.1 ++ cs) out) :
    ∃ rest, out = e.2 :: rest ∧ Resolved known cs rest := by
  generalize same : e.1 ++ cs = text at resolved
  cases resolved with
  | done =>
    obtain ⟨letters, word, -⟩ := entityLetters (within member)
    rw [word] at same
    cases same
  | @entity word x rest out found others =>
    have one : e = (word, x) := by
      rcases List.prefix_or_prefix_of_prefix ⟨cs, same⟩ (List.prefix_append word rest) with front | back
      · exact entityApart e (within member) _ (within found) front
      · exact (entityApart _ (within found) e (within member) back).symm
    subst one
    rw [List.append_cancel_left same]
    exact ⟨out, rfl, others⟩
  | plain other => exact absurd (same ▸ List.prefix_append _ _) (other e member)

theorem resolvedLetters (within : known ⊆ entities) {letters : List Char} (free : '&' ∉ letters)
    (resolved : Resolved known (letters ++ cs) out) : ∃ rest, out = letters ++ rest ∧ Resolved known cs rest := by
  induction letters generalizing out with
  | nil => exact ⟨out, rfl, resolved⟩
  | cons c letters ih =>
    have letter : c ≠ '&' := (List.ne_of_not_mem_cons free).symm
    obtain ⟨after, rfl, others⟩ := resolvedOther (entityElsewhere within letter) resolved
    obtain ⟨rest, rfl, left⟩ := ih (List.not_mem_of_not_mem_cons free) others
    exact ⟨rest, rfl, left⟩

theorem wordKept (free : ∀ e ∈ known, e.2 ∉ word) (resolved : Resolved known cs out) (front : word <+: out) :
    word <+: cs := by
  induction word generalizing cs out with
  | nil => exact List.nil_prefix
  | cons w ws ih =>
    cases resolved with
    | done => cases List.prefix_nil.mp front
    | entity member =>
      obtain ⟨rfl, -⟩ := List.cons_prefix_cons.mp front
      exact absurd List.mem_cons_self (free _ member)
    | plain _ others =>
      obtain ⟨rfl, tail⟩ := List.cons_prefix_cons.mp front
      exact List.cons_prefix_cons.mpr ⟨rfl, ih (fun e member => mt (List.mem_cons_of_mem _) (free e member)) others tail⟩

/-! One replacement more -/

theorem replaceLetters (member : e ∈ entities) {image letters : List Char} (free : '&' ∉ letters) :
    replaceAll e.1 image (letters ++ cs) = letters ++ replaceAll e.1 image cs := by
  induction letters with
  | nil => rfl
  | cons c letters ih =>
    have letter : c ≠ '&' := (List.ne_of_not_mem_cons free).symm
    rw [List.cons_append, Text.replaceOther (entityElsewhere (List.Subset.refl entities) letter e member),
      ih (List.not_mem_of_not_mem_cons free), List.cons_append]

theorem resolvedMore (within : known ⊆ entities) (member : e ∈ entities) (free : ∀ f ∈ known, f.2 ∉ e.1)
    (resolved : Resolved known cs out) : Resolved (known ++ [e]) cs (replaceAll e.1 [e.2] out) := by
  have added : known ++ [e] ⊆ entities := List.append_subset.mpr ⟨within, List.cons_subset.mpr ⟨member, List.nil_subset _⟩⟩
  obtain ⟨letters, start, plain⟩ := entityLetters member
  induction resolved with
  | done => exact .done
  | @entity word c cs out found others ih =>
    have other : ¬ e.1 <+: c :: out := by
      intro front
      rw [start] at front
      have image := free _ found
      rw [start, ← (List.cons_prefix_cons.mp front).1] at image
      exact image List.mem_cons_self
    rw [Text.replaceOther other]
    exact .entity (List.mem_append_left _ found) ih
  | @plain c cs out other others ih =>
    by_cases front : e.1 <+: c :: cs
    · obtain ⟨rest, same⟩ := front
      rw [start, List.cons_append] at same
      obtain ⟨rfl, rfl⟩ := List.cons.inj same
      obtain ⟨tail, rfl, -⟩ := resolvedLetters within plain others
      rw [replaceLetters member plain] at ih
      obtain ⟨left, again, resolved⟩ := resolvedLetters added plain ih
      rw [← List.append_cancel_left again] at resolved
      rw [← List.cons_append, ← List.cons_append, ← start, Text.replaceWord (start ▸ List.cons_ne_nil _ _)]
      exact .entity (List.mem_append_right known (List.mem_singleton.mpr rfl)) resolved
    · have whole : Resolved known (c :: cs) (c :: out) := .plain other others
      rw [Text.replaceOther (mt (wordKept free whole) front)]
      refine .plain (fun f listed => ?_) ih
      rcases List.mem_append.mp listed with old | new
      · exact other f old
      · rw [List.mem_singleton.mp new]
        exact front

theorem resolvedNothing (cs : List Char) : Resolved [] cs cs := by
  induction cs with
  | nil => exact .done
  | cons c cs ih => exact .plain (List.forall_mem_nil _) ih

theorem resolvedSame (free : '&' ∉ cs) : Resolved entities cs cs := by
  induction cs with
  | nil => exact .done
  | cons c cs ih =>
    have letter : c ≠ '&' := (List.ne_of_not_mem_cons free).symm
    exact .plain (entityElsewhere (List.Subset.refl entities) letter) (ih (List.not_mem_of_not_mem_cons free))

theorem unescapeResolved (cs : List Char) : Resolved entities cs (unescape cs) := by
  unfold unescape
  split
  · have first := resolvedMore (List.nil_subset _) (e := (lessThan, '<')) (by decide) (by decide) (resolvedNothing cs)
    have second := resolvedMore (by decide) (e := (greaterThan, '>')) (by decide) (by decide) first
    have third := resolvedMore (by decide) (e := (doubleQuote, '"')) (by decide) (by decide) second
    have fourth := resolvedMore (by decide) (e := (singleQuote, '\'')) (by decide) (by decide) third
    exact resolvedMore (by decide) (e := (ampersand, '&')) (by decide) (by decide) fourth
  · exact resolvedSame ‹_›

end TraceRelay.Routing.Property
