import TraceRelay.Proofs.Aggregate.Counts
import TraceRelay.Proofs.Aggregate.Groups
/-! Histograms as they come from counting one bucket after the other: the buckets in ascending order, each once and
with the number of times it occurred. The order in which they occurred is gone. -/
namespace TraceRelay

namespace Aggregate

namespace Histogram

def buckets (h : Histogram) : List Int64 := h.map Prod.fst

def occurrences (b : Int64) (h : Histogram) : Nat := sumBy (fun e => if e.1 = b then e.2 else 0) h

def Ascending (h : Histogram) : Prop := h.buckets.Pairwise (· < ·)

def tally (bs : List Int64) : Histogram :=
  (bs.eraseDups.mergeSort fun a b => a ≤ b).map fun b => (b, bs.count b)

theorem occurrencesAdd (b c : Int64) (h : Histogram) :
    occurrences c (add b h) = occurrences c h + if c = b then 1 else 0 := by
  induction h with
  | nil => simp [add, occurrences, sumBy, eq_comm]
  | cons e r ih =>
    obtain ⟨a, n⟩ := e
    unfold occurrences at ih ⊢
    rw [add]
    split
    · simp only [sumBy, eq_comm (a := c)]
      omega
    · split
      · rename_i same
        subst same
        by_cases here : b = c
        · simp only [sumBy, here, if_true]
          omega
        · simp only [sumBy, if_neg here, if_neg (Ne.symm here)]
          omega
      · rw [sumBy, ih, sumBy]
        omega

theorem bucketsAdd (b c : Int64) (h : Histogram) : c ∈ buckets (add b h) ↔ c = b ∨ c ∈ h.buckets := by
  induction h with
  | nil => simp [add, buckets]
  | cons e r ih =>
    obtain ⟨a, n⟩ := e
    unfold buckets at ih ⊢
    rw [add]
    split
    · simp
    · split
      · rename_i same
        simp [same]
      · simp only [List.map_cons, List.mem_cons, ih]
        exact or_left_comm

theorem ascendingAdd (b : Int64) {h : Histogram} (ascending : h.Ascending) : (add b h).Ascending := by
  induction h with
  | nil => exact List.pairwise_singleton _ b
  | cons e r ih =>
    obtain ⟨a, n⟩ := e
    obtain ⟨first, rest⟩ := List.pairwise_cons.mp ascending
    rw [add]
    split
    · rename_i before
      refine List.pairwise_cons.mpr ⟨fun c member => ?_, ascending⟩
      rcases List.mem_cons.mp member with rfl | later
      · exact before
      · exact Int64.lt_trans before (first c later)
    · split
      · exact ascending
      · rename_i notBefore other
        refine List.pairwise_cons.mpr ⟨fun c member => ?_, ih rest⟩
        rcases (bucketsAdd b c r).mp member with rfl | later
        · exact Int64.lt_of_le_of_ne (Int64.not_lt.mp notBefore) (Ne.symm other)
        · exact first c later

theorem occurrencesAbsent {b : Int64} {h : Histogram} (absent : b ∉ h.buckets) : h.occurrences b = 0 := by
  induction h with
  | nil => rfl
  | cons e r ih =>
    simp only [buckets, List.map_cons, List.mem_cons, not_or] at absent
    rw [occurrences, sumBy, if_neg (Ne.symm absent.1)]
    exact (Nat.zero_add _).trans (ih absent.2)

/-- With no bucket twice, an entry holds all occurrences of its bucket. -/
theorem entriesOccurrences {h : Histogram} (ascending : h.Ascending) :
    h = h.buckets.map fun b => (b, h.occurrences b) := by
  induction h with
  | nil => rfl
  | cons e r ih =>
    obtain ⟨a, n⟩ := e
    obtain ⟨first, rest⟩ := List.pairwise_cons.mp ascending
    have once : a ∉ buckets r := fun again => Int64.lt_irrefl (first a again)
    have here : occurrences a ((a, n) :: r) = n := by
      rw [occurrences, sumBy, if_pos rfl]
      exact congrArg (n + ·) (occurrencesAbsent once)
    have later : ∀ b ∈ buckets r, occurrences b ((a, n) :: r) = occurrences b r := by
      intro b member
      have other : a ≠ b := fun same => once (same ▸ member)
      rw [occurrences, sumBy, if_neg other, Nat.zero_add]
      rfl
    rw [buckets, List.map_cons, List.map_cons, here]
    refine congrArg _ ((ih rest).trans (List.map_congr_left fun b member => ?_))
    rw [later b member]

theorem sortedUnique {as bs : List Int64} (left : as.Pairwise (· ≤ ·)) (right : bs.Pairwise (· ≤ ·))
    (same : as.Perm bs) : as = bs :=
  same.eq_of_pairwise (fun _ _ _ _ le ge => Int64.le_antisymm le ge) left right

theorem sortedBuckets (bs : List Int64) : (bs.mergeSort fun a b => a ≤ b).Pairwise (· ≤ ·) := by
  have through : ∀ a b c : Int64, decide (a ≤ b) = true → decide (b ≤ c) = true → decide (a ≤ c) = true :=
    fun a b c first second => by simpa using Int64.le_trans (of_decide_eq_true first) (of_decide_eq_true second)
  have either : ∀ a b : Int64, (decide (a ≤ b) || decide (b ≤ a)) = true := fun a b => by
    simpa using Int64.le_total a b
  exact (List.pairwise_mergeSort through either bs).imp fun le => of_decide_eq_true le

theorem tallyPerm {as bs : List Int64} (same : as.Perm bs) : tally as = tally bs := by
  have order : (as.eraseDups.mergeSort fun a b => a ≤ b) = bs.eraseDups.mergeSort fun a b => a ≤ b := by
    refine sortedUnique (sortedBuckets _) (sortedBuckets _) ?_
    exact (List.mergeSort_perm _ _).trans ((permErased same).trans (List.mergeSort_perm _ _).symm)
  rw [tally, tally, order]
  exact List.map_congr_left fun b _ => congrArg _ (same.count_eq b)

structure Tells (h : Histogram) (bs : List Int64) : Prop where
  ascending : h.Ascending
  occurrences : ∀ b, h.occurrences b = bs.count b
  members : ∀ b, b ∈ h.buckets ↔ b ∈ bs

theorem tellsAdd {h : Histogram} {bs : List Int64} (tells : Tells h bs) (b : Int64) :
    Tells (add b h) (bs ++ [b]) := by
  refine ⟨ascendingAdd b tells.ascending, fun c => ?_, fun c => ?_⟩
  · rw [occurrencesAdd, tells.occurrences, List.count_append, List.count_singleton]
    by_cases same : c = b
    · simp [same]
    · simp [same, Ne.symm same]
  · rw [bucketsAdd, tells.members, List.mem_append, List.mem_singleton]
    exact or_comm

theorem tellsTally {h : Histogram} {bs : List Int64} (tells : Tells h bs) : h = tally bs := by
  have order : h.buckets = bs.eraseDups.mergeSort fun a b => a ≤ b := by
    refine sortedUnique (tells.ascending.imp Int64.le_of_lt) (sortedBuckets _) ?_
    refine List.Perm.trans ?_ (List.mergeSort_perm _ _).symm
    refine (List.perm_ext_iff_of_nodup ?_ (nodupErased bs)).mpr fun b => ?_
    · exact tells.ascending.imp Int64.ne_of_lt
    · rw [tells.members, List.mem_eraseDups]
  rw [entriesOccurrences tells.ascending, order]
  exact List.map_congr_left fun b _ => congrArg _ (tells.occurrences b)

theorem foldTally (bs : List Int64) : bs.foldl (fun h b => add b h) [] = tally bs := by
  have told : ∀ h as, Tells h as → Tells (bs.foldl (fun h b => add b h) h) (as ++ bs) := by
    induction bs with
    | nil =>
      intro h as tells
      rw [List.append_nil]
      exact tells
    | cons b bs ih =>
      intro h as tells
      have more := ih (add b h) (as ++ [b]) (tellsAdd tells b)
      rw [List.append_assoc] at more
      exact more
  exact tellsTally (told [] [] ⟨.nil, fun _ => rfl, fun _ => .rfl⟩)

theorem tallyTotal (bs : List Int64) : sumBy Prod.snd (tally bs) = bs.length := by
  have one : ∀ b h, sumBy Prod.snd (add b h) = sumBy Prod.snd h + 1 := by
    intro b h
    induction h with
    | nil => rfl
    | cons e r ih =>
      rw [add]
      split
      · simp only [sumBy]
        omega
      · split
        · simp only [sumBy]
          omega
        · rw [sumBy, ih, sumBy, Nat.add_assoc]
  have all : ∀ h, sumBy Prod.snd (bs.foldl (fun h b => add b h) h) = sumBy Prod.snd h + bs.length := by
    induction bs with
    | nil => exact fun _ => rfl
    | cons b bs ih =>
      intro h
      rw [List.foldl_cons, ih, one, List.length_cons]
      omega
  rw [← foldTally, all]
  exact Nat.zero_add _

end Histogram

end Aggregate

end TraceRelay
