import TraceRelay.Proofs.Aggregate.Histogram
/-! What the totals of a list of observations are, said of the list as a whole: a length, a number of failures, a
sum and a histogram. As long as the sum is not clamped, the order of the observations has no part in it. -/
namespace TraceRelay

theorem sumByMap {α β : Type} (size : β → Nat) (f : α → β) (xs : List α) :
    sumBy size (xs.map f) = sumBy (fun x => size (f x)) xs := by
  induction xs with
  | nil => rfl
  | cons x xs ih => rw [List.map_cons, sumBy, sumBy, ih]

theorem sumByPerm {α : Type} (size : α → Nat) {xs ys : List α} (same : xs.Perm ys) :
    sumBy size xs = sumBy size ys := by
  induction same with
  | nil => rfl
  | cons x _ ih => rw [sumBy, sumBy, ih]
  | swap x y xs => simp only [sumBy]; omega
  | trans _ _ first second => exact first.trans second

theorem sumByFilter {α : Type} (size : α → Nat) (keep : α → Bool) (xs : List α) :
    sumBy size (xs.filter keep) ≤ sumBy size xs := by
  induction xs with
  | nil => exact Nat.le_refl 0
  | cons x xs ih =>
    rw [List.filter_cons]
    split
    · simp only [sumBy]
      omega
    · rw [sumBy]
      omega

namespace Decimal

theorem clampInside {i : Int} (low : Int64.minValue.toInt ≤ i) (high : i ≤ Int64.maxValue.toInt) :
    (clamp64 i).toInt = i := by
  have least : Int64.minValue.toInt = -2 ^ 63 := by decide
  have greatest : Int64.maxValue.toInt = 2 ^ 63 - 1 := by decide
  rw [clamp64, Int.min_eq_right high, Int.max_eq_right low]
  rw [least] at low
  rw [greatest] at high
  exact Int64.toInt_ofInt_of_le low (by omega)

/-- The absolute values together bound every sum on the way, so that none is clamped. -/
theorem sumUnclamped {start : Int64} {xs : List Int64}
    (fits : (start.toInt.natAbs : Int) + sumBy (·.toInt.natAbs) xs ≤ Int64.maxValue.toInt) :
    (xs.foldl addClamped start).toInt = xs.foldl (fun sum x => sum + x.toInt) start.toInt := by
  induction xs generalizing start with
  | nil => rfl
  | cons x xs ih =>
    have least : Int64.minValue.toInt = -Int64.maxValue.toInt - 1 := by decide
    rw [sumBy] at fits
    have next : (addClamped start x).toInt = start.toInt + x.toInt := clampInside (by omega) (by omega)
    rw [List.foldl_cons, List.foldl_cons, ← next]
    exact ih (by omega)

theorem sumPerm {xs ys : List Int64} (same : xs.Perm ys)
    (fits : (sumBy (·.toInt.natAbs) xs : Int) ≤ Int64.maxValue.toInt) :
    xs.foldl addClamped 0 = ys.foldl addClamped 0 := by
  have zero : ((0 : Int64).toInt.natAbs : Int) = 0 := rfl
  have moved : xs.foldl (fun sum x => sum + x.toInt) (0 : Int64).toInt =
      ys.foldl (fun sum x => sum + x.toInt) (0 : Int64).toInt :=
    same.foldl_eq' (fun _ _ _ _ _ => by omega) _
  rw [← Int64.toInt_inj, sumUnclamped, sumUnclamped, moved]
  · rw [zero, ← sumByPerm _ same]
    omega
  · omega

end Decimal

namespace Aggregate

/-- Durations are in microseconds, sum and buckets in milliseconds. -/
def transactionTally (os : List Observation) : TransactionTotals where
  count := os.length
  failed := os.countP fun o => !o.succeeded
  sumMs := (os.map fun o => o.duration / 1000).foldl Decimal.addClamped 0
  histogram := Histogram.tally (os.map fun o => bucket (o.duration / 1000))

def eventTally (os : List Observation) : EventTotals where
  count := os.length
  failed := os.countP fun o => !o.succeeded

theorem countFailed (before : Nat) (o : Observation) (os : List Observation) :
    (if o.succeeded then before else before + 1) + os.countP (fun o => !o.succeeded) =
      before + (o :: os).countP fun o => !o.succeeded := by
  rw [List.countP_cons]
  cases o.succeeded with
  | true => rfl
  | false =>
    simp only [Bool.false_eq_true, if_false, Bool.not_false, if_true]
    omega

theorem transactionTotal (os : List Observation) : totalOf os = transactionTally os := by
  have added : ∀ t : TransactionTotals, os.foldl Totals.add t = {
      count := t.count + os.length
      failed := t.failed + os.countP fun o => !o.succeeded
      sumMs := (os.map fun o => o.duration / 1000).foldl Decimal.addClamped t.sumMs
      histogram := (os.map fun o => bucket (o.duration / 1000)).foldl (fun h b => h.add b) t.histogram } := by
    induction os with
    | nil => exact fun t => rfl
    | cons o os ih =>
      intro t
      rw [List.foldl_cons, ih, ← countFailed, List.length_cons, Nat.add_comm os.length, ← Nat.add_assoc]
      rfl
  refine (added {}).trans ?_
  rw [Nat.zero_add, Nat.zero_add, Histogram.foldTally]
  rfl

theorem eventTotal (os : List Observation) : totalOf os = eventTally os := by
  have added : ∀ t : EventTotals, os.foldl Totals.add t = {
      count := t.count + os.length
      failed := t.failed + os.countP fun o => !o.succeeded } := by
    induction os with
    | nil => exact fun t => rfl
    | cons o os ih =>
      intro t
      rw [List.foldl_cons, ih, ← countFailed, List.length_cons, Nat.add_comm os.length, ← Nat.add_assoc]
      rfl
  refine (added {}).trans ?_
  rw [Nat.zero_add, Nat.zero_add]
  rfl

/-- The milliseconds, whatever their sign, add up to a number that the sum can hold. -/
def Fits (os : List Observation) : Prop :=
  (sumBy (fun o => (o.duration / 1000).toInt.natAbs) os : Int) ≤ Int64.maxValue.toInt

instance (os : List Observation) : Decidable (Fits os) := Int.decLe _ _

variable {os ps : List Observation}

theorem transactionTallyPerm (same : os.Perm ps) (fits : Fits os) : transactionTally os = transactionTally ps := by
  have sums : (os.map fun o => o.duration / 1000).foldl Decimal.addClamped 0 =
      (ps.map fun o => o.duration / 1000).foldl Decimal.addClamped 0 :=
    Decimal.sumPerm (same.map _) (by rw [sumByMap]; exact fits)
  unfold transactionTally
  rw [same.length_eq, same.countP_eq, Histogram.tallyPerm (same.map _), sums]

theorem eventTallyPerm (same : os.Perm ps) : eventTally os = eventTally ps := by
  unfold eventTally
  rw [same.length_eq, same.countP_eq]

end Aggregate

end TraceRelay
