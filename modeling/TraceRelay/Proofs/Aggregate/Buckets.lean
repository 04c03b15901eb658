import Mathlib.Algebra.Group.Int.Defs
import Mathlib.Data.Nat.Find
import TraceRelay.Proofs.Aggregate.Tallies
/-! Buckets as a coarsening of durations. On each stretch of durations a bucket stays within the stretch, keeps
the order and is its own bucket; stretches that meet can be joined, so that all of this holds of every
duration. The last stretches come from doubling a step, and the doubling never loses a bit. -/
namespace TraceRelay.Aggregate

/-! Doubling -/

inductive Climb (ms : Int64) : Int64 → Int64 → Prop
  | stays {step} (enough : ¬ (step < ms ∧ step < longest)) : Climb ms step step
  | doubles {step last} (short : step < ms) (below : step < longest)
      (exact : (step <<< 1).toInt = 2 * step.toInt) (onward : Climb ms (step <<< 1) last) : Climb ms step last

theorem climbDoubled (ms step : Int64) (positive : 0 < step) : Climb ms step (doubled ms step positive) := by
  fun_induction doubled ms step positive with
  | case1 step positive more ih => exact .doubles more.1 more.2 (shiftDoubles positive more.2) ih
  | case2 step positive enough => exact .stays enough

theorem climbEnds {ms step last : Int64} (climb : Climb ms step last) :
    (ms.toInt ≤ last.toInt ∨ longest.toInt ≤ last.toInt) ∧ ∃ k : Nat, last.toInt = step.toInt * 2 ^ k ∧
      ∀ j < k, step.toInt * 2 ^ j < ms.toInt := by
  induction climb with
  | @stays step enough =>
    refine ⟨?_, 0, by simp, by simp⟩
    simp only [Int64.lt_iff_toInt_lt] at enough
    omega
  | @doubles step last short below exact onward ih =>
    obtain ⟨stop, k, reached, passed⟩ := ih
    have further : ∀ j : Nat, (step <<< 1).toInt * 2 ^ j = step.toInt * 2 ^ (j + 1) := by
      intro j
      rw [exact, Int.pow_succ, Int.mul_comm 2, Int.mul_assoc, Int.mul_comm 2]
    refine ⟨stop, k + 1, by rw [reached, further], fun j before => ?_⟩
    cases j with
    | zero => simpa using Int64.lt_iff_toInt_lt.mp short
    | succ j =>
      rw [← further]
      exact passed j (by omega)

/-- The least doubling of the first step that reaches the duration. -/
def Reaches (ms : Int) (k : Nat) : Prop := ms ≤ 524288 * 2 ^ k ∧ ∀ j < k, 524288 * 2 ^ j < ms

theorem reachedSomewhere (ms : Int64) : ∃ k, Reaches ms.toInt k := by
  have far : ∃ k : Nat, ms.toInt ≤ 524288 * 2 ^ k := ⟨44, by have := ms.toInt_lt; omega⟩
  exact ⟨Nat.find far, Nat.find_spec far, fun j before => Int.not_le.mp (Nat.find_min far before)⟩

theorem climbReaches {ms last : Int64} (climb : Climb ms firstStep last) {k : Nat}
    (reaches : Reaches ms.toInt k) :
    min last.toInt longest.toInt = min (524288 * 2 ^ k) longest.toInt := by
  obtain ⟨stop, j, reached, passed⟩ := climbEnds climb
  have first : firstStep.toInt = 524288 := rfl
  rw [first] at reached passed
  obtain ⟨enough, least⟩ := reaches
  rcases Nat.lt_trichotomy j k with before | rfl | after
  · have high := least j before
    have capped : longest.toInt ≤ last.toInt := by omega
    rw [Int.min_eq_right capped, Int.min_eq_right (by omega)]
  · rw [reached]
  · have := passed k after
    omega

theorem minToInt (a b : Int64) : (min a b).toInt = min a.toInt b.toInt := by
  by_cases le : a ≤ b
  · rw [Int.min_eq_left (Int64.le_iff_toInt_le.mp le)]
    exact congrArg Int64.toInt (if_pos le)
  · have below := Int64.lt_iff_toInt_lt.mp (Int64.not_le.mp le)
    rw [Int.min_eq_right (by omega)]
    exact congrArg Int64.toInt (if_neg le)

theorem bucketTop {ms : Int64} (long : 1000000 ≤ ms.toInt) :
    bucket ms = min (doubled ms firstStep (by decide)) longest := by
  unfold bucket
  simp only [Int64.le_iff_toInt_le, Int64.lt_iff_toInt_lt, Int64.reduceToInt]
  repeat rw [if_neg (by omega)]

theorem bucketReaches {ms : Int64} (long : 1000000 ≤ ms.toInt) {k : Nat} (reaches : Reaches ms.toInt k) :
    (bucket ms).toInt = min (524288 * 2 ^ k) 3600000 := by
  rw [bucketTop long, minToInt]
  exact climbReaches (climbDoubled ms firstStep (by decide)) reaches

/-! Buckets as integers -/

def bucketOf (ms : Int) : Int :=
  if ms ≤ 0 then 1
  else if ms < 20 then ms
  else if ms < 200 then ms - ms % 5
  else if ms < 500 then ms - ms % 20
  else if ms < 2000 then ms - ms % 50
  else if ms < 20000 then ms - ms % 500
  else if ms < 1000000 then ms - ms % 10000
  else if ms ≤ 1048576 then 1048576
  else if ms ≤ 2097152 then 2097152
  else 3600000

theorem flooredToInt {ms width : Int64} (positive : 0 ≤ ms.toInt) (wide : 0 < width.toInt) :
    (ms - ms % width).toInt = ms.toInt - ms.toInt % width.toInt := by
  have below := ms.toInt_lt
  have rest := Int.emod_nonneg ms.toInt (Int.ne_of_gt wide)
  have whole := Int.emod_add_mul_ediv ms.toInt width.toInt
  have front := Int.mul_nonneg (Int.le_of_lt wide) (Int.ediv_nonneg positive (Int.le_of_lt wide))
  rw [Int64.toInt_sub, Int64.toInt_mod, Int.tmod_eq_emod_of_nonneg positive]
  exact Int.bmod_eq_of_le (by omega) (by omega)

theorem bucketExact (ms : Int64) : (bucket ms).toInt = bucketOf ms.toInt := by
  by_cases long : 1000000 ≤ ms.toInt
  · unfold bucketOf
    repeat rw [if_neg (by omega)]
    split
    · have reaches : Reaches ms.toInt 1 := ⟨by omega, fun j before => by cases j <;> omega⟩
      exact bucketReaches long reaches
    · split
      · have reaches : Reaches ms.toInt 2 := ⟨by omega, fun j before => by
          rcases j with _ | _ | j <;> omega⟩
        exact bucketReaches long reaches
      · obtain ⟨k, reaches⟩ := reachedSomewhere ms
        rw [bucketReaches long reaches]
        have enough := reaches.1
        rcases k with _ | _ | _ | k
        · omega
        · omega
        · omega
        · have more : 0 < (2 : Int) ^ k := Int.pow_pos (by decide)
          rw [Int.pow_succ, Int.pow_succ, Int.pow_succ]
          omega
  · have short : ms.toInt < 1000000 := by omega
    unfold bucket bucketOf
    simp only [Int64.le_iff_toInt_le, Int64.lt_iff_toInt_lt, Int64.reduceToInt, apply_ite Int64.toInt]
    by_cases positive : 0 ≤ ms.toInt
    · simp (disch := decide) only [flooredToInt positive, Int64.reduceToInt, short, if_true]
    · rw [if_pos (by omega), if_pos (by omega)]

/-! Stretches -/

structure Coarse (low high : Int) (rungs : List Int) : Prop where
  span : low ≤ high
  inside : ∀ a, low ≤ a → a < high → low ≤ bucketOf a ∧ bucketOf a < high
  order : ∀ a b, low ≤ a → a ≤ b → b < high → bucketOf a ≤ bucketOf b
  still : ∀ a, low ≤ a → a < high → bucketOf (bucketOf a) = bucketOf a
  rungs : ∀ a, low ≤ a → a < high → bucketOf a ∈ rungs

theorem Coarse.join {low mid high : Int} {xs ys : List Int} (below : Coarse low mid xs)
    (above : Coarse mid high ys) : Coarse low high (xs ++ ys) where
  span := Int.le_trans below.span above.span
  inside a ge lt := by
    have first := below.span
    have second := above.span
    rcases Int.lt_or_le a mid with left | right
    · have inside := below.inside a ge left
      omega
    · have inside := above.inside a right lt
      omega
  order a b ge le lt := by
    rcases Int.lt_or_le b mid with left | right
    · exact below.order a b ge le left
    · rcases Int.lt_or_le a mid with before | after
      · have one := below.inside a ge before
        have two := above.inside b right lt
        omega
      · exact above.order a b after le lt
  still a ge lt := by
    rcases Int.lt_or_le a mid with left | right
    · exact below.still a ge left
    · exact above.still a right lt
  rungs a ge lt := by
    rcases Int.lt_or_le a mid with left | right
    · exact List.mem_append_left ys (below.rungs a ge left)
    · exact List.mem_append_right xs (above.rungs a right lt)

theorem coarseFlat {low high top : Int} (least : low ≤ top) (most : top < high)
    (flat : ∀ a, low ≤ a → a < high → bucketOf a = top) : Coarse low high [top] where
  span := by omega
  inside a ge lt := by
    rw [flat a ge lt]
    exact ⟨least, most⟩
  order a b ge le lt := by
    have same : bucketOf a = bucketOf b := (flat a ge (by omega)).trans (flat b (by omega) lt).symm
    exact Int.le_of_eq same
  still a ge lt := by
    rw [flat a ge lt, flat top least most]
  rungs a ge lt := List.mem_singleton.mpr (flat a ge lt)

def band (width start : Int) (count : Nat) : List Int :=
  (List.range count).map fun i : Nat => width * (start + i)

/-- Multiples of the width, as many as counted, each kept for all durations up to the next one. -/
theorem coarseFloor (width start : Int) (count : Nat) (wide : 0 < width)
    (floors : ∀ a, width * start ≤ a → a < width * (start + count) → bucketOf a = a - a % width) :
    Coarse (width * start) (width * (start + count)) (band width start count) := by
  have multiple : ∀ a, width * start ≤ a → a < width * (start + count) →
      bucketOf a = width * (a / width) ∧ start ≤ a / width ∧ a / width < start + count := by
    intro a ge lt
    have whole := Int.emod_add_mul_ediv a width
    have least := (Int.le_ediv_iff_mul_le wide).mpr (Int.mul_comm width start ▸ ge)
    have most := (Int.ediv_lt_iff_lt_mul wide).mpr (Int.mul_comm width (start + count) ▸ lt)
    rw [floors a ge lt]
    exact ⟨by omega, least, most⟩
  have inside : ∀ a, width * start ≤ a → a < width * (start + count) →
      width * start ≤ bucketOf a ∧ bucketOf a < width * (start + count) := by
    intro a ge lt
    obtain ⟨value, least, most⟩ := multiple a ge lt
    rw [value]
    exact ⟨Int.mul_le_mul_of_nonneg_left least (Int.le_of_lt wide), Int.mul_lt_mul_of_pos_left most wide⟩
  constructor
  case span => exact Int.mul_le_mul_of_nonneg_left (by omega) (Int.le_of_lt wide)
  case inside => exact inside
  case order =>
    intro a b ge le lt
    rw [(multiple a ge (by omega)).1, (multiple b (by omega) lt).1]
    exact Int.mul_le_mul_of_nonneg_left (Int.ediv_le_ediv wide le) (Int.le_of_lt wide)
  case still =>
    intro a ge lt
    obtain ⟨least, most⟩ := inside a ge lt
    rw [floors (bucketOf a) least most, (multiple a ge lt).1, Int.mul_emod_right, Int.sub_zero]
  case rungs =>
    intro a ge lt
    obtain ⟨value, least, most⟩ := multiple a ge lt
    have place : start + (a / width - start).toNat = a / width := by omega
    rw [value, ← place]
    exact List.mem_map_of_mem (List.mem_range.mpr (by omega))

def ladder : List Int :=
  [1] ++ band 1 2 18 ++ band 5 4 36 ++ band 20 10 15 ++ band 50 10 30 ++ band 500 4 36 ++ band 10000 2 98 ++
    [1048576] ++ [2097152] ++ [3600000]

theorem ladderCoarse : Coarse (-2 ^ 63) (2 ^ 63) ladder := by
  have ones : Coarse (-2 ^ 63) 2 [1] :=
    coarseFlat (by decide) (by decide) fun a ge lt => by unfold bucketOf; split <;> omega
  have singles : Coarse 2 20 (band 1 2 18) := coarseFloor 1 2 18 (by decide) fun a ge lt => by
    rw [bucketOf, if_neg (by omega), if_pos (by omega), Int.emod_one, Int.sub_zero]
  have fives : Coarse 20 200 (band 5 4 36) := coarseFloor 5 4 36 (by decide) fun a ge lt => by
    simp (disch := omega) only [bucketOf, if_neg, if_pos]
  have twenties : Coarse 200 500 (band 20 10 15) := coarseFloor 20 10 15 (by decide) fun a ge lt => by
    simp (disch := omega) only [bucketOf, if_neg, if_pos]
  have fifties : Coarse 500 2000 (band 50 10 30) := coarseFloor 50 10 30 (by decide) fun a ge lt => by
    simp (disch := omega) only [bucketOf, if_neg, if_pos]
  have halves : Coarse 2000 20000 (band 500 4 36) := coarseFloor 500 4 36 (by decide) fun a ge lt => by
    simp (disch := omega) only [bucketOf, if_neg, if_pos]
  have tens : Coarse 20000 1000000 (band 10000 2 98) := coarseFloor 10000 2 98 (by decide) fun a ge lt => by
    simp (disch := omega) only [bucketOf, if_neg, if_pos]
  have once : Coarse 1000000 1048577 [1048576] := coarseFlat (by decide) (by decide) fun a ge lt => by
    simp (disch := omega) only [bucketOf, if_neg, if_pos]
  have twice : Coarse 1048577 2097153 [2097152] := coarseFlat (by decide) (by decide) fun a ge lt => by
    simp (disch := omega) only [bucketOf, if_neg, if_pos]
  have capped : Coarse 2097153 (2 ^ 63) [3600000] := coarseFlat (by decide) (by decide) fun a ge lt => by
    simp (disch := omega) only [bucketOf, if_neg]
  have short := (((ones.join singles).join fives).join twenties).join fifties
  exact ((((short.join halves).join tens).join once).join twice).join capped

/-! Buckets -/

theorem bucketOrder {a b : Int64} (le : a ≤ b) : bucket a ≤ bucket b := by
  rw [Int64.le_iff_toInt_le] at le ⊢
  rw [bucketExact, bucketExact]
  exact ladderCoarse.order a.toInt b.toInt a.le_toInt le b.toInt_lt

theorem bucketStill (a : Int64) : bucket (bucket a) = bucket a := by
  rw [← Int64.toInt_inj, bucketExact, bucketExact]
  exact ladderCoarse.still a.toInt a.le_toInt a.toInt_lt

theorem bucketBounds (a : Int64) : 1 ≤ bucket a ∧ bucket a ≤ 3600000 := by
  have least : bucket Int64.minValue = 1 := by rw [← Int64.toInt_inj, bucketExact]; rfl
  have greatest : bucket Int64.maxValue = 3600000 := by rw [← Int64.toInt_inj, bucketExact]; rfl
  rw [← least, ← greatest]
  exact ⟨bucketOrder a.minValue_le, bucketOrder a.le_maxValue⟩

theorem bucketBelow {a : Int64} (positive : 1 ≤ a) (short : a ≤ 999999) : bucket a ≤ a := by
  rw [Int64.le_iff_toInt_le] at positive short ⊢
  simp only [Int64.reduceToInt] at positive short
  rw [bucketExact]
  unfold bucketOf
  repeat' split
  all_goals omega

theorem bucketRung (a : Int64) : bucket a ∈ ladder.map Int64.ofInt := by
  have rung := ladderCoarse.rungs a.toInt a.le_toInt a.toInt_lt
  rw [← bucketExact] at rung
  exact List.mem_map.mpr ⟨(bucket a).toInt, rung, Int64.ofInt_toInt _⟩

theorem tallyLength {bs rungs : List Int64} (inside : ∀ b ∈ bs, b ∈ rungs) :
    (Histogram.tally bs).length ≤ rungs.length := by
  rw [Histogram.tally, List.length_map, List.length_mergeSort]
  exact (nodupErased bs).length_le_of_subset fun b member => inside b (List.mem_eraseDups.mp member)

theorem bucketsCoarsen :
    (∀ a b : Int64, a ≤ b → bucket a ≤ bucket b) ∧
    (∀ a, bucket (bucket a) = bucket a) ∧
    (∀ a, 1 ≤ bucket a ∧ bucket a ≤ 3600000) ∧
    (∀ a, 1 ≤ a → a ≤ 999999 → bucket a ≤ a) ∧
    (∀ a, 1000000 ≤ a → ∃ k last, Reaches a.toInt k ∧ (bucket a).toInt = min (524288 * 2 ^ k) 3600000 ∧
      Climb a firstStep last ∧ bucket a = min last longest) ∧
    (∃ values : List Int64, values.length = 237 ∧ ∀ a, bucket a ∈ values) ∧
    ∀ os : List Observation, (totalOf os : TransactionTotals).histogram.length ≤ 237 := by
  have count : (ladder.map Int64.ofInt).length = 237 := rfl
  refine ⟨fun a b => bucketOrder, bucketStill, bucketBounds, fun a => bucketBelow, fun a long => ?_,
    ⟨_, count, bucketRung⟩, fun os => ?_⟩
  · have millions : 1000000 ≤ a.toInt := Int64.le_iff_toInt_le.mp long
    obtain ⟨k, reaches⟩ := reachedSomewhere a
    have climb := climbDoubled a firstStep (by decide)
    exact ⟨k, _, reaches, bucketReaches millions reaches, climb, bucketTop millions⟩
  · rw [transactionTotal, ← count]
    exact tallyLength fun b member => by
      obtain ⟨o, -, rfl⟩ := List.mem_map.mp member
      exact bucketRung _

/-- Both sides of a seam, the last duration below the doublings, and the first one that they do not reach. -/
theorem seamsBucketed :
    (499 : Int64) ≤ 500 ∧ bucket 499 ≤ bucket 500 ∧ bucket 999999 ≤ 999999 ∧
      ∃ k last, Reaches 2097153 k ∧ Climb 2097153 firstStep last ∧ bucket 2097153 = min last longest := by
  obtain ⟨order, -, -, below, top, -⟩ := bucketsCoarsen
  obtain ⟨k, last, reaches, -, climb, capped⟩ := top 2097153 (by decide)
  have seam : (499 : Int64) ≤ 500 := by decide
  exact ⟨seam, order 499 500 seam, below 999999 (by decide) (by decide), k, last, reaches, climb, capped⟩

end TraceRelay.Aggregate
