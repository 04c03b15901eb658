/-! Buckets of durations in milliseconds. They grow coarser as durations grow, so that a histogram
stays small. -/
namespace TraceRelay.Aggregate

def longest : Int64 := 3600000

theorem shiftSums (step : Int64) : step <<< 1 = step + step := by
  have one : (1 : Int64).toBitVec.smod 64 = 1#64 := rfl
  rw [← Int64.toBitVec_inj, Int64.toBitVec_shiftLeft, Int64.toBitVec_add]
  apply BitVec.eq_of_toNat_eq
  simp only [one, BitVec.shiftLeft_eq', BitVec.toNat_shiftLeft, BitVec.toNat_add, Nat.shiftLeft_eq,
    BitVec.reduceToNat, Nat.pow_one]
  omega

theorem shiftDoubles {step : Int64} (positive : 0 < step) (below : step < longest) :
    (step <<< 1).toInt = 2 * step.toInt := by
  have low : 0 < step.toInt := Int64.lt_iff_toInt_lt.mp positive
  have high : step.toInt < 3600000 := Int64.lt_iff_toInt_lt.mp below
  rw [shiftSums, Int64.toInt_add, Int.bmod_eq_of_le (by omega) (by omega)]
  omega

theorem shiftPositive {step : Int64} (positive : 0 < step) (below : step < longest) :
    (0 : Int64) < step <<< 1 := by
  have low : 0 < step.toInt := Int64.lt_iff_toInt_lt.mp positive
  have zero : (0 : Int64).toInt = 0 := rfl
  rw [Int64.lt_iff_toInt_lt, shiftDoubles positive below, zero]
  omega

/-- The step doubles until it reaches the duration or the longest bucket. -/
def doubled (ms step : Int64) (positive : 0 < step) : Int64 :=
  if more : step < ms ∧ step < longest then doubled ms (step <<< 1) (shiftPositive positive more.2)
  else step
termination_by (longest.toInt - step.toInt).toNat
decreasing_by
  have twice := shiftDoubles positive more.2
  have low : 0 < step.toInt := Int64.lt_iff_toInt_lt.mp positive
  have high := Int64.lt_iff_toInt_lt.mp more.2
  omega

def firstStep : Int64 := 524288

def bucket (ms : Int64) : Int64 :=
  if ms ≤ 0 then 1
  else if ms < 20 then ms
  else if ms < 200 then ms - ms % 5
  else if ms < 500 then ms - ms % 20
  else if ms < 2000 then ms - ms % 50
  else if ms < 20000 then ms - ms % 500
  else if ms < 1000000 then ms - ms % 10000
  else min (doubled ms firstStep (by decide)) longest

end TraceRelay.Aggregate
