/-! Sets of code points as arrays of closed ranges, ascending and disjoint. -/
namespace TraceRelay.Text

def inRanges (ranges : Array (Nat × Nat)) (n : Nat) : Bool :=
  ranges.any fun (low, high) => low ≤ n && n ≤ high

end TraceRelay.Text
