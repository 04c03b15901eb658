import TraceRelay.Routing.State
/-! The order of sample ratios. Numbers that are not compared at all are on no side of any other, so that each of
the two thresholds is asked on its own; still no ratio is beyond both. -/
namespace TraceRelay.Routing
open Float.Model (UnpackedFloat)

theorem pairSwap (e f : Int) (m n : Nat) :
    (compare f e).then (compare n m) = ((compare e f).then (compare m n)).swap := by
  rw [Ordering.swap_then, ← Std.OrientedOrd.eq_swap, ← Std.OrientedOrd.eq_swap]

theorem compareSwap (x y : UnpackedFloat) : y.compare x = (x.compare y).map Ordering.swap := by
  cases x with
  | notANumber => cases y with
    | infinity t => cases t <;> rfl
    | _ => rfl
  | infinity s => cases s <;> cases y with
    | infinity t => cases t <;> rfl
    | _ => rfl
  | zero s => cases y with
    | infinity t => cases t <;> rfl
    | finite t => cases t <;> rfl
    | _ => rfl
  | finite s m e => cases s <;> cases y with
    | infinity t => cases t <;> rfl
    | finite t n f =>
      -- Only of one sign are exponents and mantissas compared, below zero the other way round.
      cases t
      all_goals first
        | rfl
        | exact congrArg some (pairSwap e f m n)
        | exact congrArg (fun o => some o.swap) (pairSwap e f m n)
    | _ => rfl

theorem lessCompared {a b : Float} (less : a < b) : a.toModel.unpack.compare b.toModel.unpack = some .lt :=
  eq_of_beq (of_decide_eq_true less)

theorem atMostCompared {a b : Float} (le : a ≤ b) :
    (a.toModel.unpack.compare b.toModel.unpack).any (·.isLE) = true := of_decide_eq_true le

theorem lessNotBack {a b : Float} (less : a < b) : ¬ b ≤ a := by
  intro back
  have compared := atMostCompared back
  rw [compareSwap, lessCompared less] at compared
  cases compared

theorem exponentAtMost {e f : Int} {o : Ordering} (le : ((compare e f).then o).isLE = true) : e ≤ f := by
  refine Int.not_lt.mp fun greater => ?_
  rw [Int.compare_eq_gt.mpr greater] at le
  cases le

theorem oneUnpacked : (1.0 : Float).toModel.unpack = .finite .positive 0x10000000000000 (-52) (by decide) := rfl

theorem epsilonUnpacked : epsilon.toModel.unpack = .finite .positive 0x112E0BE826D695 (-82) (by decide) := rfl

theorem smallNotWhole {ratio : Float} (small : ratio < epsilon) : ¬ 1.0 ≤ ratio := by
  intro whole
  have first := lessCompared small
  have second := atMostCompared whole
  rw [epsilonUnpacked] at first
  rw [oneUnpacked] at second
  generalize ratio.toModel.unpack = x at first second
  cases x with
  | notANumber => cases first
  | infinity s =>
    cases s with
    | positive => cases first
    | negative => cases second
  | zero s => cases second
  | finite s m e =>
    cases s with
    | negative => cases second
    | positive =>
      have below : e ≤ -82 := exponentAtMost (congrArg Ordering.isLE (Option.some.inj first))
      have above : -52 ≤ e := exponentAtMost second
      omega

end TraceRelay.Routing
