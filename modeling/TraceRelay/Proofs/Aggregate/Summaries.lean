import TraceRelay.Proofs.Aggregate.Tallies
import TraceRelay.Text.Split
/-! The data of a summary read back. It is split where the fields, the entries and the parts of an entry meet;
no number holds any of these separators, so that the totals come back whole, whatever was counted. -/
namespace TraceRelay.Aggregate
open Text (splitOn joinWith splitOfJoin)
open Decimal (natChars intChars readNat? readInt64?)

/-! Reading -/

def readPair? (cs : List Char) : Option (Int64 × Nat) :=
  match splitOn ',' cs with
  | [bucket, occurrences] => do return (← readInt64? bucket, ← readNat? occurrences)
  | _ => none

def Histogram.read? (cs : List Char) : Option Histogram :=
  if cs = [] then some [] else (splitOn '|' cs).mapM readPair?

def TransactionTotals.read? : List Char → Option TransactionTotals
  | '@' :: cs =>
    match splitOn ';' cs with
    | [count, failed, sumMs, histogram, []] => do
      return ⟨← readNat? count, ← readNat? failed, ← readInt64? sumMs, ← Histogram.read? histogram⟩
    | _ => none
  | _ => none

def EventTotals.read? : List Char → Option EventTotals
  | '@' :: cs =>
    match splitOn ';' cs with
    | [count, failed] => do return ⟨← readNat? count, ← readNat? failed⟩
    | _ => none
  | _ => none

/-! What was written -/

theorem entryFree {c : Char} (unsigned : c ≠ '-') (comma : c ≠ ',') (other : ¬ c.isDigit) (e : Int64 × Nat) :
    c ∉ encodeEntry e := by
  simp only [encodeEntry, List.mem_append, List.mem_cons, not_or]
  exact ⟨Decimal.intCharsFree unsigned other _, comma, Decimal.natCharsFree other _⟩

theorem readPairBack (e : Int64 × Nat) : readPair? (encodeEntry e) = some e := by
  have parts : splitOn ',' (encodeEntry e) = [intChars e.1.toInt, natChars e.2] := by
    rw [encodeEntry, Text.splitOnFront (Decimal.intCharsFree (by decide) (by decide) _),
      Text.splitOnClean (Decimal.natCharsFree (by decide) _)]
  simp only [readPair?, parts, Decimal.readInt64OfIntChars, Decimal.readNatOfNatChars, bind, Option.bind, pure]

/-- What can be read back is told by its text. -/
theorem toldByText {α : Type} {encode : α → List Char} {read : List Char → Option α}
    (back : ∀ x, read (encode x) = some x) {x y : α} :
    String.ofList (encode x) = String.ofList (encode y) ↔ x = y := by
  refine ⟨fun same => ?_, fun same => same ▸ rfl⟩
  have again := back x
  rw [String.ofList_injective same, back] at again
  exact (Option.some.inj again).symm

namespace Histogram

theorem encodeJoined (h : Histogram) : h.encode = joinWith '|' (h.map encodeEntry) := by
  induction h with
  | nil => rfl
  | cons e r ih =>
    cases r with
    | nil => rfl
    | cons f r => exact congrArg (encodeEntry e ++ '|' :: ·) ih

theorem encodeFilled (e : Int64 × Nat) (h : Histogram) : encode (e :: h) ≠ [] := by
  cases h <;> simp [encode, encodeEntry]

theorem readBack (h : Histogram) : read? h.encode = some h := by
  cases h with
  | nil => rfl
  | cons e r =>
    have clean : ∀ p ∈ (e :: r).map encodeEntry, '|' ∉ p := by
      intro p member
      obtain ⟨f, -, rfl⟩ := List.mem_map.mp member
      exact entryFree (by decide) (by decide) (by decide) f
    have pieces : splitOn '|' (encode (e :: r)) = (e :: r).map encodeEntry := by
      rw [encodeJoined]
      exact splitOfJoin clean
    have each : readPair? ∘ encodeEntry = fun f => pure f := funext readPairBack
    rw [read?, if_neg (encodeFilled e r), pieces, List.mapM_map, each, List.mapM_pure, List.map_id']
    rfl

theorem encodeFree (h : Histogram) : ';' ∉ h.encode := by
  have free : ∀ e : Int64 × Nat, ';' ∉ encodeEntry e := entryFree (by decide) (by decide) (by decide)
  induction h with
  | nil => exact List.not_mem_nil
  | cons e r ih =>
    cases r with
    | nil => exact free e
    | cons f r =>
      rw [encode, List.mem_append, List.mem_cons, not_or, not_or]
      exact ⟨free e, by decide, ih⟩

theorem occurredAdd (b : Int64) {h : Histogram} (occurred : ∀ e ∈ h, 1 ≤ e.2) : ∀ e ∈ add b h, 1 ≤ e.2 := by
  induction h with
  | nil => exact List.forall_mem_singleton.mpr (Nat.le_refl 1)
  | cons e r ih =>
    obtain ⟨first, rest⟩ := List.forall_mem_cons.mp occurred
    rw [add]
    split
    · exact List.forall_mem_cons.mpr ⟨Nat.le_refl 1, occurred⟩
    · split
      · exact List.forall_mem_cons.mpr ⟨Nat.le_add_left 1 _, rest⟩
      · exact List.forall_mem_cons.mpr ⟨first, ih rest⟩

end Histogram

namespace TransactionTotals

theorem encodeJoined (t : TransactionTotals) : t.encode = '@' :: joinWith ';'
    [natChars t.count, natChars t.failed, intChars t.sumMs.toInt, t.histogram.encode, []] := by
  simp [encode, joinWith]

theorem readBack (t : TransactionTotals) : read? t.encode = some t := by
  have count := Decimal.natCharsFree (c := ';') (by decide) t.count
  have failed := Decimal.natCharsFree (c := ';') (by decide) t.failed
  have sum := Decimal.intCharsFree (c := ';') (by decide) (by decide) t.sumMs.toInt
  have fields : splitOn ';' (joinWith ';'
      [natChars t.count, natChars t.failed, intChars t.sumMs.toInt, t.histogram.encode, []]) =
      [natChars t.count, natChars t.failed, intChars t.sumMs.toInt, t.histogram.encode, []] := by
    refine splitOfJoin ?_
    simp only [List.forall_mem_cons]
    have closed : ∀ p ∈ ([] : List (List Char)), ';' ∉ p := fun _ none => absurd none List.not_mem_nil
    exact ⟨count, failed, sum, t.histogram.encodeFree, List.not_mem_nil, closed⟩
  rw [encodeJoined, read?, fields]
  simp only [Decimal.readNatOfNatChars, Decimal.readInt64OfIntChars, Histogram.readBack, bind, Option.bind, pure]

structure Sound (t : TransactionTotals) : Prop where
  ascending : t.histogram.Ascending
  occurred : ∀ e ∈ t.histogram, 1 ≤ e.2
  failed : t.failed ≤ t.count

theorem soundAdd {t : TransactionTotals} (sound : t.Sound) (o : Observation) : (t.add o).Sound where
  ascending := Histogram.ascendingAdd _ sound.ascending
  occurred := Histogram.occurredAdd _ sound.occurred
  failed := by
    have before := sound.failed
    simp only [add]
    split <;> omega

theorem soundRun {t : TransactionTotals} (sound : t.Sound) (os : List Observation) :
    (os.foldl Totals.add t).Sound := by
  induction os generalizing t with
  | nil => exact sound
  | cons o os ih => exact ih (soundAdd sound o)

theorem soundTotal (os : List Observation) : (totalOf os : TransactionTotals).Sound :=
  soundRun (t := {}) ⟨.nil, fun _ none => absurd none List.not_mem_nil, Nat.le_refl 0⟩ os

end TransactionTotals

namespace EventTotals

theorem readBack (t : EventTotals) : read? t.encode = some t := by
  have fields : splitOn ';' (natChars t.count ++ ';' :: natChars t.failed) =
      [natChars t.count, natChars t.failed] := by
    rw [Text.splitOnFront (Decimal.natCharsFree (by decide) _),
      Text.splitOnClean (Decimal.natCharsFree (by decide) _)]
  rw [encode, List.cons_append, read?, fields]
  simp only [Decimal.readNatOfNatChars, bind, Option.bind, pure]

end EventTotals

theorem eventsFailed (os : List Observation) :
    (totalOf os : EventTotals).failed ≤ (totalOf os : EventTotals).count := by
  rw [eventTotal]
  exact List.countP_le_length

theorem summariesLossless :
    (∀ os : List Observation, let t : TransactionTotals := totalOf os
      TransactionTotals.read? t.encode = some t ∧ t.histogram.buckets.Pairwise (· < ·) ∧
        (∀ e ∈ t.histogram, 1 ≤ e.2) ∧ t.failed ≤ t.count) ∧
    TransactionTotals.read? (totalOf [] : TransactionTotals).encode = some ⟨0, 0, 0, []⟩ ∧
    (∀ os : List Observation, let t : EventTotals := totalOf os
      EventTotals.read? t.encode = some t ∧ t.failed ≤ t.count) ∧
    (∀ t u : TransactionTotals, String.ofList t.encode = String.ofList u.encode ↔ t = u) ∧
    ∀ t u : EventTotals, String.ofList t.encode = String.ofList u.encode ↔ t = u := by
  refine ⟨fun os => ?_, TransactionTotals.readBack _, fun os => ⟨EventTotals.readBack _, eventsFailed os⟩,
    fun t u => toldByText TransactionTotals.readBack, fun t u => toldByText EventTotals.readBack⟩
  have sound := TransactionTotals.soundTotal os
  exact ⟨TransactionTotals.readBack _, sound.ascending, sound.occurred, sound.failed⟩

end TraceRelay.Aggregate
