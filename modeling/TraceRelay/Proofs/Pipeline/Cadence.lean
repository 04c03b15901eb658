import TraceRelay.Proofs.Pipeline.Feeds
import TraceRelay.Proofs.Routing.Ratio
/-! The beat of the sampler. A tree that may be discarded moves the counter by one if the ratio it meets is neither
one or more nor next to zero, and is kept on the multiples of what the ratio stands for. Nothing else moves the
counter, so that whatever comes in between, the beat goes on where it stopped. -/
namespace TraceRelay.Pipeline
open Routing (epsilon)

def counts (ratio : Float) : Bool := !decide (1.0 ≤ ratio) && !decide (ratio < epsilon)

def period (ratio : Float) : Nat := (every ratio).toNat

namespace Passage

def tested (x : Passage) : Bool := x.tree.discardable && counts x.ratio

def hit (x : Passage) : Bool := x.tested && x.kept

end Passage

theorem periodPositive (ratio : Float) : 0 < period ratio := by
  have larger : every ratio =
    if 1 ≤ (1.0 / ratio).toUInt64 then (1.0 / ratio).toUInt64 else 1 := rfl
  rw [period, larger]
  split
  · rename_i least
    exact UInt64.le_iff_toNat_le.mp least
  · exact Nat.one_pos

/-- What one passage does to the counter. -/
inductive Stroke : Nat → Passage → Nat → Prop
  | lasting {c x} (lasting : x.tree.discardable = false) (kept : x.kept = true) : Stroke c x c
  | whole {c x} (whole : 1.0 ≤ x.ratio) (kept : x.kept = true) : Stroke c x c
  | tiny {c x} (tiny : x.ratio < epsilon) (discardable : x.tree.discardable = true) (missed : x.kept = false) :
      Stroke c x c
  | counted {c x} (tested : x.tested = true) (kept : x.kept = true ↔ period x.ratio ∣ c + 1) : Stroke c x (c + 1)

inductive Paced : Nat → List Passage → Nat → Prop
  | nil (c : Nat) : Paced c [] c
  | cons {c d e x xs} (first : Stroke c x d) (rest : Paced d xs e) : Paced c (x :: xs) e

theorem sampleWhole {p : Pipeline} (whole : 1.0 ≤ p.routing.sample) : p.sample = (true, p) := if_pos whole

theorem sampleTiny {p : Pipeline} (tiny : p.routing.sample < epsilon) : p.sample = (false, p) := by
  unfold sample
  rw [if_neg (Routing.smallNotWhole tiny), if_pos tiny]

theorem sampleCounted {p : Pipeline} (counted : counts p.routing.sample = true)
    (room : p.sampled.toNat + 1 < UInt64.size) :
    p.sample.2.sampled.toNat = p.sampled.toNat + 1 ∧
      (p.sample.1 = true ↔ period p.routing.sample ∣ p.sampled.toNat + 1) := by
  simp only [counts, Bool.and_eq_true, Bool.not_eq_true', decide_eq_false_iff_not] at counted
  have next : (p.sampled + 1).toNat = p.sampled.toNat + 1 := by
    rw [UInt64.toNat_add]
    exact Nat.mod_eq_of_lt room
  unfold sample
  rw [if_neg counted.1, if_neg counted.2]
  refine ⟨next, ?_⟩
  dsimp only
  rw [beq_iff_eq, ← UInt64.toNat_inj, UInt64.toNat_mod, next, Nat.dvd_iff_mod_eq_zero]
  rfl

theorem strokeDispatch (p : Pipeline) (t : Tree)
    (room : (p.passage t).tested = true → p.sampled.toNat + 1 < UInt64.size) :
    Stroke p.sampled.toNat (p.passage t) (p.dispatch t).sampled.toNat := by
  have counter : (p.dispatch t).sampled = p.asked t := by rw [dispatchParts]
  rw [counter, asked]
  cases discardable : t.discardable with
  | false => exact .lasting discardable (by simp [passage, keeps, discardable])
  | true =>
    have kept : (p.passage t).kept = p.sample.1 := by simp [passage, keeps, discardable]
    rw [if_pos rfl]
    by_cases whole : 1.0 ≤ p.routing.sample
    · rw [sampleWhole whole] at kept ⊢
      exact .whole whole kept
    · by_cases tiny : p.routing.sample < epsilon
      · rw [sampleTiny tiny] at kept ⊢
        exact .tiny tiny discardable kept
      · have counted : counts p.routing.sample = true := by simp [counts, whole, tiny]
        have tested : (p.passage t).tested = true := by simp [Passage.tested, passage, discardable, counted]
        obtain ⟨next, beat⟩ := sampleCounted counted (room tested)
        rw [next]
        exact .counted tested (kept ▸ beat)

variable {c d : Nat} {x : Passage} {xs ys : List Passage}

theorem strokeCases (stroke : Stroke c x d) : (x.tested = false ∧ d = c) ∨
    (x.tested = true ∧ d = c + 1 ∧ (x.kept = true ↔ period x.ratio ∣ c + 1)) := by
  cases stroke with
  | lasting lasting => exact .inl ⟨by simp [Passage.tested, lasting], rfl⟩
  | whole whole => exact .inl ⟨by simp [Passage.tested, counts, whole], rfl⟩
  | tiny tiny => exact .inl ⟨by simp [Passage.tested, counts, tiny], rfl⟩
  | counted tested kept => exact .inr ⟨tested, rfl, kept⟩

theorem strokeCount (stroke : Stroke c x d) : d = c + if x.tested = true then 1 else 0 := by
  rcases strokeCases stroke with ⟨untested, rfl⟩ | ⟨tested, rfl, -⟩
  · rw [untested]
    rfl
  · rw [tested]
    rfl

theorem pacedCount (paced : Paced c xs d) : d = c + xs.countP Passage.tested := by
  induction paced with
  | nil => rfl
  | cons first _ ih =>
    rw [ih, strokeCount first, List.countP_cons]
    omega

theorem pacedSplit {e : Nat} (paced : Paced c (xs ++ ys) e) : ∃ d, Paced c xs d ∧ Paced d ys e := by
  induction xs generalizing c with
  | nil => exact ⟨c, .nil c, paced⟩
  | cons x xs ih =>
    cases paced with
    | cons first rest =>
      obtain ⟨d, front, back⟩ := ih rest
      exact ⟨d, .cons first front, back⟩

theorem strokeShare {k : Nat} (same : x.tested = true → period x.ratio = k) (stroke : Stroke c x d) :
    d / k = c / k + if x.hit = true then 1 else 0 := by
  rcases strokeCases stroke with ⟨untested, rfl⟩ | ⟨tested, rfl, kept⟩
  · rw [Passage.hit, untested]
    rfl
  · rw [Nat.succ_div, ← same tested, Passage.hit, tested, Bool.true_and]
    simp only [kept]

theorem pacedShare {k : Nat} (same : ∀ x ∈ xs, x.tested = true → period x.ratio = k) (paced : Paced c xs d) :
    d / k = c / k + xs.countP Passage.hit := by
  induction paced with
  | nil => rfl
  | cons first _ ih =>
    obtain ⟨here, later⟩ := List.forall_mem_cons.mp same
    rw [ih later, strokeShare here first, List.countP_cons]
    omega

theorem pacedWindow {ratio : Float} (same : ∀ x ∈ xs, x.tested = true → period x.ratio = period ratio)
    (paced : Paced c xs d) (full : xs.countP Passage.tested = period ratio) : xs.countP Passage.hit = 1 := by
  have share := pacedShare same paced
  rw [pacedCount paced, full, Nat.add_div_right c (periodPositive ratio)] at share
  omega

theorem pacedFeeds (p : Pipeline) (fs : List Feed)
    (room : p.sampled.toNat + (passages p fs).countP Passage.tested < UInt64.size) :
    Paced p.sampled.toNat (passages p fs) (p.feedAll fs).sampled.toNat := by
  -- A stroke moves one test from what is to come to what the counter holds, so the room stays the same.
  induction fs generalizing p with
  | nil => exact .nil _
  | cons f fs ih =>
    cases f with
    | update u => exact ih (p.updateRouting u) room
    | tree t =>
      rw [passages, List.countP_cons] at room
      have stroke := strokeDispatch p t fun tested => by
        rw [if_pos tested] at room
        omega
      refine .cons stroke (ih (p.dispatch t) ?_)
      rw [strokeCount stroke]
      omega

/-- What the sampler makes of trees and changes of the ratio in any order. -/
structure Cadence (p : Pipeline) (fs : List Feed) : Prop where
  trees : (passages p fs).map Passage.tree = fs.filterMap Feed.tree?
  offered : (p.feedAll fs).outbox = (offers p fs).foldl Outbound.Outbox.offer p.outbox
  counter : (p.feedAll fs).sampled.toNat = p.sampled.toNat + (passages p fs).countP Passage.tested
  strokes : Paced p.sampled.toNat (passages p fs) (p.feedAll fs).sampled.toNat
  share : ∀ ratio, (∀ x ∈ passages p fs, x.tested = true → period x.ratio = period ratio) →
    (passages p fs).countP Passage.hit =
      (p.feedAll fs).sampled.toNat / period ratio - p.sampled.toNat / period ratio
  window : ∀ ratio front block back, passages p fs = front ++ block ++ back →
    (∀ x ∈ block, x.tested = true → period x.ratio = period ratio) →
    block.countP Passage.tested = period ratio → block.countP Passage.hit = 1

theorem feedsCadence (p : Pipeline) (fs : List Feed)
    (room : p.sampled.toNat + (passages p fs).countP Passage.tested < UInt64.size) : Cadence p fs := by
  have paced := pacedFeeds p fs room
  refine ⟨passagesTrees p fs, ?_, pacedCount paced, paced, fun ratio same => ?_,
    fun ratio front block back split same full => ?_⟩
  · rw [feedAllParts]
  · have share := pacedShare same paced
    omega
  · rw [split, List.append_assoc] at paced
    obtain ⟨_, -, later⟩ := pacedSplit paced
    obtain ⟨_, here, -⟩ := pacedSplit later
    exact pacedWindow same here full

variable {p : Pipeline} {ts : List Tree}

theorem treesPassed (p : Pipeline) (ts : List Tree) : (passages p (ts.map .tree)).map Passage.tree = ts := by
  rw [passagesTrees, List.filterMap_map]
  exact List.filterMap_some

theorem dispatchRouting (p : Pipeline) (t : Tree) : (p.dispatch t).routing = p.routing := by rw [dispatchParts]

theorem ratioStays (p : Pipeline) (ts : List Tree) :
    ∀ x ∈ passages p (ts.map .tree), x.ratio = p.routing.sample := by
  induction ts generalizing p with
  | nil => exact fun x member => nomatch member
  | cons t ts ih => exact List.forall_mem_cons.mpr ⟨rfl, dispatchRouting p t ▸ ih (p.dispatch t)⟩

theorem routingStays (p : Pipeline) (ts : List Tree) : (p.dispatchAll ts).routing = p.routing := by
  induction ts generalizing p with
  | nil => rfl
  | cons t ts ih => exact (ih (p.dispatch t)).trans (dispatchRouting p t)

def offered (p : Pipeline) (ts : List Tree) : List Tree := offers p (ts.map .tree)

theorem lastingOffered (p : Pipeline) (ts : List Tree) :
    (offered p ts).filter (fun t => !t.discardable) = ts.filter fun t => !t.discardable := by
  rw [offered, offers, List.filter_map, List.filter_filter]
  conv => rhs; rw [← treesPassed p ts, List.filter_map]
  refine congrArg _ (List.filter_congr fun x member => ?_)
  cases lasting : x.tree.discardable with
  | true => simp [lasting]
  | false => simp [lasting, lastingKept p _ x member lasting]

section

variable (counted : counts p.routing.sample = true)

include counted

theorem testedSteady (ts : List Tree) :
    (passages p (ts.map .tree)).countP Passage.tested = ts.countP Tree.discardable := by
  conv => rhs; rw [← treesPassed p ts, List.countP_map]
  refine List.countP_congr fun x member => ?_
  simp [Passage.tested, ratioStays p ts x member, counted]

theorem hitSteady (ts : List Tree) :
    (passages p (ts.map .tree)).countP Passage.hit = (offered p ts).countP Tree.discardable := by
  rw [offered, offers, List.countP_map, List.countP_filter]
  refine List.countP_congr fun x member => ?_
  simp [Passage.hit, Passage.tested, ratioStays p ts x member, counted]

theorem steadyCadence (room : p.sampled.toNat + ts.countP Tree.discardable < UInt64.size) :
    Cadence p (ts.map .tree) := feedsCadence p _ (by rwa [testedSteady counted])

theorem steadyCounter (room : p.sampled.toNat + ts.countP Tree.discardable < UInt64.size) :
    (p.dispatchAll ts).sampled.toNat = p.sampled.toNat + ts.countP Tree.discardable := by
  rw [dispatchAllFed, (steadyCadence counted room).counter, testedSteady counted]

theorem steadyShare (room : p.sampled.toNat + ts.countP Tree.discardable < UInt64.size) :
    (offered p ts).countP Tree.discardable =
      (p.sampled.toNat + ts.countP Tree.discardable) / period p.routing.sample -
        p.sampled.toNat / period p.routing.sample := by
  rw [← hitSteady counted, ← steadyCounter counted room, dispatchAllFed]
  exact (steadyCadence counted room).share _ fun x member _ => congrArg period (ratioStays p ts x member)

end

/-- What the sampler makes of trees that all meet the same ratio. -/
structure Steady (p : Pipeline) (ts : List Tree) : Prop where
  offers : (p.dispatchAll ts).outbox = (offered p ts).foldl Outbound.Outbox.offer p.outbox
  lasting : (offered p ts).filter (fun t => !t.discardable) = ts.filter fun t => !t.discardable
  counter : (p.dispatchAll ts).sampled.toNat = p.sampled.toNat + ts.countP Tree.discardable
  share : (offered p ts).countP Tree.discardable =
    (p.sampled.toNat + ts.countP Tree.discardable) / period p.routing.sample -
      p.sampled.toNat / period p.routing.sample
  window : ∀ front block back, ts = front ++ block ++ back →
    block.countP Tree.discardable = period p.routing.sample →
    (offered (p.dispatchAll front) block).countP Tree.discardable = 1

theorem treesSteady (counted : counts p.routing.sample = true)
    (room : p.sampled.toNat + ts.countP Tree.discardable < UInt64.size) : Steady p ts := by
  refine ⟨?_, lastingOffered p ts, steadyCounter counted room, steadyShare counted room, ?_⟩
  · rw [dispatchAllFed, feedAllParts]
    rfl
  · rintro front block back rfl full
    rw [List.countP_append, List.countP_append] at room
    have before : (p.dispatchAll front).sampled.toNat = p.sampled.toNat + front.countP Tree.discardable :=
      steadyCounter counted (by omega)
    have same : (p.dispatchAll front).routing.sample = p.routing.sample := by rw [routingStays]
    rw [steadyShare (by rwa [same]) (by omega), same, full,
      Nat.add_div_right _ (periodPositive _)]
    omega

theorem countsBetween {ratio : Float} (low : epsilon ≤ ratio) (high : ratio < 1.0) : counts ratio = true := by
  have notWhole := Routing.lessNotBack high
  have notTiny : ¬ ratio < epsilon := fun tiny => Routing.lessNotBack tiny low
  simp [counts, notWhole, notTiny]

theorem samplerCadence (p : Pipeline) :
    (∀ ts, epsilon ≤ p.routing.sample → p.routing.sample < 1.0 →
      p.sampled.toNat + ts.countP Tree.discardable < UInt64.size → Steady p ts) ∧
    ∀ fs, p.sampled.toNat + (passages p fs).countP Passage.tested < UInt64.size → Cadence p fs :=
  ⟨fun _ low high room => treesSteady (countsBetween low high) room, fun fs room => feedsCadence p fs room⟩

theorem quarterKept :
    let tree : String → Bool → Tree := fun id discardable =>
      { domain := "d", id := id, message := .event ⟨"T", "n", "0", "", 1⟩, discardable := discardable }
    let p : Pipeline := { routing := { sample := 0.25 }, sampled := 2, ids := .start "home" "7f000001" 1 }
    let ts := [tree "a" true, tree "b" false, tree "c" true, tree "d" true, tree "e" true, tree "f" true]
    let fs : List Feed := [.tree (tree "a" true), .update (.sample "1"), .tree (tree "b" true),
      .update (.sample "0"), .tree (tree "c" true), .update (.sample "0.25"), .tree (tree "d" true)]
    Steady p ts ∧ (offered p ts).map Tree.id = ["b", "c"] ∧
      Cadence p fs ∧ (offers p fs).map Tree.id = ["b", "d"] ∧ (p.feedAll fs).sampled = 4 := by
  intro tree p ts fs
  obtain ⟨steady, cadence⟩ := samplerCadence p
  exact ⟨steady ts (by decide) (by decide) (by decide), by decide +kernel, cadence fs (by decide +kernel),
    by decide +kernel, by decide +kernel⟩

end TraceRelay.Pipeline
