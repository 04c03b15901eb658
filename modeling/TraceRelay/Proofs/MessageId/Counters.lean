import TraceRelay.Proofs.MessageId
/-! One counter for each domain. The counter of the home domain and those of the others are read as one
family, so that a draw is the same thing for both: it raises the counter of its own domain, leaves
every other one alone and writes the new number on the id. -/
namespace TraceRelay

namespace Keyed

variable {κ ν : Type} [DecidableEq κ]

theorem getMap {μ : Type} (k : κ) (f : κ → ν → μ) (t : Keyed κ ν) :
    get? k (t.map fun (a, v) => (a, f a v)) = (get? k t).map (f k) := by
  induction t with
  | nil => rfl
  | cons e r ih =>
    obtain ⟨a, v⟩ := e
    by_cases same : a = k
    · subst same
      simp only [List.map_cons, get?, if_true, Option.map_some]
    · simp only [List.map_cons, get?, if_neg same, ih]

end Keyed

namespace MessageIds

variable {home ipHex : String} {ids : MessageIds} {domain : String}

/-- The number of the last id of a domain, zero before the first one. -/
def counter (ids : MessageIds) (domain : String) : UInt32 :=
  if domain = ids.home then ids.homeCount else (ids.others.get? domain).getD 0

theorem counterStart (hour : Int64) : (start home ipHex hour).counter domain = 0 := by
  unfold counter start
  split <;> rfl

structure Drawn (ids : MessageIds) (domain id : String) (after : MessageIds) : Prop where
  id : id = format domain ids.ipHex ids.hour (ids.counter domain + 1)
  counter : ∀ other, after.counter other =
    if other = domain then ids.counter domain + 1 else ids.counter other
  hour : after.hour = ids.hour

theorem counterUpsert {count : UInt32} (away : domain ≠ ids.home) (other : String) :
    { ids with others := ids.others.upsert domain fun _ => count }.counter other =
      if other = domain then count else ids.counter other := by
  unfold counter
  dsimp only
  rw [Keyed.getUpsert]
  by_cases same : other = domain
  · simp only [same, if_true, if_neg away, Option.getD_some]
  · simp only [if_neg same]

theorem drawnKnown {id : String} {after : MessageIds} (prepared : Prepared home ipHex ids)
    (drawn : ids.nextKnown? domain = some (id, after)) : Drawn ids domain id after := by
  unfold nextKnown? at drawn
  split at drawn
  · rename_i own
    cases Option.some.inj drawn
    refine ⟨?_, fun other => ?_, rfl⟩
    · rw [format, counter, if_pos own, own, prepared.front, prepared.sameHome, prepared.sameIp]
    · simp only [counter, own, if_true]
      split <;> rfl
  · rename_i away
    obtain ⟨count, seen, pair⟩ := Option.map_eq_some_iff.mp drawn
    have present : ids.counter domain = count := by rw [counter, if_neg away, seen, Option.getD_some]
    cases pair
    refine ⟨?_, ?_, rfl⟩
    · rw [present]
    · rw [present]
      exact counterUpsert away

theorem drawnNew (away : domain ≠ ids.home) :
    Drawn ids domain (ids.nextNew domain).1 (ids.nextNew domain).2 := by
  have present : ids.counter domain = (ids.others.get? domain).getD 0 := by rw [counter, if_neg away]
  refine ⟨?_, ?_, rfl⟩
  · rw [present]
    rfl
  · rw [present]
    exact counterUpsert away

theorem missAway (missed : ids.nextKnown? domain = none) : domain ≠ ids.home := by
  unfold nextKnown? at missed
  split at missed
  · cases missed
  · assumption

theorem drawnNext (prepared : Prepared home ipHex ids) (domain : String) :
    Drawn ids domain (ids.next domain).1 (ids.next domain).2 := by
  unfold next
  cases drawn : ids.nextKnown? domain with
  | none => exact drawnNew (missAway drawn)
  | some pair => exact drawnKnown prepared drawn

theorem rolloverLater {hour : Int64} (later : (ids.rollover hour).1 = true) :
    ids.hour < hour ∧ (ids.rollover hour).2.hour = hour ∧
      ∀ domain, (ids.rollover hour).2.counter domain = 0 := by
  unfold rollover at later ⊢
  split at later
  · cases later
  · rename_i past
    rw [if_neg past]
    refine ⟨Int64.not_le.mp past, rfl, fun domain => ?_⟩
    unfold counter
    dsimp only
    split
    · rfl
    · rw [Keyed.getMap domain (fun _ _ => 0)]
      cases ids.others.get? domain <;> rfl

theorem rolloverRefused {hour : Int64} (refused : (ids.rollover hour).1 = false) :
    (ids.rollover hour).2 = ids := by
  unfold rollover at refused ⊢
  split at refused
  · rename_i past
    rw [if_pos past]
  · cases refused

end MessageIds

end TraceRelay
