import TraceRelay.Outbound.Outbox
/-! Trees through the outbox. Offers, takes and the closing come in any order, and the outbox may close while
an offer that found it open is still on its way. What was accepted is, lane by lane and in order, what
was taken followed by what waits; every other offer is counted as a drop, and so is every one that comes
after the closing. -/
namespace TraceRelay.Outbound

namespace Outbox

variable {b c : Outbox} {t : Tree}

@[simp] theorem laneSetLane (b : Outbox) (l : Lane) (q : Queue Tree) (k : Lane) :
    (b.setLane l q).lane k = if k = l then q else b.lane k := by
  cases l <;> cases k <;> rfl

@[simp] theorem capacitySetLane (b : Outbox) (l : Lane) (q : Queue Tree) (k : Lane) :
    (b.setLane l q).capacity k = b.capacity k := by
  cases l <;> cases k <;> rfl

@[simp] theorem droppedSetLane (b : Outbox) (l : Lane) (q : Queue Tree) :
    (b.setLane l q).dropped = b.dropped := by
  cases l <;> rfl

@[simp] theorem closingSetLane (b : Outbox) (l : Lane) (q : Queue Tree) :
    (b.setLane l q).closing = b.closing := by
  cases l <;> rfl

/-- The second half of an offer. It no longer asks whether the outbox closes. -/
def enqueue (b : Outbox) (t : Tree) : Outbox :=
  if (b.lane (.of t)).size < b.capacity (.of t) then b.setLane (.of t) ((b.lane (.of t)).push t)
  else { b with dropped := b.dropped + 1 }

theorem offerHalves (b : Outbox) (t : Tree) :
    b.offer t = if b.closing then { b with dropped := b.dropped + 1 } else b.enqueue t := by
  unfold offer verdict enqueue
  cases b.closing with
  | true => rfl
  | false => by_cases room : (b.lane (.of t)).size < b.capacity (.of t) <;> simp [room]

/-- What becomes of a tree, whichever way its offer went. -/
inductive Handled (b : Outbox) (t : Tree) : Outbox → Prop
  | queued (room : (b.lane (.of t)).size < b.capacity (.of t)) :
      Handled b t (b.setLane (.of t) ((b.lane (.of t)).push t))
  | dropped (cause : b.closing = true ∨ b.capacity (.of t) ≤ (b.lane (.of t)).size) :
      Handled b t { b with dropped := b.dropped + 1 }

theorem enqueueHandled (b : Outbox) (t : Tree) : Handled b t (b.enqueue t) := by
  unfold enqueue
  split
  · exact .queued ‹_›
  · exact .dropped (.inr (Nat.not_lt.mp ‹_›))

theorem offerHandled (b : Outbox) (t : Tree) : Handled b t (b.offer t) := by
  rw [offerHalves]
  split
  · exact .dropped (.inl ‹_›)
  · exact enqueueHandled b t

theorem handledClosing (handled : b.Handled t c) : c.closing = b.closing := by
  cases handled with
  | queued => exact closingSetLane b _ _
  | dropped => rfl

theorem offerClosing (b : Outbox) (t : Tree) : (b.offer t).closing = b.closing :=
  handledClosing (offerHandled b t)

theorem offerShut (shut : b.closing = true) (t : Tree) : b.offer t = { b with dropped := b.dropped + 1 } := by
  rw [offerHalves, if_pos shut]

theorem enqueueApart {l : Lane} (other : l ≠ .of t) (q : Queue Tree) :
    (b.setLane l q).enqueue t = (b.enqueue t).setLane l q := by
  unfold enqueue
  simp only [laneSetLane, capacitySetLane, droppedSetLane, if_neg (Ne.symm other)]
  split
  · generalize (b.lane (.of t)).push t = p
    cases l <;> cases way : Lane.of t <;> first | rfl | exact absurd way.symm other
  · cases l <;> rfl

/-- What waits in the other lane has no part in an offer. -/
theorem offerApart {l : Lane} (other : l ≠ .of t) (q : Queue Tree) :
    (b.setLane l q).offer t = (b.offer t).setLane l q := by
  rw [offerHalves, offerHalves, closingSetLane, droppedSetLane]
  split
  · cases l <;> rfl
  · exact enqueueApart other q

end Outbox

structure Traffic where
  outbox : Outbox
  /-- Trees whose offer found the outbox open and has yet to reach a lane. -/
  passing : List Tree := []
  offers : Nat := 0
  accepted : List Tree := []
  taken : Lane → List Tree := fun _ => []

namespace Traffic

inductive Move
  | offer (t : Tree)
  | pass (t : Tree)
  | arrive (i : Nat)
  | take (l : Lane)
  | close

def ended (s : Traffic) (t : Tree) (b : Outbox) : Traffic where
  outbox := b
  passing := s.passing
  offers := s.offers + 1
  accepted := if b.dropped = s.outbox.dropped then s.accepted ++ [t] else s.accepted
  taken := s.taken

/-- A move that cannot happen changes nothing. -/
def step (s : Traffic) : Move → Traffic
  | .offer t => s.ended t (s.outbox.offer t)
  | .pass t =>
    if s.outbox.closing then s.ended t (s.outbox.offer t) else { s with passing := s.passing ++ [t] }
  | .arrive i =>
    match s.passing[i]? with
    | some t => { s with passing := s.passing.eraseIdx i }.ended t (s.outbox.enqueue t)
    | none => s
  | .take l =>
    match s.outbox.take? l with
    | some (t, b) =>
      { s with outbox := b, taken := fun k => if k = l then s.taken l ++ [t] else s.taken k }
    | none => s
  | .close => { s with outbox := s.outbox.close }

def after (s : Traffic) (moves : List Move) : Traffic := moves.foldl step s

/-- The tree that a move brings before the outbox. -/
def brings (s : Traffic) : Move → Option Tree
  | .offer t => some t
  | .pass t => if s.outbox.closing then some t else none
  | .arrive i => s.passing[i]?
  | _ => none

inductive Flowed (s : Traffic) (m : Move) : Traffic → Prop
  | ended {t b p} (brought : s.brings m = some t) (handled : s.outbox.Handled t b) :
      Flowed s m ({ s with passing := p }.ended t b)
  | passed (p : List Tree) : Flowed s m { s with passing := p }
  | taken {l t q} (popped : (s.outbox.lane l).pop? = some (t, q)) :
      Flowed s m { s with
        outbox := s.outbox.setLane l q
        taken := fun k => if k = l then s.taken l ++ [t] else s.taken k }
  | closed : Flowed s m { s with outbox := s.outbox.close }

theorem stepFlowed (s : Traffic) (m : Move) : Flowed s m (s.step m) := by
  cases m with
  | offer t => exact .ended (p := s.passing) rfl (Outbox.offerHandled s.outbox t)
  | pass t =>
    rw [step]
    split
    · exact .ended (p := s.passing) (if_pos ‹_›) (Outbox.offerHandled s.outbox t)
    · exact .passed _
  | arrive i =>
    rw [step]
    split
    · exact .ended ‹_› (Outbox.enqueueHandled s.outbox _)
    · exact .passed s.passing
  | take l =>
    rw [step, Outbox.take?]
    cases popped : (s.outbox.lane l).pop? with
    | none => exact .passed s.passing
    | some pair => exact .taken popped
  | close => exact .closed

theorem closingStep (s : Traffic) (m : Move) :
    (s.step m).outbox.closing = true ↔ s.outbox.closing = true ∨ .close = m := by
  cases m with
  | offer t => simp [step, ended, Outbox.offerClosing]
  | pass t => by_cases shut : s.outbox.closing = true <;> simp [step, ended, shut, Outbox.offerClosing]
  | arrive i =>
    rw [step]
    split
    · simp [ended, Outbox.handledClosing (Outbox.enqueueHandled _ _)]
    · simp
  | take l =>
    rw [step, Outbox.take?]
    cases (s.outbox.lane l).pop? <;> simp
  | close => simp [step, Outbox.close]

theorem closingAfter (s : Traffic) (moves : List Move) :
    (s.after moves).outbox.closing = true ↔ s.outbox.closing = true ∨ .close ∈ moves := by
  induction moves generalizing s with
  | nil => simp [after]
  | cons m moves ih =>
    have further := ih (s.step m)
    rw [closingStep, or_assoc] at further
    rw [List.mem_cons]
    exact further

structure Lined (room : Lane → Nat) (s : Traffic) : Prop where
  capacity : ∀ l, s.outbox.capacity l = room l
  ordered : ∀ l, s.taken l ++ (s.outbox.lane l).toList = s.accepted.filter (Lane.of · = l)
  bounded : ∀ l, (s.outbox.lane l).size ≤ room l
  counted : s.offers = s.outbox.dropped + s.accepted.length

variable {room : Lane → Nat} {s v : Traffic} {m : Move}

theorem linedEnded (lined : Lined room s) {t : Tree} {b : Outbox} (handled : s.outbox.Handled t b) :
    Lined room (s.ended t b) := by
  cases handled with
  | queued space =>
    have accepted : (s.ended t (s.outbox.setLane (.of t) ((s.outbox.lane (.of t)).push t))).accepted =
        s.accepted ++ [t] := if_pos (by simp)
    refine ⟨fun l => ?_, fun l => ?_, fun l => ?_, ?_⟩
    · rw [ended, Outbox.capacitySetLane, lined.capacity]
    · rw [accepted, List.filter_append, ← lined.ordered]
      by_cases own : Lane.of t = l
      · subst own
        simp [ended]
      · simp [ended, own, Ne.symm own]
    · rw [ended, Outbox.laneSetLane]
      split
      · rename_i own
        subst own
        rw [lined.capacity] at space
        exact space
      · exact lined.bounded l
    · rw [accepted, List.length_append, ended, Outbox.droppedSetLane, lined.counted]
      rfl
  | dropped cause =>
    have accepted : (s.ended t { s.outbox with dropped := s.outbox.dropped + 1 }).accepted = s.accepted :=
      if_neg (Nat.succ_ne_self _)
    refine ⟨lined.capacity, fun l => ?_, lined.bounded, ?_⟩
    · rw [accepted]
      exact lined.ordered l
    · rw [accepted, ended, lined.counted]
      dsimp only
      omega

theorem linedTaken (lined : Lined room s) {l : Lane} {t : Tree} {q : Queue Tree}
    (popped : (s.outbox.lane l).pop? = some (t, q)) :
    Lined room { s with
      outbox := s.outbox.setLane l q
      taken := fun k => if k = l then s.taken l ++ [t] else s.taken k } := by
  have waiting := Queue.toListOfPop popped
  have size := Queue.sizeOfPop popped
  refine ⟨fun k => ?_, fun k => ?_, fun k => ?_, ?_⟩
  · rw [Outbox.capacitySetLane, lined.capacity]
  · rw [← lined.ordered k, Outbox.laneSetLane]
    dsimp only
    split
    · rename_i same
      rw [same, waiting, List.append_assoc]
      rfl
    · rfl
  · rw [Outbox.laneSetLane]
    split
    · rename_i same
      have bound := lined.bounded l
      rw [same]
      omega
    · exact lined.bounded k
  · rw [Outbox.droppedSetLane]
    exact lined.counted

theorem linedStep (lined : Lined room s) (m : Move) : Lined room (s.step m) := by
  have moved := stepFlowed s m
  generalize s.step m = v at moved
  cases moved with
  | @ended t b p _ handled =>
    exact linedEnded (s := { s with passing := p })
      ⟨lined.capacity, lined.ordered, lined.bounded, lined.counted⟩ handled
  | passed => exact ⟨lined.capacity, lined.ordered, lined.bounded, lined.counted⟩
  | taken popped => exact linedTaken lined popped
  | closed => exact ⟨lined.capacity, lined.ordered, lined.bounded, lined.counted⟩

theorem linedAfter (lined : Lined room s) (moves : List Move) : Lined room (s.after moves) := by
  induction moves generalizing s with
  | nil => exact lined
  | cons m moves ih => exact ih (linedStep lined m)

theorem startLined (room : Lane → Nat) :
    Lined room { outbox := { normalCapacity := room .normal, highCapacity := room .high } } := by
  refine ⟨fun l => ?_, fun l => ?_, fun l => ?_, rfl⟩ <;> cases l <;> first | rfl | exact Nat.zero_le _

structure Orderly (room : Lane → Nat) (moves : List Move) (s : Traffic) : Prop where
  normal : s.taken .normal ++ s.outbox.normal.toList = s.accepted.filter (·.message.detail.status = "0")
  high : s.taken .high ++ s.outbox.high.toList = s.accepted.filter (·.message.detail.status ≠ "0")
  sorted : (∀ t ∈ s.outbox.normal.toList, t.message.detail.status = "0") ∧
    ∀ t ∈ s.outbox.high.toList, t.message.detail.status ≠ "0"
  bounded : s.outbox.normal.size ≤ room .normal ∧ s.outbox.high.size ≤ room .high
  counted : s.offers = s.outbox.dropped + s.outbox.normal.size + s.outbox.high.size +
    ((s.taken .normal).length + (s.taken .high).length)
  spared : ∀ m, (s.step m).outbox.dropped ≠ s.outbox.dropped → ∃ t, s.brings m = some t ∧
    (s.step m).outbox = { s.outbox with dropped := s.outbox.dropped + 1 } ∧
    (s.outbox.closing = true ∨ (s.outbox.lane (.of t)).size = room (.of t))
  closing : s.outbox.closing = true ↔ .close ∈ moves
  refused : .close ∈ moves → ∀ t, ∀ m ∈ [Move.offer t, .pass t], s.brings m = some t ∧
    (s.step m).outbox = { s.outbox with dropped := s.outbox.dropped + 1 }
  apart : ∀ t l q, l ≠ .of t → (s.outbox.setLane l q).offer t = (s.outbox.offer t).setLane l q

theorem ofNormal (t : Tree) : Lane.of t = .normal ↔ t.message.detail.status = "0" := by
  simp [Lane.of, Message.succeeded, success]

theorem ofHigh (t : Tree) : Lane.of t = .high ↔ t.message.detail.status ≠ "0" := by
  simp [Lane.of, Message.succeeded, success]

theorem linedSorted (lined : Lined room s) {l : Lane} {t : Tree} (waits : t ∈ (s.outbox.lane l).toList) :
    Lane.of t = l := by
  have accepted : t ∈ s.accepted.filter (Lane.of · = l) := lined.ordered l ▸ List.mem_append_right _ waits
  simpa using (List.mem_filter.mp accepted).2

theorem linedCounted (lined : Lined room s) : s.offers = s.outbox.dropped + s.outbox.normal.size +
    s.outbox.high.size + ((s.taken .normal).length + (s.taken .high).length) := by
  have normal := congrArg List.length (lined.ordered .normal)
  have high := congrArg List.length (lined.ordered .high)
  have rest : s.accepted.countP (fun t => ¬ decide (Lane.of t = .normal)) =
      s.accepted.countP (Lane.of · = .high) :=
    List.countP_congr fun t _ => by cases Lane.of t <;> simp
  have both := List.length_eq_countP_add_countP (fun t => decide (Lane.of t = .normal)) (l := s.accepted)
  rw [rest, List.countP_eq_length_filter, List.countP_eq_length_filter] at both
  rw [List.length_append, ← Queue.sizeIsLength] at normal high
  simp only [Outbox.lane] at normal high
  rw [lined.counted]
  omega

theorem linedSpared (lined : Lined room s) (m : Move)
    (more : (s.step m).outbox.dropped ≠ s.outbox.dropped) : ∃ t, s.brings m = some t ∧
      (s.step m).outbox = { s.outbox with dropped := s.outbox.dropped + 1 } ∧
      (s.outbox.closing = true ∨ (s.outbox.lane (.of t)).size = room (.of t)) := by
  have moved := stepFlowed s m
  generalize s.step m = v at moved more
  cases moved with
  | @ended t _ _ brought handled =>
    cases handled with
    | queued => exact absurd (Outbox.droppedSetLane _ _ _) more
    | dropped cause =>
      refine ⟨t, brought, rfl, cause.imp_right fun full => ?_⟩
      rw [lined.capacity] at full
      exact Nat.le_antisymm (lined.bounded _) full
  | passed | closed => exact absurd rfl more
  | taken => exact absurd (Outbox.droppedSetLane _ _ _) more

theorem outboxOrderly (room : Lane → Nat) (moves : List Move) :
    Orderly room moves
      (after { outbox := { normalCapacity := room .normal, highCapacity := room .high } } moves) := by
  have lined := linedAfter (startLined room) moves
  have closing := closingAfter { outbox := { normalCapacity := room .normal, highCapacity := room .high } } moves
  simp only [Bool.false_eq_true, false_or] at closing
  refine ⟨?_, ?_, ⟨fun t waits => ?_, fun t waits => ?_⟩, ⟨lined.bounded .normal, lined.bounded .high⟩,
    linedCounted lined, linedSpared lined, closing, fun closed t => ?_, fun t l q other => Outbox.offerApart other q⟩
  · have ordered := lined.ordered .normal
    simp only [ofNormal] at ordered
    exact ordered
  · have ordered := lined.ordered .high
    simp only [ofHigh] at ordered
    exact ordered
  · exact (ofNormal t).mp (linedSorted lined (l := .normal) waits)
  · exact (ofHigh t).mp (linedSorted lined (l := .high) waits)
  · have shut := closing.mpr closed
    have dropped := Outbox.offerShut shut t
    simp only [List.forall_mem_cons, List.not_mem_nil, false_implies, implies_true, and_true]
    exact ⟨⟨rfl, dropped⟩, if_pos shut, by rw [step, if_pos shut]; exact dropped⟩

/-- One offer is on its way while the outbox closes and still gets in; the next one is dropped with room left in
its lane. The failed trees fill their own lane only. -/
example :
    let tree (status : String) : Tree := { domain := "d", id := "i", message := .event ⟨"Sys", "e", status, "", 1⟩ }
    let s := after { outbox := { normalCapacity := 3, highCapacity := 1 } }
      [.pass (tree "0"), .offer (tree "500"), .offer (tree "timeout"), .offer (tree "0"), .close, .arrive 0,
        .offer (tree "0"), .take .high]
    (s.offers, s.outbox.dropped, s.outbox.normal.size, s.outbox.high.size) = (5, 2, 2, 0) := by decide +kernel

end Traffic

end TraceRelay.Outbound
