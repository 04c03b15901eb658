import TraceRelay.Proofs.Aggregate.Counts
import TraceRelay.Proofs.Aggregate.Shares
/-! One aggregator step by step. What it flushed lies on a tray and is handed on tree by tree, while
observations keep coming; each arrival is noted with the verdict it met. Whatever was accepted is found on a
summary, in the table or in the queue, and once the queue is closed every arrival is a dropped one. -/
namespace TraceRelay

theorem Queue.isEmptyIff {α : Type} (q : Queue α) : q.isEmpty = true ↔ q.toList = [] := by
  rw [isEmpty, beq_iff_eq, sizeIsLength, List.length_eq_zero_iff]

namespace Aggregate

structure Tray where
  handing : List Tree := []
  handed : List Tree := []
  arrived : List (Verdict × Observation) := []

namespace Tray

def note (t : Tray) (v : Verdict) (o : Observation) : Tray := { t with arrived := t.arrived ++ [(v, o)] }

def accepted (t : Tray) : List Observation := (t.arrived.filter fun e => e.1 = .queued).map Prod.snd

def refused (t : Tray) : List Observation := (t.arrived.filter fun e => e.1 ≠ .queued).map Prod.snd

theorem noteQueued (t : Tray) (o : Observation) :
    (t.note .queued o).accepted = t.accepted ++ [o] ∧ (t.note .queued o).refused = t.refused := by
  simp [note, accepted, refused]

theorem noteRefused (t : Tray) {v : Verdict} (o : Observation) (refused : v ≠ .queued) :
    (t.note v o).accepted = t.accepted ∧ (t.note v o).refused = t.refused ++ [o] := by
  simp [note, accepted, Tray.refused, refused]

end Tray

inductive Shift {α : Type} [Totals α] : Intake α → Tray → Intake α → Tray → Prop
  | rest {a t} : Shift a t a t
  | observe {a t} (o : Observation) : Shift a t (a.observe o) (t.note a.verdict o)
  | absorb {a t b} (unfinished : a.stage ≠ .finished) (absorbed : a.absorb? = some b) : Shift a t b t
  | gather {a t} (stamp : Stamp) (ids : MessageIds) (idle : t.handing = [])
      (unfinished : a.stage ≠ .finished) :
      Shift a t { a with table := [] } { t with handing := (Table.flush stamp ids a.table).1 }
  | hand {a t tree later} (next : t.handing = tree :: later) :
      Shift a t a { t with handing := later, handed := t.handed ++ [tree] }
  | close {a t} (running : a.stage = .running) : Shift a t { a with stage := .closing } t
  | finish {a t} (closing : a.stage = .closing) (drained : a.waiting.toList = []) (swept : a.table = [])
      (idle : t.handing = []) : Shift a t { a with stage := .finished } t

variable {α : Type} {a b : Intake α} {t u : Tray}

theorem observeQueued (o : Observation) (queued : a.verdict = .queued) :
    a.observe o = { a with waiting := a.waiting.push o } := by rw [Intake.observe, queued]

theorem observeRefused (o : Observation) (refused : a.verdict ≠ .queued) :
    a.observe o = { a with dropped := a.dropped + 1 } := by
  unfold Intake.observe
  split
  · exact absurd ‹_› refused
  · rfl

theorem closedVerdict (closed : a.stage ≠ .running) : a.verdict = .closed := by
  rw [Intake.verdict, if_pos closed]

/-- From the first tray to the second nothing was queued, and all that came was dropped. -/
def Refusing (a : Intake α) (t : Tray) (b : Intake α) (u : Tray) : Prop :=
  b.stage ≠ .running ∧ ∃ late : List Observation,
    u.arrived = t.arrived ++ late.map (Verdict.closed, ·) ∧ b.dropped = a.dropped + late.length

variable [Totals α]

theorem absorbParts (absorbed : a.absorb? = some b) : ∃ o rest,
    a.waiting.toList = o :: rest.toList ∧ b = { a with waiting := rest, table := a.table.add o } := by
  obtain ⟨⟨o, rest⟩, popped, rfl⟩ := Option.map_eq_some_iff.mp absorbed
  exact ⟨o, rest, Queue.toListOfPop popped, rfl⟩

structure Tracked (a : Intake α) (t : Tray) : Prop where
  placed : ∃ summed window, Covers α (t.handed ++ t.handing) summed ∧ a.table = Table.of window ∧
    (summed ++ window ++ a.waiting.toList).Perm t.accepted
  dropped : a.dropped = t.refused.length
  swept : a.stage = .finished → a.waiting.toList = [] ∧ a.table = [] ∧ t.handing = []
  own : ∀ tree ∈ t.handing, tree.system = true ∧ tree.discardable = false

theorem trackedObserve (tracked : Tracked a t) (o : Observation) : Tracked (a.observe o) (t.note a.verdict o) := by
  obtain ⟨summed, window, covers, table, placed⟩ := tracked.placed
  by_cases queued : a.verdict = .queued
  · obtain ⟨accepted, refused⟩ := t.noteQueued o
    have running : a.stage = .running := Decidable.byContradiction fun closed => by
      rw [closedVerdict closed] at queued
      cases queued
    rw [observeQueued o queued, queued]
    refine ⟨⟨summed, window, covers, table, ?_⟩, ?_, fun finished => ?_, tracked.own⟩
    · rw [accepted, Queue.toListPush, ← List.append_assoc]
      exact placed.append_right [o]
    · rw [refused]
      exact tracked.dropped
    · rw [running] at finished
      cases finished
  · obtain ⟨accepted, refused⟩ := t.noteRefused o queued
    rw [observeRefused o queued]
    refine ⟨⟨summed, window, covers, table, ?_⟩, ?_, tracked.swept, tracked.own⟩
    · rw [accepted]
      exact placed
    · rw [refused, List.length_append, tracked.dropped]
      rfl

theorem trackedAbsorb (tracked : Tracked a t) (unfinished : a.stage ≠ .finished) (absorbed : a.absorb? = some b) :
    Tracked b t := by
  obtain ⟨summed, window, covers, table, placed⟩ := tracked.placed
  obtain ⟨o, rest, waiting, rfl⟩ := absorbParts absorbed
  refine { tracked with
    placed := ⟨summed, window ++ [o], covers, ?_, ?_⟩
    swept := fun finished => absurd finished unfinished }
  · simp only [table, Table.of, List.foldl_append, List.foldl_cons, List.foldl_nil]
  · rw [waiting] at placed
    simpa using placed

theorem trackedGather (tracked : Tracked a t) (stamp : Stamp) (ids : MessageIds) (idle : t.handing = [])
    (unfinished : a.stage ≠ .finished) :
    Tracked (α := α) { a with table := [] } { t with handing := (Table.flush stamp ids a.table).1 } := by
  obtain ⟨summed, window, covers, table, placed⟩ := tracked.placed
  refine { tracked with
    placed := ⟨summed ++ window, [], ?_, rfl, ?_⟩
    swept := fun finished => absurd finished unfinished
    own := fun tree member => ?_ }
  · rw [idle, List.append_nil] at covers
    rw [table]
    exact covers.append (flushCovers stamp ids window)
  · rw [List.append_nil]
    exact placed
  · obtain ⟨system, lasting, -⟩ := flushSystem stamp ids a.table tree member
    exact ⟨system, lasting⟩

theorem trackedHand {tree : Tree} {later : List Tree} (tracked : Tracked a t) (next : t.handing = tree :: later) :
    Tracked a { t with handing := later, handed := t.handed ++ [tree] } := by
  obtain ⟨summed, window, covers, table, placed⟩ := tracked.placed
  refine { tracked with
    placed := ⟨summed, window, ?_, table, placed⟩
    swept := fun finished => ?_
    own := fun other member => tracked.own other (next ▸ List.mem_cons_of_mem tree member) }
  · rw [next] at covers
    simpa using covers
  · have idle := (tracked.swept finished).2.2
    rw [next] at idle
    cases idle

theorem trackedShift (tracked : Tracked a t) (shift : Shift a t b u) : Tracked b u := by
  cases shift with
  | rest => exact tracked
  | observe o => exact trackedObserve tracked o
  | absorb unfinished absorbed => exact trackedAbsorb tracked unfinished absorbed
  | gather stamp ids idle unfinished => exact trackedGather tracked stamp ids idle unfinished
  | hand next => exact trackedHand tracked next
  | close => exact { tracked with swept := nofun }
  | finish _ drained swept idle => exact { tracked with swept := fun _ => ⟨drained, swept, idle⟩ }

theorem finishedShift (finished : a.stage = .finished) (shift : Shift a t b u) : b.stage = .finished := by
  cases shift with
  | rest | hand => exact finished
  | observe o =>
    have refused : a.verdict ≠ .queued := by rw [closedVerdict (by rw [finished]; nofun)]; nofun
    rw [observeRefused o refused]
    exact finished
  | absorb unfinished => exact absurd finished unfinished
  | gather _ _ _ unfinished => exact absurd finished unfinished
  | close running => rw [finished] at running; cases running
  | finish => rfl

end Aggregate

end TraceRelay
