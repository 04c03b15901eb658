import TraceRelay.Proofs.Outbound.Custody
/-! How full a batch gets. Both loops of a worker look at the size of the batch only after they took a tree.
A full batch stays with the worker when the stop interrupts its dial, and a drain then takes one tree more. -/
namespace TraceRelay.Outbound

/-- The stop is seen in a pause between two dials, and then, with the shutdown, in the loop. -/
def interruption (shutdown : Bool) : List Event := [.cancelled shutdown, .cancelled true]

namespace Worker

variable {w v : Worker} {now : Nat} {e : Event} {events : List Event}

/-- Within its capacity, and taking no tree while full. -/
def Bounded (w : Worker) : Prop :=
  w.batch.length ≤ batchCapacity ∧
    ∀ now e v, w.step? now e = some v → e.taken ≠ [] → w.batch.length < batchCapacity

/-- Full, and without a connection to write to. -/
structure Stuck (w : Worker) : Prop where
  full : w.batch.length = batchCapacity
  unlinked : w.established = none

def Overfull (events : List Event) (w : Worker) : Prop :=
  w.batch.length = batchCapacity + 1 ∧ ∃ s t, interruption s ++ [.drained t] <:+: events

/-- How full the batch may be in each phase, and what must have happened before. -/
def Level (events : List Event) (w : Worker) : Prop :=
  match w.phase with
  | .receiving =>
    w.batch.length < batchCapacity ∨ (Stuck w ∧ w.stopSeen = true ∧ ∃ s, [.cancelled s] <:+ events)
  | .dialing _ | .waiting _ => w.batch.length ≤ batchCapacity
  | .draining => w.batch.length < batchCapacity ∨ (Stuck w ∧ ∃ s, interruption s <:+ events)
  | .drainDialing | .lastDialing | .finished => w.batch.length ≤ batchCapacity ∨ Overfull events w

theorem emptyRoom (batch : w.batch = []) : w.batch.length < batchCapacity :=
  batch ▸ Nat.zero_lt_succ _

theorem heldRoom {seen : Prop} (held : w.batch.length < batchCapacity ∨ (Stuck w ∧ seen)) :
    w.batch.length ≤ batchCapacity :=
  held.elim Nat.le_of_lt fun stuck => Nat.le_of_eq stuck.1.full

theorem flushKeeps (linked : w.established ≠ none → w.connections ≠ []) (now : Nat) (dial done : Phase) :
    ((w.flush now dial done).phase = done ∧ (w.flush now dial done).batch = []) ∨
      ((w.flush now dial done).phase = dial ∧ (w.flush now dial done).batch = w.batch) := by
  have flushed := flushFlushed w now dial done
  generalize w.flush now dial done = v at flushed
  cases flushed with
  | empty batch => exact .inl ⟨rfl, batch⟩
  | written _ fresh => exact .inl ⟨rfl, batchWrite (freshLinked linked fresh)⟩
  | dials => exact .inr ⟨rfl, rfl⟩

theorem addKeeps (linked : w.established ≠ none → w.connections ≠ []) (t : Tree) (now : Nat)
    (dial done : Phase) :
    ((w.add t now dial done).phase = done ∧ (w.add t now dial done).batch.length < batchCapacity) ∨
      ((w.add t now dial done).phase = dial ∧ (w.add t now dial done).batch = w.batch ++ [t]) := by
  unfold add
  dsimp only
  split
  · rcases flushKeeps (w := { w with batch := w.batch ++ [t] }) linked now dial done with
      ⟨phase, batch⟩ | kept
    · exact .inl ⟨phase, emptyRoom batch⟩
    · exact .inr kept
  · exact .inl ⟨rfl, Nat.lt_of_not_le ‹_›⟩

theorem batchConnected (w : Worker) (now : Nat) : (w.connect now).write.batch = [] :=
  batchWrite (by simp [connect])

theorem Overfull.later (excess : Overfull events w) (batch : v.batch = w.batch) (e : Event) :
    Overfull (events ++ [e]) v := by
  obtain ⟨size, s, t, seen⟩ := excess
  exact ⟨batch ▸ size, s, t, seen.trans (List.infix_append' [] events [e])⟩

theorem levelLast {u : Worker} (linked : u.established ≠ none → u.connections ≠ [])
    (level : u.batch.length ≤ batchCapacity ∨ Overfull events u) (e : Event) :
    Level (events ++ [e]) (u.lastFlush now) := by
  unfold lastFlush
  rcases flushKeeps linked now .lastDialing .finished with ⟨phase, batch⟩ | ⟨phase, batch⟩ <;>
    simp only [Level, phase]
  · exact .inl (Nat.le_of_lt (emptyRoom batch))
  · exact level.imp (fun size => batch ▸ size) fun excess => excess.later batch e

theorem levelRoom (level : Level events w) (phase : w.phase = .receiving) (unaware : w.stopSeen = false) :
    w.batch.length < batchCapacity := by
  simp only [Level, phase] at level
  simpa [unaware] using level

theorem levelReceived (sound : Sound w) (room : w.batch.length < batchCapacity) (t : Tree) :
    Level events (w.add t now (.dialing firstDelay) .receiving) := by
  rcases addKeeps sound.linked t now (.dialing firstDelay) .receiving with
    ⟨phase, room⟩ | ⟨phase, batch⟩ <;> simp only [Level, phase]
  · exact .inl room
  · rw [batch, List.length_append]
    exact room

theorem levelTick (sound : Sound w) (room : w.batch.length < batchCapacity) :
    Level events (w.flush now (.dialing firstDelay) .receiving) := by
  rcases flushKeeps sound.linked now (.dialing firstDelay) .receiving with
    ⟨phase, batch⟩ | ⟨phase, batch⟩ <;> simp only [Level, phase]
  · exact .inl (emptyRoom batch)
  · exact batch ▸ Nat.le_of_lt room

theorem levelCancelled (sound : Sound w) (level : Level events w) (phase : w.phase = .receiving)
    (shutdown : Bool) :
    Level (events ++ [.cancelled shutdown]) ({ w with stopSeen := true }.leave shutdown now) := by
  simp only [Level, phase] at level
  cases shutdown with
  | true =>
    refine level.imp id fun ⟨stuck, _, s, seen⟩ => ⟨⟨stuck.full, stuck.unlinked⟩, s, ?_⟩
    exact (List.suffix_append_inj_of_length_eq rfl).mpr ⟨seen, rfl⟩
  | false =>
    have held : w.batch.length ≤ batchCapacity := heldRoom level
    exact levelLast (u := { w with stopSeen := true }) sound.linked (.inl held) _

theorem levelClosed (sound : Sound w) (room : w.batch.length < batchCapacity) (shutdown : Bool) :
    Level (events ++ [.closed shutdown]) (w.leave shutdown now) := by
  cases shutdown with
  | true => exact .inl room
  | false => exact levelLast sound.linked (.inl (Nat.le_of_lt room)) _

theorem addStuck (stuck : Stuck w) (now : Nat) (t : Tree) (dial done : Phase) :
    w.add t now dial done = { w with batch := w.batch ++ [t], established := none, phase := dial } := by
  simp [add, flush, fresh, stuck.full, stuck.unlinked]

theorem levelDrained (sound : Sound w) (level : Level events w) (phase : w.phase = .draining) (t : Tree) :
    Level (events ++ [.drained t]) (w.add t now .drainDialing .draining) := by
  simp only [Level, phase] at level
  rcases level with room | ⟨stuck, s, seen⟩
  · rcases addKeeps sound.linked t now .drainDialing .draining with
      ⟨phase, room⟩ | ⟨phase, batch⟩ <;> simp only [Level, phase]
    · exact .inl room
    · rw [batch, List.length_append]
      exact .inl room
  · have drained : interruption s ++ [.drained t] <:+ events ++ [.drained t] :=
      (List.suffix_append_inj_of_length_eq rfl).mpr ⟨seen, rfl⟩
    rw [addStuck stuck]
    exact .inr ⟨by simp [stuck.full], s, t, drained.isInfix⟩

theorem levelStep (sound : Sound w) (level : Level events w) (step : w.step? now e = some v) :
    Level (events ++ [e]) v := by
  cases stepStepped step with
  | received phase unaware => exact levelReceived sound (levelRoom level phase unaware) _
  | tick phase unaware => exact levelTick sound (levelRoom level phase unaware)
  | cancelled phase => exact levelCancelled sound level phase _
  | @interrupted shutdown delay phase =>
    simp only [Level, phase] at level
    obtain ⟨unlinked, -⟩ := sound.dialing (by rw [phase]; rfl)
    rcases Nat.lt_or_eq_of_le level with room | full
    · exact .inl room
    · exact .inr ⟨⟨full, unlinked⟩, rfl, shutdown, List.suffix_append events _⟩
  | closed phase unaware => exact levelClosed sound (levelRoom level phase unaware) _
  | drained phase => exact levelDrained sound level phase _
  | nothingQueued phase =>
    simp only [Level, phase] at level
    exact levelLast sound.linked (.inl (heldRoom level)) _
  | dialed | drainDialed => exact .inl (emptyRoom (batchConnected w now))
  | lastDialed => exact .inl (Nat.le_of_lt (emptyRoom (batchConnected w now)))
  | refused phase | waited phase => simpa only [Level, phase] using level
  | drainRefused phase =>
    simp only [Level, phase] at level
    exact levelLast sound.linked level _
  | lastRefused phase =>
    simp only [Level, phase] at level
    exact level.imp id fun excess => excess.later rfl _

theorem levelBound (level : Level events w) :
    w.batch.length ≤ batchCapacity ∨ Overfull events w := by
  unfold Level at level
  split at level
  · exact .inl (heldRoom level)
  · exact .inl level
  · exact .inl level
  · exact .inl (heldRoom level)
  all_goals exact level

theorem fullTakes (level : Level events w) (step : w.step? now e = some v) (takes : e.taken ≠ [])
    (full : batchCapacity ≤ w.batch.length) :
    ∃ s t, interruption s <:+ events ∧ w.batch.length = batchCapacity ∧
      e = .drained t ∧ v.phase = .drainDialing ∧ v.batch = w.batch ++ [t] := by
  cases stepStepped step with
  | received phase unaware => exact absurd full (Nat.not_le.mpr (levelRoom level phase unaware))
  | @drained t phase =>
    simp only [Level, phase] at level
    obtain ⟨stuck, s, seen⟩ := level.resolve_left (Nat.not_lt.mpr full)
    rw [addStuck stuck]
    exact ⟨s, t, seen, stuck.full, rfl, rfl, rfl⟩
  | _ => exact absurd rfl takes

end Worker

namespace Delivery
open Worker (Bounded Level)

variable {lane : Queue Tree} {events : List Event} {d : Delivery}

theorem runLevel (run : Run { lane } events d) : Level events d.worker := by
  induction run with
  | start => exact .inl (Worker.emptyRoom rfl)
  | queued _ _ ih | takenElsewhere _ _ ih => exact ih
  | event before _ step ih => exact Worker.levelStep (runSound Worker.soundStart before) ih step

/-- How full the batch can get, and after which events. -/
structure Filled (events : List Event) (d : Delivery) : Prop where
  bound : d.worker.batch.length ≤ batchCapacity + 1
  beyond : batchCapacity < d.worker.batch.length → ∃ s t, interruption s ++ [.drained t] <:+: events
  full : ∀ now e w, d.worker.step? now e = some w → e.taken ≠ [] →
    batchCapacity ≤ d.worker.batch.length →
    ∃ s t, interruption s <:+ events ∧ d.worker.batch.length = batchCapacity ∧
      e = .drained t ∧ w.phase = .drainDialing ∧ w.batch = d.worker.batch ++ [t]
  uninterrupted : (∀ s, ¬ interruption s <:+: events) → Bounded d.worker

theorem batchFilled (run : Run { lane } events d) : Filled events d := by
  have level := runLevel run
  have fills := Worker.levelBound level
  have exceeds : batchCapacity < d.worker.batch.length → Worker.Overfull events d.worker := fun more =>
    fills.resolve_left (Nat.not_le.mpr more)
  exact {
    bound := fills.elim Nat.le_succ_of_le fun excess => Nat.le_of_eq excess.1
    beyond := fun more => (exceeds more).2
    full := fun _ _ _ => Worker.fullTakes level
    uninterrupted := by
      intro never
      constructor
      · refine Nat.le_of_not_lt fun more => ?_
        obtain ⟨-, s, t, seen⟩ := exceeds more
        exact never s ((List.prefix_append _ _).isInfix.trans seen)
      · intro now e v step takes
        refine Nat.lt_of_not_le fun full => ?_
        obtain ⟨s, _, seen, _⟩ := Worker.fullTakes level step takes full
        exact never s seen.isInfix }

theorem gathers (t : Tree) {n : Nat} (few : n < batchCapacity) :
    Run { lane := .empty } (List.replicate n (.received t)) ⟨{ batch := List.replicate n t }, .empty⟩ := by
  induction n with
  | zero => exact .start
  | succ n ih =>
    have queued := Run.queued t (ih (Nat.lt_of_succ_lt few))
    have added : ({ batch := List.replicate n t } : Worker).step? 0 (.received t) =
        some { batch := List.replicate (n + 1) t } := by
      simp [Worker.step?, Worker.add, List.replicate_succ', Nat.not_le.mpr few]
    rw [List.replicate_succ' (a := Event.received t)]
    exact .event (e := .received t) queued rfl added

/-- The hundred and fiftieth tree fills the batch. The collector refuses, the stop is seen in the pause, and
the drain takes one more. -/
theorem interruptedDrain (t : Tree) :
    Run { lane := .empty }
      (List.replicate 150 (.received t) ++ [.refused, .cancelled true, .cancelled true, .drained t])
      ⟨{ phase := .drainDialing, batch := List.replicate 151 t, stopSeen := true }, .empty⟩ := by
  let full : Worker := { batch := List.replicate 150 t }
  have almost := Run.queued t (gathers t (n := 149) (by decide))
  have filled := Run.event (n := 0) (w := { full with phase := .dialing firstDelay })
    (e := .received t) almost rfl rfl
  have pausing := Run.event (n := 0) (w := { full with phase := .waiting firstDelay })
    (e := .refused) filled rfl rfl
  have stopped := Run.event (n := 0) (w := { full with stopSeen := true })
    (e := .cancelled true) pausing rfl rfl
  have draining := Run.event (n := 0) (w := { full with phase := .draining, stopSeen := true })
    (e := .cancelled true) stopped rfl rfl
  have more := Run.queued t draining
  exact .event (n := 0) (e := .drained t) more rfl rfl

theorem interruptedDrainFilled :
    let tree : Tree := { domain := "d", id := "1", message := .event ⟨"Sys", "e", "0", "", 1⟩ }
    let events : List Event :=
      List.replicate 150 (.received tree) ++ [.refused, .cancelled true, .cancelled true, .drained tree]
    let worker : Worker := { phase := .drainDialing, batch := List.replicate 151 tree, stopSeen := true }
    Run { lane := .empty } events ⟨worker, .empty⟩ ∧ Filled events ⟨worker, .empty⟩ := by
  intro tree events worker
  exact ⟨interruptedDrain tree, batchFilled (interruptedDrain tree)⟩

theorem capacityExceeded :
    ¬ ∀ (lane : Queue Tree) (events : List Event) (d : Delivery),
      Run { lane } events d → Bounded d.worker := by
  intro bounded
  let tree : Tree := { domain := "d", id := "1", message := .event ⟨"Sys", "e", "0", "", 1⟩ }
  have within := (bounded _ _ _ (interruptedDrain tree)).1
  rw [List.length_replicate] at within
  exact absurd within (by decide)

end Delivery

end TraceRelay.Outbound
