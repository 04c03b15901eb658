import TraceRelay.Outbound.Delivery
import TraceRelay.Proofs.Outbound.Steps
/-! A worker and its lane, with everything around them that may happen: trees are queued, other workers take
from the same lane, ticks come, connections are made or refused, and the stop is seen at any point. -/
namespace TraceRelay.Outbound

def Event.Fits (lane rest : Queue Tree) : Event → Prop
  | .received t => lane.pop? = some (t, rest)
  | .drained t => lane.pop? = some (t, rest)
  | .closed _ => lane.pop? = none ∧ rest = lane
  | .nothingQueued => lane.pop? = none ∧ rest = lane
  | _ => rest = lane

def takenBy (events : List Event) : List Tree := events.flatMap Event.taken

theorem takenByOne (events : List Event) (e : Event) : takenBy (events ++ [e]) = takenBy events ++ e.taken := by
  simp [takenBy]

namespace Worker

variable {w v : Worker} {now : Nat} {e : Event}

theorem refusedKeeps (sound : Sound w) (step : w.step? now .refused = some v) :
    v.batch = w.batch ∧ v.connections = w.connections := by
  cases stepStepped step with
  | refused | lastRefused => exact ⟨rfl, rfl⟩
  | drainRefused phase =>
    -- The draining flush gave up its connection before it dialed, so the last one has to dial again.
    obtain ⟨none, filled⟩ := sound.dialing (by rw [phase]; rfl)
    have flushed := flushFlushed w now .lastDialing .finished
    unfold lastFlush
    generalize w.flush now .lastDialing .finished = v at flushed
    cases flushed with
    | empty batch => exact absurd batch filled
    | written _ fresh => simp [Worker.fresh, none] at fresh
    | dials => exact ⟨rfl, rfl⟩

/-- The worker has left its loop and does not drain. -/
def Leaving (w : Worker) : Prop := w.phase = .lastDialing ∨ w.phase = .finished

theorem leavingStep (leaving : Leaving w) (step : w.step? now e = some v) : e.taken = [] ∧ Leaving v := by
  have leads := stepLeads step
  unfold Leaving
  rcases leaving with phase | phase <;> rw [phase] at leads
  · generalize v.phase = p at leads ⊢
    cases leads with
    | lastDialed | lastRefused => exact ⟨rfl, .inr rfl⟩
  · cases leads

theorem cancelledLeaves (phase : w.phase = .receiving) (step : w.step? now (.cancelled false) = some v) :
    Leaving v := by
  have leads := stepLeads step
  rw [phase] at leads
  cases leads with
  | stopped onward => exact onward

theorem interruptedKeeps {shutdown : Bool} {delay : Nat} (phase : w.phase = .waiting delay)
    (step : w.step? now (.cancelled shutdown) = some v) :
    v.phase = .receiving ∧ v.stopSeen = true ∧ v.batch = w.batch ∧ v.connections = w.connections := by
  cases stepStepped step with
  | cancelled receiving => rw [phase] at receiving; cases receiving
  | interrupted => exact ⟨rfl, rfl, rfl, rfl⟩

/-- The stop was seen in a pause between two dials, and the loop is yet to be left. -/
def Stopping (w : Worker) : Prop := w.phase = .receiving ∧ w.stopSeen = true

theorem stoppingStep (stopping : Stopping w) (step : w.step? now e = some v)
    (lone : e ≠ .cancelled true) : e.taken = [] ∧ Leaving v := by
  obtain ⟨receiving, seen⟩ := stopping
  cases stepStepped step with
  | @cancelled shutdown =>
    cases shutdown with
    | true => exact absurd rfl lone
    | false => exact ⟨rfl, cancelledLeaves receiving step⟩
  | received _ unaware | tick _ unaware | closed _ unaware => rw [seen] at unaware; cases unaware
  | _ phase => rw [receiving] at phase; cases phase

theorem lastFlushEmpties (linked : w.established ≠ none → w.connections ≠ [])
    (finished : (w.lastFlush now).phase = .finished) : (w.lastFlush now).batch = [] := by
  have flushed := flushFlushed w now .lastDialing .finished
  unfold lastFlush at finished ⊢
  generalize w.flush now .lastDialing .finished = v at flushed finished
  cases flushed with
  | empty batch => exact batch
  | written _ fresh => exact batchWrite (freshLinked linked fresh)
  | dials => cases finished

theorem finishedStep (sound : Sound w) (step : w.step? now e = some v) (finished : v.phase = .finished) :
    v.batch = [] ∨ (e = .refused ∧ w.phase = .lastDialing ∧ v.batch = w.batch) := by
  have left : ∀ u : Worker, (u.established ≠ none → u.connections ≠ []) → ∀ shutdown,
      (u.leave shutdown now).phase = .finished → (u.leave shutdown now).batch = [] := by
    intro u linked shutdown finished
    cases shutdown with
    | true => cases finished
    | false => exact lastFlushEmpties linked finished
  cases stepStepped step with
  | received | drained =>
    rcases addTurns w _ now _ _ with turned | turned <;> rw [turned] at finished <;> cases finished
  | tick => rcases flushTurns w now _ _ with turned | turned <;> rw [turned] at finished <;> cases finished
  | cancelled => exact .inl (left { w with stopSeen := true } sound.linked _ finished)
  | closed => exact .inl (left w sound.linked _ finished)
  | nothingQueued | drainRefused => exact .inl (lastFlushEmpties sound.linked finished)
  | lastDialed => exact .inl (batchWrite (by simp [connect]))
  | lastRefused phase => exact .inr ⟨rfl, phase, rfl⟩
  | _ => cases finished

theorem finishedStays (finished : w.phase = .finished) (now : Nat) (e : Event) : w.step? now e = none := by
  cases step : w.step? now e with
  | none => rfl
  | some v =>
    have leads := stepLeads step
    rw [finished] at leads
    cases leads

end Worker

namespace Delivery
open Worker (Sound Leaving Stopping)

inductive Run (start : Delivery) : List Event → Delivery → Prop
  | start : Run start [] start
  | queued {events d} (t : Tree) (before : Run start events d) :
      Run start events { d with lane := d.lane.push t }
  | takenElsewhere {events d t rest} (before : Run start events d)
      (popped : d.lane.pop? = some (t, rest)) : Run start events { d with lane := rest }
  | event {events d e n w r} (before : Run start events d) (fits : e.Fits d.lane r)
      (step : d.worker.step? n e = some w) : Run start (events ++ [e]) ⟨w, r⟩

variable {start d : Delivery} {events : List Event}

theorem runSound (sound : Sound start.worker) (run : Run start events d) : Sound d.worker := by
  induction run with
  | start => exact sound
  | queued _ _ ih | takenElsewhere _ _ ih => exact ih
  | event _ _ step ih => exact Worker.soundStep ih step

theorem runCarried (run : Run start events d) :
    d.worker.carried = start.worker.carried ++ takenBy events := by
  induction run with
  | start => exact (List.append_nil _).symm
  | queued _ _ ih | takenElsewhere _ _ ih => exact ih
  | event _ _ step ih => rw [Worker.carriedStep step, ih, takenByOne, List.append_assoc]

theorem runLeaving (leaving : Leaving start.worker) (run : Run start events d) :
    takenBy events = [] ∧ Leaving d.worker := by
  induction run with
  | start => exact ⟨rfl, leaving⟩
  | queued _ _ ih | takenElsewhere _ _ ih => exact ih
  | event _ _ step ih =>
    obtain ⟨none, still⟩ := Worker.leavingStep ih.2 step
    exact ⟨by rw [takenByOne, ih.1, none]; rfl, still⟩

theorem runStopping (stopping : Stopping start.worker) (run : Run start events d)
    (lone : Event.cancelled true ∉ events) :
    takenBy events = [] ∧ (Stopping d.worker ∨ Leaving d.worker) := by
  induction run with
  | start => exact ⟨rfl, .inl stopping⟩
  | queued _ _ ih | takenElsewhere _ _ ih => exact ih lone
  | @event events d e now w rest _ _ step ih =>
    simp only [List.mem_append, List.mem_singleton, not_or] at lone
    obtain ⟨none, still⟩ := ih lone.1
    have next : e.taken = [] ∧ Leaving w := by
      rcases still with stopping | leaving
      · exact Worker.stoppingStep stopping step (Ne.symm lone.2)
      · exact Worker.leavingStep leaving step
    exact ⟨by rw [takenByOne, none, next.1]; rfl, .inr next.2⟩

/-- What a worker owes to the trees it took, given the events it has seen. -/
structure Custody (events : List Event) (d : Delivery) : Prop where
  accounted : takenBy events = d.worker.written ++ d.worker.batch
  settled : ∀ now e w, d.worker.step? now e = some w → ∃ more, w.written = d.worker.written ++ more
  refused : ∀ now w, d.worker.step? now .refused = some w →
    w.batch = d.worker.batch ∧ w.connections = d.worker.connections
  interrupted : ∀ now shutdown delay w, d.worker.phase = .waiting delay →
    d.worker.step? now (.cancelled shutdown) = some w →
    w.batch = d.worker.batch ∧ w.connections = d.worker.connections
  left : ∀ now w, d.worker.phase = .receiving → d.worker.step? now (.cancelled false) = some w →
    ∀ more e, Run ⟨w, d.lane⟩ more e → takenBy more = []
  /-- A stop seen in a pause between two dials is acted on in the loop. Until the shutdown is seen there,
  nothing more is taken. -/
  paused : ∀ now shutdown delay w, d.worker.phase = .waiting delay →
    d.worker.step? now (.cancelled shutdown) = some w →
    ∀ more e, Run ⟨w, d.lane⟩ more e → Event.cancelled true ∉ more → takenBy more = []
  lost : ∀ now e w, d.worker.step? now e = some w → w.phase = .finished →
    w.batch = [] ∨ (e = .refused ∧ d.worker.phase = .lastDialing ∧ w.batch = d.worker.batch)
  finished : d.worker.phase = .finished → ∀ now e, d.worker.step? now e = none

theorem everyTreeInCustody {lane : Queue Tree} (run : Run { lane } events d) : Custody events d where
  accounted := (runCarried run).symm
  settled _ _ _ step := Worker.writtenStep (runSound Worker.soundStart run) step
  refused _ _ step := Worker.refusedKeeps (runSound Worker.soundStart run) step
  interrupted _ _ _ _ phase step := (Worker.interruptedKeeps phase step).2.2
  left _ _ phase step _ _ rest := (runLeaving (Worker.cancelledLeaves phase step) rest).1
  paused now shutdown delay w phase step more e rest lone := by
    obtain ⟨receiving, seen, -⟩ := Worker.interruptedKeeps phase step
    exact (runStopping ⟨receiving, seen⟩ rest lone).1
  lost _ _ _ step finished := Worker.finishedStep (runSound Worker.soundStart run) step finished
  finished finished now e := Worker.finishedStays finished now e

/-- One tree is written. Two more wait for a collector that refuses, across a stop that is seen in a pause
and a drain, until the worker gives up. -/
theorem refusedToTheEnd :
    let tree (id : String) : Tree := { domain := "d", id := id, message := .event ⟨"Sys", "e", "0", "", 1⟩ }
    let events : List Event := [.received (tree "1"), .tick, .dialed, .received (tree "2"), .tick, .refused,
      .cancelled false, .cancelled true, .drained (tree "3"), .nothingQueued, .refused]
    let worker : Worker := {
      phase := .finished, batch := [tree "2", tree "3"], connections := [[tree "1"]], stopSeen := true }
    Run { lane := Queue.empty } events ⟨worker, .empty⟩ ∧ Custody events ⟨worker, .empty⟩ := by
  intro tree events worker
  let dialed : Worker := { established := some 5, connections := [[tree "1"]] }
  let stale : Worker := { batch := [tree "2"], connections := [[tree "1"]] }
  let start : Delivery := { lane := .empty }
  have one : Run start [] { start with lane := start.lane.push (tree "1") } := .queued (tree "1") .start
  have received := Run.event (n := 3) (r := .empty) (w := { batch := [tree "1"] })
    (e := .received (tree "1")) one rfl rfl
  have ticked := Run.event (n := 4) (w := { phase := .dialing firstDelay, batch := [tree "1"] })
    (e := .tick) received rfl rfl
  have written := Run.event (n := 5) (w := dialed) (e := .dialed) ticked rfl rfl
  have two := Run.queued (tree "2") written
  have again := Run.event (n := 6) (r := .empty) (w := { dialed with batch := [tree "2"] })
    (e := .received (tree "2")) two rfl rfl
  have aged := Run.event (n := 600005) (w := { stale with phase := .dialing firstDelay })
    (e := .tick) again rfl rfl
  have pausing := Run.event (n := 600006) (w := { stale with phase := .waiting firstDelay })
    (e := .refused) aged rfl rfl
  have stopped := Run.event (n := 600007) (w := { stale with stopSeen := true })
    (e := .cancelled false) pausing rfl rfl
  have draining := Run.event (n := 600008) (w := { stale with phase := .draining, stopSeen := true })
    (e := .cancelled true) stopped rfl rfl
  have three := Run.queued (tree "3") draining
  have drained := Run.event (n := 600009) (r := .empty) (w := { worker with phase := .draining })
    (e := .drained (tree "3")) three rfl rfl
  have last := Run.event (n := 600010) (r := .empty) (w := { worker with phase := .lastDialing })
    (e := .nothingQueued) drained ⟨rfl, rfl⟩ rfl
  have run : Run start events ⟨worker, .empty⟩ := .event (n := 600011) (e := .refused) last rfl rfl
  exact ⟨run, everyTreeInCustody run⟩

end Delivery

end TraceRelay.Outbound
