import TraceRelay.Proofs.Outbound.Lanes
import TraceRelay.Proofs.Pipeline.Scene
/-! Shutting down. The outbox closes behind the aggregators: when it turns trees away, both have finished, and
all that they accepted is on summaries that it was offered while it was open. -/
namespace TraceRelay
open Aggregate (Kind Stamp Observation Intake Totals Tray Shift Tracked Covers Refusing Table)

theorem Keyed.lengthUpsert {κ ν : Type} [DecidableEq κ] (k : κ) (f : Option ν → ν) (t : Keyed κ ν) :
    (upsert k f t).length ≤ t.length + 1 := by
  induction t with
  | nil => simp [upsert]
  | cons e r ih =>
    obtain ⟨a, v⟩ := e
    rw [upsert]
    split
    · exact Nat.le_succ _
    · exact Nat.succ_le_succ ih

theorem Aggregate.lengthFlush {α : Type} [Totals α] (stamp : Stamp) (ids : MessageIds) (t : Table α) :
    (Table.flush stamp ids t).1.length = t.length := by
  induction t generalizing ids with
  | nil => rfl
  | cons e r ih => exact congrArg Nat.succ (ih _)

theorem Pipeline.absorbWaiting {p : Pipeline} {k : Kind} (waits : p.drained k = false) :
    ∃ q, p.absorb? k = some q := by
  have popped : ∀ q : Queue Observation, q.isEmpty = false → ∃ pair, q.pop? = some pair := by
    intro q filled
    refine Option.ne_none_iff_exists'.mp fun empty => ?_
    rw [Queue.popNoneIff, ← Queue.isEmptyIff, filled] at empty
    cases empty
  cases k <;> obtain ⟨pair, front⟩ := popped _ waits <;>
    exact ⟨_, congrArg (Option.map _) (congrArg (Option.map _) front)⟩

namespace Scene
open Agent (Turn Turned)

variable {s v : Scene}

def closing (s : Scene) : Bool := s.pipeline.outbox.closing

structure Ordered (s : Scene) : Prop where
  sender : s.closing = true → s.agent.shutdown = .sender
  finished : s.agent.shutdown = .sender → ∀ k, (s.intake k).stage = .finished

theorem orderedKept (ordered : Ordered s) (shifts : ∀ k, Shift (s.intake k) (s.tray k) (v.intake k) (v.tray k))
    (shutdown : v.agent.shutdown = s.agent.shutdown) (closing : v.closing = s.closing) : Ordered v where
  sender closed := shutdown.trans (ordered.sender (closing.symm.trans closed))
  finished asked k :=
    Aggregate.finishedShift (ordered.finished (shutdown.symm.trans asked) k) (shifts k)

theorem orderedEarly {phase : Shutdown} (ordered : Ordered s) (before : s.agent.shutdown ≠ .sender)
    (after : phase ≠ .sender) : Ordered { s with agent := { s.agent with shutdown := phase } } where
  sender closed := absurd (ordered.sender closed) before
  finished asked := absurd asked after

theorem orderedTurn {t : Turn} {a : Agent} (ordered : Ordered s) (single : s.single t = true)
    (took : Turned s.agent t a) : Ordered { s with agent := a } := by
  have shifts := turnShift single took
  cases took with
  | dispatch | tick | finishAggregator => cases single
  | @absorb k p unfinished absorbed =>
    refine orderedKept ordered shifts rfl ?_
    cases k <;> obtain ⟨b, -, rfl⟩ := Option.map_eq_some_iff.mp absorbed <;> rfl
  | @closeAggregator k asked running =>
    refine orderedKept ordered shifts rfl ?_
    dsimp only [closing, pipeline]
    rw [Pipeline.close, if_pos running]
    cases k <;> rfl
  | @take l t b taken =>
    refine orderedKept ordered shifts rfl ?_
    obtain ⟨⟨t, rest⟩, -, pair⟩ := Option.map_eq_some_iff.mp taken
    cases pair
    cases l <;> rfl
  | update | rollover => exact orderedKept ordered shifts rfl rfl
  | askShutdown first => exact orderedEarly ordered (by rw [first]; decide) (by decide)
  | backgroundJoined asked => exact orderedEarly ordered (by rw [asked]; decide) (by decide)
  | aggregatorsJoined asked finished =>
    refine ⟨fun _ => rfl, fun _ k => ?_⟩
    exact (Pipeline.stageIntake s.pipeline k).symm.trans (finished k)
  | closeSender asked => exact ⟨fun _ => asked, fun _ => ordered.finished asked⟩

theorem orderedStep {m : Move} (ordered : Ordered s) (sound : Sound s) (moved : Played s m v) : Ordered v := by
  have shifts := stepShift sound moved
  cases moved with
  | sample =>
    refine orderedKept ordered shifts rfl ?_
    dsimp only [closing, put, pipeline]
    rw [Pipeline.sampleCounts]
  | sight x =>
    refine orderedKept ordered shifts rfl ?_
    cases x <;> rfl
  | offer t => exact orderedKept ordered shifts rfl (Outbound.Outbox.offerClosing _ t)
  | number => exact orderedKept ordered shifts rfl rfl
  | @gather k =>
    refine orderedKept ordered shifts rfl ?_
    cases k <;> rfl
  | @hand k t later next =>
    have member : t ∈ (s.tray k).handing := next ▸ List.mem_cons_self
    refine orderedKept ordered shifts rfl ?_
    dsimp only [closing, handed, setTray, put, pipeline]
    rw [dispatchHanded sound member]
    exact Outbound.Outbox.offerClosing _ t
  | @finish k =>
    refine orderedKept ordered shifts rfl ?_
    cases k <;> rfl
  | turn single took => exact orderedTurn ordered single took

theorem soundStep {m : Move} (sound : Sound s) (moved : Played s m v) : Sound v :=
  fun k => Aggregate.trackedShift (sound k) (stepShift sound moved k)

theorem soundRun {ms : List Move} (ordered : Ordered s) (sound : Sound s) (run : s.run? ms = some v) :
    Ordered v ∧ Sound v := by
  induction ms generalizing s with
  | nil =>
    cases run
    exact ⟨ordered, sound⟩
  | cons m ms ih =>
    obtain ⟨w, taken, rest⟩ := Option.bind_eq_some_iff.mp run
    have moved := stepPlayed taken
    exact ih (orderedStep ordered sound moved) (soundStep sound moved) rest

def stageWork : Aggregate.Stage → Nat
  | .running => 2
  | .closing => 1
  | .finished => 0

/-- What is left for an aggregator. An observation is moved to the table, where it may open an entry, and an
entry becomes a tree that is handed on. -/
def work {α : Type} (a : Intake α) (t : Tray) : Nat :=
  3 * a.waiting.size + 2 * a.table.length + t.handing.length + stageWork a.stage

theorem absorbWork {α : Type} [Totals α] {a b : Intake α} (t : Tray) (absorbed : a.absorb? = some b) :
    work b t < work a t := by
  obtain ⟨⟨o, rest⟩, popped, rfl⟩ := Option.map_eq_some_iff.mp absorbed
  have shorter := Queue.sizeOfPop popped
  have longer := Keyed.lengthUpsert o.domain (fun entries =>
    Keyed.upsert (o.type, o.name) (fun totals => Totals.add (totals.getD Totals.none) o)
      (entries.getD [])) a.table
  simp only [work, Table.add]
  omega

def orderWork (closing : Bool) : Shutdown → Nat
  | .notAsked => 4
  | .background => 3
  | .aggregators => 2
  | .sender => if closing then 0 else 1

def remaining (s : Scene) : Nat :=
  work (s.intake .transaction) (s.tray .transaction) + work (s.intake .event) (s.tray .event) +
    orderWork s.closing s.agent.shutdown

structure Alone (s v : Scene) (k : Kind) : Prop where
  intakes : ∀ j, j ≠ k → v.intake j = s.intake j
  trays : ∀ j, j ≠ k → v.tray j = s.tray j
  shutdown : v.agent.shutdown = s.agent.shutdown

theorem aloneFalls {k : Kind} (alone : Alone s v k) (asked : s.agent.shutdown = .aggregators)
    (less : work (v.intake k) (v.tray k) < work (s.intake k) (s.tray k)) : v.remaining < s.remaining := by
  unfold remaining
  rw [alone.shutdown, asked]
  simp only [orderWork]
  cases k with
  | transaction =>
    rw [alone.intakes .event nofun, alone.trays .event nofun]
    omega
  | event =>
    rw [alone.intakes .transaction nofun, alone.trays .transaction nofun]
    omega

def Advances (s : Scene) : Prop := ∃ m v, s.step? m = some v ∧ v.remaining < s.remaining

theorem handAdvances {k : Kind} {t : Tree} {later : List Tree} (sound : Sound s)
    (asked : s.agent.shutdown = .aggregators) (next : (s.tray k).handing = t :: later) : Advances s := by
  have taken : s.step? (.hand k) = some (s.handed k t later) := by simp only [step?, next]
  have alone : Alone s (s.handed k t later) k :=
    ⟨fun j _ => intakeHanded sound next j, fun _ other => trayOther other, rfl⟩
  refine ⟨_, _, taken, aloneFalls alone asked ?_⟩
  rw [intakeHanded sound next, handed, traySame]
  simp only [work, next, List.length_cons]
  omega

theorem closeAdvances {k : Kind} (asked : s.agent.shutdown = .aggregators) (idle : (s.tray k).handing = [])
    (running : s.pipeline.stage k = .running) : Advances s := by
  have taken : s.step? (.turn (.closeAggregator k)) = some (s.put (s.pipeline.close k)) :=
    stepTurn (List.isEmpty_iff.mpr idle) (if_pos ⟨asked, running⟩)
  have alone : Alone s (s.put (s.pipeline.close k)) k :=
    ⟨fun j other => (intakeClosed running j).trans (if_neg other), fun _ _ => rfl, rfl⟩
  have closed : (s.put (s.pipeline.close k)).intake k = { s.intake k with stage := .closing } :=
    (intakeClosed running k).trans (if_pos rfl)
  refine ⟨_, _, taken, aloneFalls alone asked ?_⟩
  rw [closed]
  rw [Pipeline.stageIntake] at running
  have stage : (s.intake k).stage = .running := running
  simp only [work, put, stage, stageWork]
  omega

theorem absorbAdvances {k : Kind} (asked : s.agent.shutdown = .aggregators) (idle : (s.tray k).handing = [])
    (unfinished : s.pipeline.stage k ≠ .finished) (waits : s.pipeline.drained k = false) : Advances s := by
  obtain ⟨p, absorbed⟩ := Pipeline.absorbWaiting waits
  obtain ⟨own, others⟩ := Pipeline.intakeAbsorb absorbed
  have taken : s.step? (.turn (.absorb k)) = some (s.put p) := by
    refine stepTurn (List.isEmpty_iff.mpr idle) ((if_neg unfinished).trans ?_)
    exact congrArg (Option.map _) absorbed
  have alone : Alone s (s.put p) k := ⟨others, fun _ _ => rfl, rfl⟩
  exact ⟨_, _, taken, aloneFalls alone asked (absorbWork (s.tray k) own)⟩

theorem gatherAdvances {k : Kind} (asked : s.agent.shutdown = .aggregators) (idle : (s.tray k).handing = [])
    (closing : s.pipeline.stage k = .closing) (drained : s.pipeline.drained k = true)
    (filled : (s.intake k).table ≠ []) : Advances s := by
  have stamp : Stamp := ⟨0, ""⟩
  have due : s.gathers k = true := by simp [gathers, idle, closing, drained]
  have taken : s.step? (.gather k stamp) = some (s.gathered k stamp) := if_pos due
  have alone : Alone s (s.gathered k stamp) k :=
    ⟨fun j other => (intakeGathered s k stamp j).trans (if_neg other), fun _ other => trayOther other, rfl⟩
  have entries := List.length_pos_iff.mpr filled
  refine ⟨_, _, taken, aloneFalls alone asked ?_⟩
  rw [intakeGathered, if_pos rfl, gathered, traySame, Pipeline.summariesIntake]
  simp only [work, idle, Aggregate.lengthFlush, List.length_nil]
  change _ + (s.intake k).table.length + _ < _
  omega

theorem finishAdvances {k : Kind} (asked : s.agent.shutdown = .aggregators) (idle : (s.tray k).handing = [])
    (closing : s.pipeline.stage k = .closing) (drained : s.pipeline.drained k = true)
    (swept : (s.intake k).table = []) : Advances s := by
  have due : s.finishes k = true := by simp [finishes, idle, closing, drained, swept]
  have taken : s.step? (.finish k) = some (s.put (s.pipeline.setStage .finished k)) := if_pos due
  have alone : Alone s (s.put (s.pipeline.setStage .finished k)) k :=
    ⟨fun j other => (intakeFinished s k j).trans (if_neg other), fun _ _ => rfl, rfl⟩
  refine ⟨_, _, taken, aloneFalls alone asked ?_⟩
  rw [Pipeline.stageIntake] at closing
  have stage : (s.intake k).stage = .closing := closing
  rw [intakeFinished, if_pos rfl]
  simp only [work, put, stage, stageWork]
  omega

theorem aggregatorAdvances {k : Kind} (sound : Sound s) (asked : s.agent.shutdown = .aggregators)
    (unfinished : s.pipeline.stage k ≠ .finished) : Advances s := by
  cases handing : (s.tray k).handing with
  | cons t later => exact handAdvances sound asked handing
  | nil =>
    cases stage : s.pipeline.stage k with
    | finished => exact absurd stage unfinished
    | running => exact closeAdvances asked handing stage
    | closing =>
      cases drained : s.pipeline.drained k with
      | false => exact absorbAdvances asked handing unfinished drained
      | true =>
        cases swept : (s.intake k).table with
        | nil => exact finishAdvances asked handing stage drained swept
        | cons => exact gatherAdvances asked handing stage drained (by rw [swept]; nofun)

theorem advances (sound : Sound s) (opened : s.closing = false) : Advances s := by
  have order : ∀ t a, s.single t = true → s.agent.step? t = some a → a.pipeline = s.pipeline →
      orderWork s.closing a.shutdown < orderWork s.closing s.agent.shutdown → Advances s := by
    intro t a single taken same less
    refine ⟨.turn t, { s with agent := a }, stepTurn single taken, ?_⟩
    simp only [remaining, intake, closing, pipeline] at same less ⊢
    rw [same]
    omega
  cases asked : s.agent.shutdown with
  | notAsked =>
    refine order .askShutdown { s.agent with shutdown := .background } rfl (if_pos asked) rfl ?_
    simp only [asked, orderWork]
    omega
  | background =>
    refine order .backgroundJoined { s.agent with shutdown := .aggregators } rfl (if_pos asked) rfl ?_
    simp only [asked, orderWork]
    omega
  | aggregators =>
    by_cases finished : ∀ k, s.pipeline.stage k = .finished
    · refine order .aggregatorsJoined { s.agent with shutdown := .sender } rfl
        (if_pos ⟨asked, finished .transaction, finished .event⟩) rfl ?_
      simp only [asked, orderWork, opened]
      decide
    · obtain ⟨k, unfinished⟩ := Classical.not_forall.mp finished
      exact aggregatorAdvances sound asked unfinished
  | sender =>
    let closed : Scene := s.put { s.pipeline with outbox := s.pipeline.outbox.close }
    have taken : s.step? (.turn .closeSender) = some closed := stepTurn rfl (if_pos asked)
    have less : orderWork closed.closing closed.agent.shutdown < orderWork s.closing s.agent.shutdown := by
      have shut : closed.closing = true := rfl
      have same : closed.agent.shutdown = s.agent.shutdown := rfl
      rw [shut, opened, same, asked]
      decide
    exact ⟨_, _, taken, Nat.add_lt_add_left less _⟩

end Scene

namespace Agent

structure Fresh (a : Agent) : Prop where
  shutdown : a.shutdown = .notAsked
  opened : a.pipeline.outbox.closing = false
  unused : ∀ k, ∃ capacity, a.pipeline.intake k = { capacity := capacity }

theorem startFresh {settings : Settings} {hour : Int64} {answer : String → Control.Outcome}
    {servers : List String} {a : Agent} (started : start? settings hour answer servers = .ok a) : Fresh a := by
  simp only [start?] at started
  split at started <;> cases started
  refine ⟨rfl, rfl, fun k => ?_⟩
  cases k <;> exact ⟨_, rfl⟩

end Agent

namespace Scene

variable {a : Agent} {ms : List Move} {s : Scene}

/-- The outbox turns trees away only when both aggregators have finished, and none of their trees meets it
then. Whatever they accepted is on one of the summaries handed on; what comes late is dropped and counted. -/
structure Orderly (s : Scene) : Prop where
  sender : s.closing = true → s.agent.shutdown = .sender ∧ ∀ k, s.pipeline.stage k = .finished
  finished : ∀ k, s.pipeline.stage k = .finished → (s.intake k).waiting.toList = [] ∧
    (s.intake k).table = [] ∧ (s.tray k).handing = [] ∧ Covers k.Counts (s.tray k).handed (s.tray k).accepted
  offered : ∀ k, ∀ t ∈ (s.tray k).handing, s.pipeline.dispatch t = s.pipeline.offer t ∧
    s.pipeline.outbox.verdict t ≠ .closing
  placed : ∀ k, ∃ summed window, Covers k.Counts ((s.tray k).handed ++ (s.tray k).handing) summed ∧
    (s.intake k).table = Table.of window ∧
    (summed ++ window ++ (s.intake k).waiting.toList).Perm (s.tray k).accepted
  counted : ∀ k, (s.tray k).arrived.length = (s.tray k).accepted.length + (s.intake k).dropped
  late : ∀ k later u, s.pipeline.stage k ≠ .running → s.run? later = some u →
    (u.tray k).accepted = (s.tray k).accepted ∧ Refusing (s.intake k) (s.tray k) (u.intake k) (u.tray k)
  ends : ∃ later u, s.run? later = some u ∧ u.closing = true

end Scene

end TraceRelay
