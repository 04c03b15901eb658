import TraceRelay.Proofs.Aggregate.Tray
import TraceRelay.Proofs.Pipeline.Balance
/-! The agent with its tasks interleaved in single moves. A client dispatches by sampling, showing one
observation after the other and offering the tree; an aggregator flushes into its tray and hands on one tree
at a time. Between any two moves every other task may move. Each turn of the agent is such a run of moves. -/
namespace TraceRelay
open Aggregate (Kind Stamp Observation Intake TransactionTotals EventTotals Totals Tray Shift Tracked)

def Aggregate.Kind.Counts : Kind → Type
  | .transaction => TransactionTotals
  | .event => EventTotals

instance (k : Kind) : Totals k.Counts :=
  match k with
  | .transaction => inferInstanceAs (Totals TransactionTotals)
  | .event => inferInstanceAs (Totals EventTotals)

namespace Pipeline

variable {p q : Pipeline}

def intake (p : Pipeline) : (k : Kind) → Intake k.Counts
  | .transaction => p.transactions
  | .event => p.events

theorem stageIntake (p : Pipeline) (k : Kind) : p.stage k = (p.intake k).stage := by cases k <;> rfl

theorem drainedIntake (p : Pipeline) (k : Kind) : p.drained k = (p.intake k).waiting.isEmpty := by
  cases k <;> rfl

theorem summariesIntake (stamp : Stamp) (p : Pipeline) (k : Kind) :
    p.summaries stamp k = Aggregate.Table.flush stamp p.ids (p.intake k).table := by cases k <;> rfl

theorem intakeObserve (p : Pipeline) (x : Sighting) (k : Kind) : (p.observe x).intake k =
    match x.for? k with
    | some o => (p.intake k).observe o
    | none => p.intake k := by
  cases x <;> cases k <;> rfl

theorem intakeAbsorb {j : Kind} (absorbed : p.absorb? j = some q) :
    (p.intake j).absorb? = some (q.intake j) ∧ ∀ k, k ≠ j → q.intake k = p.intake k := by
  cases j <;> obtain ⟨a, taken, rfl⟩ := Option.map_eq_some_iff.mp absorbed <;>
    refine ⟨taken, fun k other => ?_⟩ <;> cases k <;> first | rfl | exact absurd rfl other

theorem intakeSetStage (p : Pipeline) (stage : Aggregate.Stage) (j k : Kind) :
    (p.setStage stage j).intake k =
      if k = j then { p.intake k with stage := stage } else p.intake k := by
  cases j <;> cases k <;> rfl

end Pipeline

structure Scene where
  agent : Agent
  tray : Kind → Tray := fun _ => {}

namespace Scene
open Agent (Turn Turned stepTurned)
open Pipeline (Sighting)

variable {s v : Scene}

def pipeline (s : Scene) : Pipeline := s.agent.pipeline

def intake (s : Scene) (k : Kind) : Intake k.Counts := s.pipeline.intake k

def put (s : Scene) (p : Pipeline) : Scene := { s with agent := { s.agent with pipeline := p } }

def setTray (s : Scene) (k : Kind) (t : Tray) : Scene :=
  { s with tray := fun j => if j = k then t else s.tray j }

def noted (s : Scene) (x : Sighting) (k : Kind) : Tray :=
  match x.for? k with
  | some o => (s.tray k).note (s.intake k).verdict o
  | none => s.tray k

inductive Move
  | sample
  | sight (x : Sighting)
  | offer (t : Tree)
  | number (domain : String)
  | gather (k : Kind) (stamp : Stamp)
  | hand (k : Kind)
  | finish (k : Kind)
  | turn (t : Turn)

/-- Turns that are moves themselves. A task is not in the middle of a flush when it takes one. -/
def single (s : Scene) : Turn → Bool
  | .dispatch _ | .tick .. | .finishAggregator .. => false
  | .absorb k | .closeAggregator k => (s.tray k).handing.isEmpty
  | _ => true

def gathers (s : Scene) (k : Kind) : Bool :=
  (s.tray k).handing.isEmpty &&
    (s.pipeline.stage k = .running || s.pipeline.stage k = .closing && s.pipeline.drained k)

def gathered (s : Scene) (k : Kind) (stamp : Stamp) : Scene :=
  (s.put { s.pipeline.emptied k with ids := (s.pipeline.summaries stamp k).2 }).setTray k
    { s.tray k with handing := (s.pipeline.summaries stamp k).1 }

def handed (s : Scene) (k : Kind) (t : Tree) (later : List Tree) : Scene :=
  (s.put (s.pipeline.dispatch t)).setTray k
    { s.tray k with handing := later, handed := (s.tray k).handed ++ [t] }

def finishes (s : Scene) (k : Kind) : Bool :=
  (s.tray k).handing.isEmpty && s.pipeline.stage k = .closing && s.pipeline.drained k &&
    (s.intake k).table.isEmpty

def step? (s : Scene) : Move → Option Scene
  | .sample => some (s.put s.pipeline.sample.2)
  | .sight x => some { s.put (s.pipeline.observe x) with tray := s.noted x }
  | .offer t => some (s.put (s.pipeline.offer t))
  | .number domain => some { s with agent := (s.agent.createId domain).2 }
  | .gather k stamp => if s.gathers k then some (s.gathered k stamp) else none
  | .hand k =>
    match (s.tray k).handing with
    | [] => none
    | t :: later => some (s.handed k t later)
  | .finish k => if s.finishes k then some (s.put (s.pipeline.setStage .finished k)) else none
  | .turn t => if s.single t then (s.agent.step? t).map fun a => { s with agent := a } else none

def run? (s : Scene) : List Move → Option Scene
  | [] => some s
  | m :: ms => (s.step? m).bind (run? · ms)

theorem runCons {u : Scene} {m : Move} {ms : List Move} (first : s.step? m = some v)
    (rest : v.run? ms = some u) : s.run? (m :: ms) = some u := by rw [run?, first, Option.bind_some, rest]

theorem runOne {m : Move} (taken : s.step? m = some v) : s.run? [m] = some v := runCons taken rfl

theorem runAppend {u : Scene} {ms ns : List Move} (first : s.run? ms = some v) (second : v.run? ns = some u) :
    s.run? (ms ++ ns) = some u := by
  induction ms generalizing s with
  | nil =>
    cases first
    exact second
  | cons m ms ih =>
    obtain ⟨w, taken, rest⟩ := Option.bind_eq_some_iff.mp first
    exact runCons taken (ih rest)

theorem stepTurn {t : Turn} {a : Agent} (single : s.single t = true) (taken : s.agent.step? t = some a) :
    s.step? (.turn t) = some { s with agent := a } := by
  simp only [step?, single, if_true, taken, Option.map_some]

inductive Played (s : Scene) : Move → Scene → Prop
  | sample : Played s .sample (s.put s.pipeline.sample.2)
  | sight (x : Sighting) : Played s (.sight x) { s.put (s.pipeline.observe x) with tray := s.noted x }
  | offer (t : Tree) : Played s (.offer t) (s.put (s.pipeline.offer t))
  | number (domain : String) : Played s (.number domain) { s with agent := (s.agent.createId domain).2 }
  | gather {k} (stamp : Stamp) (idle : (s.tray k).handing = []) (unfinished : s.pipeline.stage k ≠ .finished) :
      Played s (.gather k stamp) (s.gathered k stamp)
  | hand {k t later} (next : (s.tray k).handing = t :: later) : Played s (.hand k) (s.handed k t later)
  | finish {k} (idle : (s.tray k).handing = []) (closing : s.pipeline.stage k = .closing)
      (drained : s.pipeline.drained k = true) (swept : (s.intake k).table = []) :
      Played s (.finish k) (s.put (s.pipeline.setStage .finished k))
  | turn {t a} (single : s.single t = true) (took : Turned s.agent t a) : Played s (.turn t) { s with agent := a }

theorem stepPlayed {m : Move} (taken : s.step? m = some v) : Played s m v := by
  cases m with
  | sample => cases taken; exact .sample
  | sight x => cases taken; exact .sight x
  | offer t => cases taken; exact .offer t
  | number domain => cases taken; exact .number domain
  | gather k stamp =>
    simp only [step?] at taken
    split at taken <;> cases taken
    rename_i due
    simp only [gathers, Bool.and_eq_true, List.isEmpty_iff] at due
    refine .gather stamp due.1 fun finished => ?_
    simp [finished] at due
  | hand k =>
    simp only [step?] at taken
    split at taken <;> cases taken
    rename_i next
    exact .hand next
  | finish k =>
    simp only [step?] at taken
    split at taken <;> cases taken
    rename_i due
    simp only [finishes, Bool.and_eq_true, List.isEmpty_iff, decide_eq_true_eq] at due
    obtain ⟨⟨⟨idle, closing⟩, drained⟩, swept⟩ := due
    exact .finish idle closing drained swept
  | turn t =>
    simp only [step?] at taken
    split at taken
    · obtain ⟨a, stepped, rfl⟩ := Option.map_eq_some_iff.mp taken
      exact .turn ‹_› (stepTurned stepped)
    · cases taken

theorem trayOther {t : Tray} {j k : Kind} (other : k ≠ j) : (s.setTray j t).tray k = s.tray k := if_neg other

theorem traySame {t : Tray} {k : Kind} : (s.setTray k t).tray k = t := if_pos rfl

theorem intakeGathered (s : Scene) (j : Kind) (stamp : Stamp) (k : Kind) :
    (s.gathered j stamp).intake k = if k = j then { s.intake k with table := [] } else s.intake k := by
  cases j <;> cases k <;> rfl

theorem intakeFinished (s : Scene) (j k : Kind) : (s.put (s.pipeline.setStage .finished j)).intake k =
    if k = j then { s.intake k with stage := .finished } else s.intake k :=
  Pipeline.intakeSetStage s.pipeline .finished j k

theorem intakeClosed {j : Kind} (running : s.pipeline.stage j = .running) (k : Kind) :
    (s.pipeline.close j).intake k = if k = j then { s.intake k with stage := .closing } else s.intake k := by
  rw [Pipeline.close, if_pos running]
  exact Pipeline.intakeSetStage s.pipeline .closing j k

def Sound (s : Scene) : Prop := ∀ k, Tracked (s.intake k) (s.tray k)

theorem dispatchHanded (sound : Sound s) {k : Kind} {t : Tree} (member : t ∈ (s.tray k).handing)
    (p : Pipeline) : p.dispatch t = p.offer t := by
  obtain ⟨system, lasting⟩ := (sound k).own t member
  exact Pipeline.dispatchOwn p system lasting

theorem intakeHanded (sound : Sound s) {j : Kind} {t : Tree} {later : List Tree}
    (next : (s.tray j).handing = t :: later) (k : Kind) : (s.handed j t later).intake k = s.intake k := by
  rw [handed, dispatchHanded sound (next ▸ List.mem_cons_self)]
  cases k <;> rfl

theorem sightShift (x : Sighting) (k : Kind) :
    Shift (s.intake k) (s.tray k) ((s.pipeline.observe x).intake k) (s.noted x k) := by
  rw [Pipeline.intakeObserve, noted]
  cases x.for? k with
  | none => exact .rest
  | some o => exact .observe o

theorem turnShift {t : Turn} {a : Agent} (single : s.single t = true) (took : Turned s.agent t a) (k : Kind) :
    Shift (s.intake k) (s.tray k) (a.pipeline.intake k) (s.tray k) := by
  cases took with
  | dispatch | tick | finishAggregator => cases single
  | @absorb j p unfinished absorbed =>
    obtain ⟨own, others⟩ := Pipeline.intakeAbsorb absorbed
    by_cases same : k = j
    · subst same
      rw [Pipeline.stageIntake] at unfinished
      exact .absorb unfinished own
    · rw [others k same]
      exact .rest
  | @closeAggregator j asked running =>
    change Shift _ _ ((s.pipeline.close j).intake k) _
    rw [intakeClosed running]
    by_cases same : k = j
    · subst same
      rw [if_pos rfl]
      rw [Pipeline.stageIntake] at running
      exact .close running
    · rw [if_neg same]
      exact .rest
  | askShutdown | backgroundJoined | aggregatorsJoined => exact .rest
  | closeSender | take | update | rollover =>
    cases k <;> exact .rest

theorem stepShift {m : Move} (sound : Sound s) (moved : Played s m v) (k : Kind) :
    Shift (s.intake k) (s.tray k) (v.intake k) (v.tray k) := by
  cases moved with
  | sample =>
    have same : (s.put s.pipeline.sample.2).intake k = s.intake k := by
      rw [Pipeline.sampleCounts]
      cases k <;> rfl
    rw [same]
    exact .rest
  | sight x => exact sightShift x k
  | offer | number => cases k <;> exact .rest
  | @gather j stamp idle unfinished =>
    rw [intakeGathered, gathered]
    by_cases same : k = j
    · subst same
      rw [if_pos rfl, traySame, Pipeline.summariesIntake]
      rw [Pipeline.stageIntake] at unfinished
      exact .gather stamp _ idle unfinished
    · rw [if_neg same, trayOther same]
      exact .rest
  | @hand j t later next =>
    rw [intakeHanded sound next, handed]
    by_cases same : k = j
    · subst same
      rw [traySame]
      exact .hand next
    · rw [trayOther same]
      exact .rest
  | @finish j idle closing drained swept =>
    rw [Pipeline.drainedIntake, Queue.isEmptyIff] at drained
    rw [Pipeline.stageIntake] at closing
    rw [intakeFinished]
    by_cases same : k = j
    · subst same
      rw [if_pos rfl]
      exact .finish closing drained swept idle
    · rw [if_neg same]
      exact .rest
  | turn single took => exact turnShift single took k

def Idle (s : Scene) : Prop := ∀ k, (s.tray k).handing = []

theorem runSights (xs : List Sighting) : ∃ v, s.run? (xs.map .sight) = some v ∧
    v.agent = { s.agent with pipeline := xs.foldl Pipeline.observe s.pipeline } ∧
    ∀ k, (v.tray k).handing = (s.tray k).handing := by
  induction xs generalizing s with
  | nil => exact ⟨s, rfl, rfl, fun _ => rfl⟩
  | cons x xs ih =>
    obtain ⟨v, run, parts, handing⟩ := ih (s := { s.put (s.pipeline.observe x) with tray := s.noted x })
    refine ⟨v, run, parts, fun k => (handing k).trans ?_⟩
    dsimp only [noted]
    cases x.for? k <;> rfl

theorem runHands {k : Kind} {ts : List Tree} (handing : (s.tray k).handing = ts)
    (own : ∀ t ∈ ts, t.system = true ∧ t.discardable = false) :
    ∃ v, s.run? (List.replicate ts.length (.hand k)) = some v ∧
      v.agent = { s.agent with pipeline := s.pipeline.dispatchAll ts } ∧
      ∀ j, (v.tray j).handing = if j = k then [] else (s.tray j).handing := by
  induction ts generalizing s with
  | nil =>
    refine ⟨s, rfl, rfl, fun j => ?_⟩
    split
    · rename_i same
      rw [same, handing]
    · rfl
  | cons t ts ih =>
    have first : s.step? (.hand k) = some (s.handed k t ts) := by simp only [step?, handing]
    obtain ⟨v, run, parts, rest⟩ := ih (s := s.handed k t ts) (by rw [handed, traySame])
      fun other member => own other (List.mem_cons_of_mem t member)
    refine ⟨v, runCons first run, parts, fun j => (rest j).trans ?_⟩
    by_cases same : j = k
    · rw [if_pos same, if_pos same]
    · rw [if_neg same, if_neg same, handed, trayOther same]
      rfl

theorem runDispatch (s : Scene) (t : Tree) : ∃ ms v, s.run? ms = some v ∧
    v.agent = { s.agent with pipeline := s.pipeline.dispatch t } ∧
    ∀ k, (v.tray k).handing = (s.tray k).handing := by
  have sampled : ∃ ms, s.run? ms = some (s.put { s.pipeline with sampled := s.pipeline.asked t }) := by
    unfold Pipeline.asked
    cases t.discardable with
    | false => exact ⟨[], rfl⟩
    | true =>
      refine ⟨[.sample], congrArg (some ∘ s.put) ?_⟩
      exact Pipeline.sampleCounts s.pipeline
  obtain ⟨ms, first⟩ := sampled
  obtain ⟨v, second, parts, handing⟩ := runSights
    (s := s.put { s.pipeline with sampled := s.pipeline.asked t }) (s.pipeline.seen t)
  have shown := runAppend first second
  rw [Pipeline.observeAll] at parts
  rw [Pipeline.dispatchParts]
  cases s.pipeline.keeps t with
  | false => exact ⟨_, v, shown, parts, handing⟩
  | true =>
    refine ⟨_, v.put (v.pipeline.offer t), runAppend shown (runOne (m := .offer t) rfl), ?_, handing⟩
    simp only [put, pipeline, Pipeline.offer, parts, if_true]

theorem runFlush {k : Kind} (idle : s.Idle) (due : s.gathers k = true) (stamp : Stamp) :
    ∃ ms v, s.run? ms = some v ∧ v.Idle ∧
      v.agent = { s.agent with pipeline := (s.pipeline.flushOf stamp k).2 } := by
  have own := fun t member => Pipeline.summariesOwn stamp s.pipeline k t member
  have first : s.step? (.gather k stamp) = some (s.gathered k stamp) := if_pos due
  obtain ⟨v, run, parts, rest⟩ := runHands (s := s.gathered k stamp) (by rw [gathered, traySame])
    fun t member => ⟨(own t member).1, (own t member).2.1⟩
  refine ⟨.gather k stamp :: _, v, runCons first run, fun j => ?_, parts.trans ?_⟩
  · rw [rest j]
    split
    · rfl
    · rename_i other
      rw [gathered, trayOther other]
      exact idle j
  · cases k <;> rfl

theorem turnRun {t : Turn} {a : Agent} (idle : s.Idle) (taken : s.agent.step? t = some a) :
    ∃ ms v, s.run? ms = some v ∧ v.Idle ∧ v.agent = a := by
  have lone : s.single t = true → ∃ ms v, s.run? ms = some v ∧ v.Idle ∧ v.agent = a :=
    fun single => ⟨[.turn t], { s with agent := a }, runOne (stepTurn single taken), idle, rfl⟩
  cases stepTurned taken with
  | dispatch t =>
    obtain ⟨ms, v, run, parts, handing⟩ := runDispatch s t
    exact ⟨ms, v, run, fun k => (handing k).trans (idle k), parts⟩
  | @tick k stamp running =>
    exact runFlush idle (by simp [gathers, idle k, pipeline, running]) stamp
  | @finishAggregator k stamp closing drained =>
    obtain ⟨ms, v, run, rest, parts⟩ := runFlush (k := k) idle
      (by simp [gathers, idle k, pipeline, closing, drained]) stamp
    have ends : v.finishes k = true := by
      have swept : (v.intake k).table = [] := by
        rw [intake, pipeline, parts, Pipeline.flushParts]
        cases k <;> rfl
      have stage : v.pipeline.stage k = .closing ∧ v.pipeline.drained k = true := by
        rw [pipeline, parts, Pipeline.flushParts]
        cases k <;> exact ⟨closing, drained⟩
      simp [finishes, rest k, stage, swept]
    have last : v.step? (.finish k) = some (v.put (v.pipeline.setStage .finished k)) := if_pos ends
    refine ⟨_, _, runAppend run (runOne last), rest, ?_⟩
    simp only [put, pipeline, parts]
  | absorb | closeAggregator => exact lone (List.isEmpty_iff.mpr (idle _))
  | _ => exact lone rfl

theorem reachedScene {start a : Agent} {l : Agent.Ledger} (reached : Agent.Reached start a l) :
    ∃ ms v, run? { agent := start } ms = some v ∧ v.Idle ∧ v.agent = a := by
  induction reached with
  | start => exact ⟨[], _, rfl, fun _ => rfl, rfl⟩
  | turn _ _ taken ih =>
    obtain ⟨ms, v, run, idle, rfl⟩ := ih
    obtain ⟨ns, u, next, still, same⟩ := turnRun idle taken
    exact ⟨ms ++ ns, u, runAppend run next, still, same⟩

end Scene

end TraceRelay
