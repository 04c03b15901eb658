import Mathlib.Algebra.GroupWithZero.Nat
import TraceRelay.Proofs.Outbound.Crew
/-! Which table the workers work from. As long as the table stays, at most one more generation begins, and it is
hired from the table as it is; until the sender closes one always can. Changes that fall into a start or a
stop are not told apart, and the last of them decides. -/
namespace TraceRelay.Outbound

/-- How far a worker that hears of the stop is from its end when nothing is queued and nobody answers. -/
def Phase.retreat : Phase → Nat
  | .finished => 0
  | .lastDialing => 1
  | .draining | .drainDialing => 2
  | .receiving => 3
  | .waiting _ => 4
  | .dialing _ => 5

def Event.Parting (shutdown : Bool) (e : Event) : Prop :=
  e = .cancelled shutdown ∨ e = .nothingQueued ∨ e = .refused

namespace Worker

theorem lastFlushRetreats (w : Worker) (now : Nat) : (w.lastFlush now).phase.retreat ≤ 1 := by
  rcases flushTurns w now .lastDialing .finished with turned | turned <;> rw [lastFlush, turned] <;> decide

theorem retreats {w : Worker} (busy : w.phase ≠ .finished) (shutdown : Bool) (now : Nat) :
    ∃ e v, e.Parting shutdown ∧ w.step? now e = some v ∧ v.phase.retreat < w.phase.retreat := by
  have last := lastFlushRetreats w now
  cases phase : w.phase with
  | receiving =>
    refine ⟨.cancelled shutdown, { w with stopSeen := true }.leave shutdown now, .inl rfl, ?_, ?_⟩
    · simp only [step?, phase]
    · cases shutdown with
      | true => exact Nat.lt_succ_self 2
      | false => exact Nat.lt_of_le_of_lt (lastFlushRetreats _ now) (by decide)
  | dialing delay =>
    refine ⟨.refused, { w with phase := .waiting delay }, .inr (.inr rfl), ?_, Nat.lt_succ_self 4⟩
    simp only [step?, phase]
  | waiting delay =>
    refine ⟨.cancelled shutdown, { w with stopSeen := true, phase := .receiving }, .inl rfl, ?_, Nat.lt_succ_self 3⟩
    simp only [step?, phase]
  | draining =>
    refine ⟨.nothingQueued, w.lastFlush now, .inr (.inl rfl), ?_, Nat.lt_succ_of_le last⟩
    simp only [step?, phase, if_true]
  | drainDialing =>
    refine ⟨.refused, w.lastFlush now, .inr (.inr rfl), ?_, Nat.lt_succ_of_le last⟩
    simp only [step?, phase]
  | lastDialing =>
    refine ⟨.refused, { w with phase := .finished }, .inr (.inr rfl), ?_, Nat.lt_succ_self 0⟩
    simp only [step?, phase]
  | finished => exact absurd phase busy

end Worker

namespace Crew

variable {count : Lane → Nat} {c d e : Crew} {m : Move} {moves : List Move}

/-! One more generation at most -/

/-- Generations that are still due while the table stays as it is. -/
def owed (c : Crew) : Nat :=
  match c.supervisor.stage with
  | .reading | .stopping true => 1
  | .starting _ | .waiting => if c.supervisor.seen = c.routing.version then 0 else 1
  | .stopping false | .finished => 0

theorem owedLe (c : Crew) : c.owed ≤ 1 := by
  unfold owed
  cases c.supervisor.stage with
  | reading => exact Nat.le_refl 1
  | starting | waiting =>
    dsimp only
    split
    · exact Nat.zero_le 1
    · exact Nat.le_refl 1
  | stopping restart =>
    cases restart with
    | true => exact Nat.le_refl 1
    | false => exact Nat.zero_le 1
  | finished => exact Nat.zero_le 1

/-- What a run cannot do while the table stays. -/
structure Frugal (c d : Crew) : Prop where
  later : c.routing.version ≤ d.routing.version
  table : d.routing.version = c.routing.version → d.routing.table = c.routing.table
  bounded : d.routing.version = c.routing.version → d.generation + d.owed ≤ c.generation + c.owed
  rebuilt : d.routing.version = c.routing.version →
    d.generation = c.generation ∧ d.table = c.table ∨ d.table = d.routing.table

theorem frugalSame (routing : d.routing = c.routing) (generation : d.generation = c.generation)
    (table : d.table = c.table) (owes : d.owed ≤ c.owed) : Frugal c d :=
  ⟨Nat.le_of_eq (by rw [routing]), fun _ => by rw [routing], fun _ => by omega,
    fun _ => .inl ⟨generation, table⟩⟩

theorem frugalChanged (moved : Changed count c d) : Frugal c d := by
  cases moved with
  | updated u =>
    rcases c.routing.applyChanges u with ⟨version, table⟩ | later
    · have owes : owed { c with routing := c.routing.apply u } = c.owed := by simp only [owed, version]
      exact ⟨Nat.le_of_eq version.symm, fun _ => table,
        fun _ => Nat.add_le_add_left (Nat.le_of_eq owes) c.generation, fun _ => .inl ⟨rfl, rfl⟩⟩
    · have other : (c.routing.apply u).version ≠ c.routing.version := by omega
      exact ⟨by dsimp only; omega, fun same => absurd same other, fun same => absurd same other,
        fun same => absurd same other⟩
  | asked | worked | hired | halted => exact frugalSame rfl rfl rfl (Nat.le_refl _)
  | read stage =>
    refine ⟨Nat.le_refl _, fun _ => rfl, fun _ => ?_, fun _ => .inr rfl⟩
    simp [owed, stage]
  | started stage full => exact frugalSame rfl rfl rfl (by simp [owed, stage])
  | woken stage unseen => exact frugalSame rfl rfl rfl (by simp [owed, stage, unseen])
  | closed stage asked => exact frugalSame rfl rfl rfl (Nat.zero_le _)
  | @joined restart stage told gone => exact frugalSame rfl rfl rfl (by cases restart <;> simp [owed, stage])

theorem frugalThen (first : Frugal c d) (onward : Frugal d e) : Frugal c e := by
  have before := first.later
  have after := onward.later
  refine ⟨Nat.le_trans before after, fun same => ?_, fun same => ?_, fun same => ?_⟩
  · rw [onward.table (by omega), first.table (by omega)]
  · exact Nat.le_trans (onward.bounded (by omega)) (first.bounded (by omega))
  · have still := onward.table (by omega)
    rcases onward.rebuilt (by omega) with ⟨generation, table⟩ | rebuilt
    · rw [generation, table, still]
      exact first.rebuilt (by omega)
    · exact .inr rebuilt

theorem frugalRun (run : c.run? count moves = some d) : Frugal c d := by
  induction moves generalizing c with
  | nil =>
    cases run
    exact frugalSame rfl rfl rfl (Nat.le_refl _)
  | cons m moves ih =>
    obtain ⟨e, step, rest⟩ := Option.bind_eq_some_iff.mp run
    exact frugalThen (frugalChanged (stepChanged step)) (ih rest)

/-! No generation after the end -/

/-- The supervisor stops for good: its stage does not lead back to the table. -/
def Ending (c : Crew) : Prop := c.supervisor.stage = .stopping false ∨ c.supervisor.stage = .finished

theorem endingChanged (ending : Ending c) (moved : Changed count c d) :
    Ending d ∧ d.generation = c.generation ∧ d.hands.map Hand.place = c.hands.map Hand.place := by
  cases moved with
  | updated | asked | halted => exact ⟨ending, rfl, rfl⟩
  | worked held step => exact ⟨ending, rfl, placesSet held _⟩
  | read stage | hired stage | started stage | woken stage | closed stage =>
    rcases ending with last | last <;> cases stage.symm.trans last
  | @joined restart stage =>
    refine ⟨.inr ?_, rfl, rfl⟩
    rcases ending with last | last <;> cases stage.symm.trans last
    rfl

theorem endingRun (ending : Ending c) (run : c.run? count moves = some d) :
    d.generation = c.generation ∧ d.hands.map Hand.place = c.hands.map Hand.place := by
  induction moves generalizing c with
  | nil =>
    cases run
    exact ⟨rfl, rfl⟩
  | cons m moves ih =>
    obtain ⟨e, step, rest⟩ := Option.bind_eq_some_iff.mp run
    obtain ⟨still, generation, places⟩ := endingChanged ending (stepChanged step)
    obtain ⟨last, all⟩ := ih still rest
    exact ⟨last.trans generation, all.trans places⟩

/-! A way to the present table -/

def Leads (count : Lane → Nat) (c d : Crew) : Prop := ∃ moves, c.run? count moves = some d

theorem leadsStep (step : c.step? count m = some d) (onward : Leads count d e) : Leads count c e := by
  obtain ⟨moves, run⟩ := onward
  refine ⟨m :: moves, ?_⟩
  rw [run?, step]
  exact run

theorem leadsThen (first : Leads count c d) (onward : Leads count d e) : Leads count c e := by
  obtain ⟨moves, run⟩ := first
  induction moves generalizing c with
  | nil =>
    cases run
    exact onward
  | cons m moves ih =>
    obtain ⟨b, step, rest⟩ := Option.bind_eq_some_iff.mp run
    exact leadsStep step (ih rest)

theorem staffedLeads (staffed : Staffed count c) (leads : Leads count c d) : Staffed count d := by
  obtain ⟨moves, run⟩ := leads
  exact staffedRun staffed run

/-- All posts are filled and the supervisor waits; what it has seen stays what it was. -/
theorem opens (count : Lane → Nat) {table : List String} (stage : c.supervisor.stage = .starting table) :
    ∃ d, Leads count c d ∧ d.supervisor.stage = .waiting ∧ d.routing = c.routing ∧
      d.supervisor.seen = c.supervisor.seen := by
  induction vacant : c.vacant generalizing c with
  | nil =>
    have start : c.step? count (.turn .start) =
        some { c with supervisor := { c.supervisor with stage := .waiting, pool := some table } } := by
      simp [step?, Supervisor.step?, turn?, stage, vacant]
    exact ⟨_, leadsStep start ⟨[], rfl⟩, rfl, rfl, rfl⟩
  | cons p ps ih =>
    let manned : Crew := { c with vacant := ps, hands := c.hands ++ [⟨c.generation, p, {}⟩] }
    have hire : c.step? count .hire = some manned := by simp only [step?, stage, vacant, manned]
    obtain ⟨d, leads, rest⟩ := ih (c := manned) stage rfl
    exact ⟨d, leadsStep hire leads, rest⟩

def Settled (c : Crew) : Prop := c.supervisor.stage = .waiting ∧ c.supervisor.seen = c.routing.version

theorem rebuilds (count : Lane → Nat) (stage : c.supervisor.stage = .reading) :
    ∃ d, Leads count c d ∧ d.Settled ∧ d.routing = c.routing := by
  let begun : Crew := { c with
    supervisor := { c.supervisor with stage := .starting c.routing.table, seen := c.routing.version }
    generation := c.generation + 1
    table := c.routing.table
    vacant := posts count c.routing.table }
  have read : c.step? count (.turn .read) = some begun := by
    simp [step?, Supervisor.step?, turn?, stage, begun]
  obtain ⟨d, leads, waiting, routing, seen⟩ := opens count (c := begun) rfl
  exact ⟨d, leadsStep read leads, ⟨waiting, by rw [seen, routing]⟩, routing⟩

theorem sumFalls {hands : List Hand} {i : Nat} {h k : Hand} (held : hands[i]? = some h)
    (less : k.worker.phase.retreat < h.worker.phase.retreat) :
    ((hands.set i k).map (·.worker.phase.retreat)).sum < (hands.map (·.worker.phase.retreat)).sum := by
  induction hands generalizing i with
  | nil => cases held
  | cons a as ih =>
    cases i with
    | zero =>
      cases held
      simpa using less
    | succ i =>
      have rest := ih held
      simpa using rest

theorem hearsParting {h : Hand} {e : Event} (told : h.generation ∈ c.halted)
    (parting : e.Parting c.supervisor.closing) : c.hears h e = true := by
  rcases parting with rfl | rfl | rfl
  · simp [hears, told]
  · rfl
  · rfl

theorem dismisses (count : Lane → Nat) (told : c.generation ∈ c.halted)
    (past : ∀ h ∈ c.hands, h.generation ≠ c.generation → h.gone = true) :
    ∃ hands, Leads count c { c with hands := hands } ∧ ∀ h ∈ hands, h.gone = true := by
  induction left : (c.hands.map (·.worker.phase.retreat)).sum using Nat.strongRecOn generalizing c with
  | _ n ih =>
    by_cases all : ∀ h ∈ c.hands, h.gone = true
    · exact ⟨c.hands, ⟨[], rfl⟩, all⟩
    · obtain ⟨h, member, alive⟩ : ∃ h ∈ c.hands, h.gone ≠ true := by simpa using all
      obtain ⟨i, held⟩ := List.mem_iff_getElem?.mp member
      have own : h.generation = c.generation :=
        Decidable.byContradiction fun other => alive (past h member other)
      have busy : h.worker.phase ≠ .finished := fun finished => alive (decide_eq_true finished)
      obtain ⟨e, w, parting, step, less⟩ := Worker.retreats busy c.supervisor.closing 0
      have heard : c.hears h e = true := hearsParting (own ▸ told) parting
      let nearer : Crew := { c with hands := c.hands.set i { h with worker := w } }
      have work : c.step? count (.work i 0 e) = some nearer := by simp [step?, held, step, heard, nearer]
      have still : ∀ k ∈ nearer.hands, k.generation ≠ c.generation → k.gone = true := by
        intro k inside other
        rcases List.mem_or_eq_of_mem_set inside with old | rfl
        · exact past k old other
        · exact absurd own other
      obtain ⟨hands, leads, gone⟩ := ih _ (left ▸ sumFalls held less) (c := nearer) told still rfl
      exact ⟨hands, leadsStep work leads, gone⟩

theorem joins (count : Lane → Nat) {restart : Bool} (stage : c.supervisor.stage = .stopping restart)
    (told : c.generation ∈ c.halted) (gone : ∀ h ∈ c.hands, h.gone = true) :
    c.step? count (.turn .joined) = some { c with
      supervisor := { c.supervisor with stage := if restart then .reading else .finished, pool := none } } := by
  have here : c.present.all Hand.gone = true :=
    List.all_eq_true.mpr fun h member => gone h (List.mem_filter.mp member).1
  simp [step?, Supervisor.step?, turn?, stage, told, here]

theorem restarts (staffed : Staffed count c) (stage : c.supervisor.stage = .stopping true) :
    ∃ d, Leads count c d ∧ d.Settled ∧ d.routing = c.routing := by
  let told := { c with halted := c.generation :: c.halted }
  have halt : c.step? count .halt = some told := by simp only [step?, stage, told]
  obtain ⟨hands, dismissed, gone⟩ := dismisses count (c := told) List.mem_cons_self
    fun h member other => (staffed.past h member).2 (Nat.lt_of_le_of_ne (staffed.past h member).1 other)
  have joined := joins count (c := { told with hands := hands }) stage List.mem_cons_self gone
  obtain ⟨d, leads, settled, routing⟩ := rebuilds count (c := { told with
    hands := hands
    supervisor := { c.supervisor with stage := .reading, pool := none } }) rfl
  exact ⟨d, leadsStep halt (leadsThen dismissed (leadsStep joined leads)), settled, routing⟩

theorem awaits (staffed : Staffed count c) (stage : c.supervisor.stage = .waiting) :
    ∃ d, Leads count c d ∧ d.Settled ∧ d.routing = c.routing := by
  by_cases seen : c.supervisor.seen = c.routing.version
  · exact ⟨c, ⟨[], rfl⟩, ⟨stage, seen⟩, rfl⟩
  · have wake : c.step? count (.turn .wake) = some { c with
        supervisor := { c.supervisor with stage := .stopping true, seen := c.routing.version } } := by
      simp [step?, Supervisor.step?, turn?, stage, seen]
    obtain ⟨d, leads, rest⟩ := restarts (staffedChanged staffed (stepChanged wake)) rfl
    exact ⟨d, leadsStep wake leads, rest⟩

theorem settles (staffed : Staffed count c) (live : c.supervisor.closing = false) :
    ∃ d, Leads count c d ∧ d.Settled ∧ d.routing = c.routing := by
  have fits := staffed.fits
  cases stage : c.supervisor.stage with
  | reading => exact rebuilds count stage
  | starting table =>
    obtain ⟨d, leads, waiting, routing, -⟩ := opens count stage
    obtain ⟨e, onward, settled, same⟩ := awaits (staffedLeads staffed leads) waiting
    exact ⟨e, leadsThen leads onward, settled, same.trans routing⟩
  | waiting => exact awaits staffed stage
  | stopping restart =>
    rw [stage] at fits
    cases restart with
    | true => exact restarts staffed stage
    | false => cases live.symm.trans fits.1
  | finished =>
    rw [stage] at fits
    cases live.symm.trans fits.1

structure Timely (count : Lane → Nat) (c : Crew) : Prop where
  current : c.Settled → c.supervisor.pool = some c.routing.table ∧
    c.present.map Hand.post = posts count c.routing.table ∧ c.generation ∉ c.halted
  roused : c.supervisor.stage = .waiting → c.supervisor.seen ≠ c.routing.version →
    ∃ d, c.step? count (.turn .wake) = some d
  manned : c.present.map Hand.post ++ c.vacant = posts count c.table
  coalesced : ∀ moves d, c.run? count moves = some d → d.routing.version = c.routing.version →
    d.generation ≤ c.generation + 1 ∧ (c.generation < d.generation → d.table = c.routing.table)
  settles : c.supervisor.closing = false → ∃ moves d, c.run? count moves = some d ∧ d.Settled ∧
    d.routing = c.routing
  apart : ∀ h ∈ c.hands, ∀ k ∈ c.hands, h.gone = false → k.gone = false → h.generation = k.generation
  ended : c.supervisor.closing = true → ∀ moves d, c.run? count moves = some d →
    d.generation = c.generation ∧ d.hands.map Hand.place = c.hands.map Hand.place

theorem staffedCurrent (staffed : Staffed count c) (settled : Settled c) :
    c.supervisor.pool = some c.routing.table ∧ c.present.map Hand.post = posts count c.routing.table ∧
      c.generation ∉ c.halted := by
  obtain ⟨stage, seen⟩ := settled
  have fits := staffed.fits
  rw [stage] at fits
  obtain ⟨-, full, pool, running, current⟩ := fits
  have manned := staffed.manned
  rw [full, List.append_nil] at manned
  rw [← current seen]
  exact ⟨pool, manned, running⟩

theorem staffedApart (staffed : Staffed count c) {h : Hand} (member : h ∈ c.hands) (alive : h.gone = false) :
    h.generation = c.generation := by
  obtain ⟨bound, past⟩ := staffed.past h member
  refine Nat.le_antisymm bound (Nat.not_lt.mp fun earlier => ?_)
  cases alive.symm.trans (past earlier)

theorem staffedEnding (staffed : Staffed count c) (closing : c.supervisor.closing = true) : Ending c := by
  have fits := staffed.fits
  cases stage : c.supervisor.stage with
  | reading | starting | waiting =>
    rw [stage] at fits
    cases closing.symm.trans fits.1
  | stopping restart =>
    rw [stage] at fits
    cases restart with
    | true => cases closing.symm.trans fits.1
    | false => exact .inl stage
  | finished => exact .inr stage

theorem neverStale {routing : Routing} (run : run? count { routing := routing } moves = some c) :
    Timely count c := by
  have staffed := staffedRun (staffedStart count routing) run
  refine ⟨staffedCurrent staffed, fun stage unseen => ?_, staffed.manned, fun more d onward same => ?_, fun live => ?_,
    fun h one k two first second => ?_, fun closing more d onward => endingRun (staffedEnding staffed closing) onward⟩
  · exact ⟨_, by simp [step?, Supervisor.step?, turn?, stage, unseen]; rfl⟩
  · have frugal := frugalRun onward
    have bounded := frugal.bounded same
    have once := c.owedLe
    refine ⟨by omega, fun more => ?_⟩
    rcases frugal.rebuilt same with ⟨generation, -⟩ | rebuilt
    · omega
    · rw [rebuilt, frugal.table same]
  · obtain ⟨d, ⟨more, onward⟩, settled, same⟩ := settles staffed live
    exact ⟨more, d, onward, settled, same⟩
  · rw [staffedApart staffed one first, staffedApart staffed two second]

/-- One change falls into the start of a pool and two into its stop; the pool after them has the last table. -/
theorem lastChangeServed :
    let count : Lane → Nat := fun _ => 1
    let start : Crew := { routing := { sample := 0.5, table := ["a:1"], version := 1 } }
    let moves : List Move := [.turn .read, .hire, .update (.routers "b:1"), .hire, .turn .start, .turn .wake,
      .update (.routers "c:1"), .halt, .work 0 0 (.cancelled false), .update (.routers "d:1"),
      .work 1 0 (.cancelled false), .turn .joined, .turn .read, .hire, .hire, .turn .start]
    ∃ c, start.run? count moves = some c ∧ Timely count c ∧ c.Settled ∧ c.generation = 2 ∧
      c.routing.table = ["d:1"] ∧ c.present.map Hand.post = [⟨.normal, "d:1", 0⟩, ⟨.high, "d:1", 0⟩] := by
  intro count start moves
  have view : (start.run? count moves).map (fun c => (c.supervisor.stage, c.supervisor.seen, c.routing.version,
      c.generation, c.routing.table)) = some (.waiting, 4, 4, 2, ["d:1"]) := by decide +kernel
  obtain ⟨c, run, shown⟩ := Option.map_eq_some_iff.mp view
  simp only [Prod.mk.injEq] at shown
  obtain ⟨stage, seen, version, generation, table⟩ := shown
  have timely := neverStale run
  have settled : c.Settled := ⟨stage, seen.trans version.symm⟩
  refine ⟨c, run, timely, settled, generation, table, ?_⟩
  rw [(timely.current settled).2.1, table]
  rfl

end Crew

end TraceRelay.Outbound
