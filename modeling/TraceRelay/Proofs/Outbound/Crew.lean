import TraceRelay.Outbound.Supervisor
import TraceRelay.Proofs.Outbound.Custody
/-! The supervisor with its workers. Its turns, the events of each worker, changes of the routing table and the
request to shut down come in any order. A generation is all that is hired from one reading of the table;
it is told to stop as a whole, and the table is read again only after every worker of it is gone. -/
namespace TraceRelay

namespace Routing

theorem applyChanges (r : Routing) (u : Update) :
    ((r.apply u).version = r.version ∧ (r.apply u).table = r.table) ∨ (r.apply u).version = r.version + 1 := by
  cases u with
  | routers value =>
    by_cases changes : r.changes value
    · exact .inr (by simp [apply, updateRouters, changes])
    · exact .inl (by simp [apply, updateRouters, changes])
  | sample value =>
    refine .inl ?_
    simp only [apply, updateSample]
    split
    · split <;> exact ⟨rfl, rfl⟩
    · exact ⟨rfl, rfl⟩
  | block value => exact .inl ⟨rfl, rfl⟩

end Routing

namespace Outbound

structure Hand where
  generation : Nat
  post : Post
  worker : Worker := {}

namespace Hand

def place (h : Hand) : Nat × Post := (h.generation, h.post)

def gone (h : Hand) : Bool := h.worker.phase = .finished

end Hand

structure Crew where
  supervisor : Supervisor := {}
  routing : Routing
  asked : Bool := false
  generation : Nat := 0
  /-- The table as it was read for this generation. -/
  table : List String := []
  vacant : List Post := []
  hands : List Hand := []
  halted : List Nat := []

namespace Crew

inductive Move
  | update (u : Routing.Update)
  | ask
  | turn (t : Turn)
  | hire
  | halt
  | work (i now : Nat) (e : Event)

def present (c : Crew) : List Hand := c.hands.filter (·.generation = c.generation)

/-- A worker hears of the stop of its own generation only. Whether the whole sender ends it asks the
supervisor. -/
def hears (c : Crew) (h : Hand) : Event → Bool
  | .cancelled shutdown => decide (h.generation ∈ c.halted) && shutdown == c.supervisor.closing
  | .closed shutdown => shutdown == c.supervisor.closing
  | _ => true

def turn? (count : Lane → Nat) (c : Crew) (s : Supervisor) : Turn → Option Crew
  | .read => some { c with
      supervisor := s
      generation := c.generation + 1
      table := c.routing.table
      vacant := posts count c.routing.table }
  | .start => if c.vacant = [] then some { c with supervisor := s } else none
  | .wake | .shutdown => some { c with supervisor := s }
  | .joined =>
    if c.generation ∈ c.halted ∧ c.present.all Hand.gone then some { c with supervisor := s } else none

def step? (count : Lane → Nat) (c : Crew) : Move → Option Crew
  | .update u => some { c with routing := c.routing.apply u }
  | .ask => some { c with asked := true }
  | .turn t => (c.supervisor.step? c.routing c.asked t).bind (c.turn? count · t)
  | .hire =>
    match c.supervisor.stage, c.vacant with
    | .starting _, p :: ps => some { c with vacant := ps, hands := c.hands ++ [⟨c.generation, p, {}⟩] }
    | _, _ => none
  | .halt =>
    match c.supervisor.stage with
    | .stopping _ => some { c with halted := c.generation :: c.halted }
    | _ => none
  | .work i now e => do
    let h ← c.hands[i]?
    let w ← h.worker.step? now e
    if c.hears h e then some { c with hands := c.hands.set i { h with worker := w } } else none

def run? (count : Lane → Nat) (c : Crew) : List Move → Option Crew
  | [] => some c
  | m :: ms => (c.step? count m).bind (run? count · ms)

inductive Changed (count : Lane → Nat) (c : Crew) : Crew → Prop
  | updated (u : Routing.Update) : Changed count c { c with routing := c.routing.apply u }
  | asked : Changed count c { c with asked := true }
  | read (stage : c.supervisor.stage = .reading) : Changed count c { c with
      supervisor := { c.supervisor with stage := .starting c.routing.table, seen := c.routing.version }
      generation := c.generation + 1
      table := c.routing.table
      vacant := posts count c.routing.table }
  | hired {table p ps} (stage : c.supervisor.stage = .starting table) (vacant : c.vacant = p :: ps) :
      Changed count c { c with vacant := ps, hands := c.hands ++ [⟨c.generation, p, {}⟩] }
  | started {table} (stage : c.supervisor.stage = .starting table) (full : c.vacant = []) :
      Changed count c { c with supervisor := { c.supervisor with stage := .waiting, pool := some table } }
  | woken (stage : c.supervisor.stage = .waiting) (unseen : c.supervisor.seen ≠ c.routing.version) :
      Changed count c { c with
        supervisor := { c.supervisor with stage := .stopping true, seen := c.routing.version } }
  | closed (stage : c.supervisor.stage = .waiting) (asked : c.asked = true) :
      Changed count c { c with supervisor := { c.supervisor with stage := .stopping false, closing := true } }
  | halted {restart} (stage : c.supervisor.stage = .stopping restart) :
      Changed count c { c with halted := c.generation :: c.halted }
  | worked {i now e h w} (held : c.hands[i]? = some h) (step : h.worker.step? now e = some w) :
      Changed count c { c with hands := c.hands.set i { h with worker := w } }
  | joined {restart} (stage : c.supervisor.stage = .stopping restart) (told : c.generation ∈ c.halted)
      (gone : ∀ h ∈ c.present, h.gone = true) : Changed count c { c with
        supervisor := { c.supervisor with stage := if restart then .reading else .finished, pool := none } }

variable {count : Lane → Nat} {c d : Crew} {m : Move}

theorem turnChanged {t : Turn} (step : c.step? count (.turn t) = some d) : Changed count c d := by
  obtain ⟨s, taken, turned⟩ := Option.bind_eq_some_iff.mp step
  cases t with
  | read =>
    simp only [Supervisor.step?, Option.ite_none_right_eq_some] at taken
    obtain ⟨stage, same⟩ := taken
    cases same
    cases turned
    exact .read stage
  | start =>
    simp only [Supervisor.step?] at taken
    simp only [turn?, Option.ite_none_right_eq_some] at turned
    obtain ⟨full, same⟩ := turned
    cases same
    split at taken <;> cases taken
    exact .started ‹_› full
  | wake =>
    simp only [Supervisor.step?, Option.ite_none_right_eq_some] at taken
    obtain ⟨⟨stage, unseen⟩, same⟩ := taken
    cases same
    cases turned
    exact .woken stage unseen
  | shutdown =>
    simp only [Supervisor.step?, Option.ite_none_right_eq_some] at taken
    obtain ⟨⟨stage, asked⟩, same⟩ := taken
    cases same
    cases turned
    exact .closed stage asked
  | joined =>
    simp only [Supervisor.step?] at taken
    simp only [turn?, Option.ite_none_right_eq_some, List.all_eq_true] at turned
    obtain ⟨⟨told, gone⟩, same⟩ := turned
    cases same
    split at taken <;> cases taken
    exact .joined ‹_› told gone

theorem stepChanged (step : c.step? count m = some d) : Changed count c d := by
  cases m with
  | update u =>
    cases step
    exact .updated u
  | ask =>
    cases step
    exact .asked
  | turn t => exact turnChanged step
  | hire =>
    simp only [step?] at step
    split at step <;> cases step
    exact .hired ‹_› ‹_›
  | halt =>
    simp only [step?] at step
    split at step <;> cases step
    exact .halted ‹_›
  | work i now e =>
    obtain ⟨h, held, rest⟩ := Option.bind_eq_some_iff.mp step
    obtain ⟨w, taken, last⟩ := Option.bind_eq_some_iff.mp rest
    rw [Option.ite_none_right_eq_some] at last
    cases last.2
    exact .worked held taken

/-- The workers of a generation still work, and they work from the table as it is unless a change waits. -/
def Fresh (c : Crew) : Prop :=
  c.generation ∉ c.halted ∧ (c.supervisor.seen = c.routing.version → c.table = c.routing.table)

def Fits (c : Crew) : Stage → Prop
  | .reading => c.supervisor.closing = false ∧ c.vacant = [] ∧ ∀ h ∈ c.hands, h.gone = true
  | .starting table => c.supervisor.closing = false ∧ table = c.table ∧ c.Fresh
  | .waiting =>
    c.supervisor.closing = false ∧ c.vacant = [] ∧ c.supervisor.pool = some c.table ∧ c.Fresh
  | .stopping restart => c.supervisor.closing = !restart ∧ c.vacant = []
  | .finished => c.supervisor.closing = true ∧ c.vacant = [] ∧ ∀ h ∈ c.hands, h.gone = true

structure Staffed (count : Lane → Nat) (c : Crew) : Prop where
  fits : c.Fits c.supervisor.stage
  seen : c.supervisor.seen ≤ c.routing.version
  manned : c.present.map Hand.post ++ c.vacant = posts count c.table
  past : ∀ h ∈ c.hands, h.generation ≤ c.generation ∧ (h.generation < c.generation → h.gone = true)
  told : ∀ g ∈ c.halted, g ≤ c.generation

theorem staffedStart (count : Lane → Nat) (routing : Routing) : Staffed count { routing := routing } where
  fits := ⟨rfl, rfl, fun _ member => nomatch member⟩
  seen := Nat.zero_le _
  manned := rfl
  past _ member := nomatch member
  told _ member := nomatch member

theorem freshUpdate (fresh : Fresh c) (seen : c.supervisor.seen ≤ c.routing.version) (u : Routing.Update) :
    Fresh { c with routing := c.routing.apply u } := by
  refine ⟨fresh.1, fun same => ?_⟩
  dsimp only at same ⊢
  rcases c.routing.applyChanges u with ⟨version, table⟩ | later
  · rw [table]
    exact fresh.2 (same.trans version)
  · omega

theorem staffedUpdate (staffed : Staffed count c) (u : Routing.Update) :
    Staffed count { c with routing := c.routing.apply u } := by
  obtain ⟨fits, seen, manned, past, told⟩ := staffed
  refine ⟨?_, ?_, manned, past, told⟩
  · dsimp only
    cases stage : c.supervisor.stage with
    | reading | stopping restart | finished => rwa [stage] at fits
    | starting table =>
      rw [stage] at fits
      obtain ⟨live, read, fresh⟩ := fits
      exact ⟨live, read, freshUpdate fresh seen u⟩
    | waiting =>
      rw [stage] at fits
      obtain ⟨live, full, pool, fresh⟩ := fits
      exact ⟨live, full, pool, freshUpdate fresh seen u⟩
  · dsimp only
    rcases c.routing.applyChanges u with ⟨version, -⟩ | later <;> omega

theorem presentPlaces (c : Crew) :
    c.present.map Hand.post = ((c.hands.map Hand.place).filter (·.1 = c.generation)).map (·.2) := by
  rw [List.filter_map, List.map_map]
  rfl

theorem placesSet {hands : List Hand} {i : Nat} {h : Hand} (held : hands[i]? = some h) (w : Worker) :
    (hands.set i { h with worker := w }).map Hand.place = hands.map Hand.place := by
  induction hands generalizing i with
  | nil => cases held
  | cons k ks ih =>
    cases i with
    | zero =>
      cases held
      rfl
    | succ i => exact congrArg (k.place :: ·) (ih held)

theorem workedAlive {now : Nat} {e : Event} {h : Hand} {w : Worker}
    (step : h.worker.step? now e = some w) : h.gone ≠ true := by
  intro gone
  cases (Worker.finishedStays (of_decide_eq_true gone) now e).symm.trans step

theorem staffedWorked (staffed : Staffed count c) {i now : Nat} {e : Event} {h : Hand} {w : Worker}
    (held : c.hands[i]? = some h) (step : h.worker.step? now e = some w) :
    Staffed count { c with hands := c.hands.set i { h with worker := w } } := by
  have member := List.mem_of_getElem? held
  have alive := workedAlive step
  obtain ⟨fits, seen, manned, past, told⟩ := staffed
  refine ⟨?_, seen, ?_, fun k inside => ?_, told⟩
  · dsimp only
    cases stage : c.supervisor.stage with
    | reading | finished =>
      rw [stage] at fits
      exact absurd (fits.2.2 h member) alive
    | starting table | waiting | stopping restart => rwa [stage] at fits
  · rw [presentPlaces] at manned ⊢
    dsimp only
    rw [placesSet held]
    exact manned
  · rcases List.mem_or_eq_of_mem_set inside with old | rfl
    · exact past k old
    · exact ⟨(past h member).1, fun earlier => absurd ((past h member).2 earlier) alive⟩

theorem staffedRead (staffed : Staffed count c) (stage : c.supervisor.stage = .reading) : Staffed count { c with
    supervisor := { c.supervisor with stage := .starting c.routing.table, seen := c.routing.version }
    generation := c.generation + 1
    table := c.routing.table
    vacant := posts count c.routing.table } := by
  obtain ⟨fits, seen, manned, past, told⟩ := staffed
  rw [stage] at fits
  obtain ⟨live, -, gone⟩ := fits
  refine ⟨⟨live, rfl, fun again => ?_, fun _ => rfl⟩, Nat.le_refl _, ?_, fun h member => ?_, fun g old => ?_⟩
  · exact absurd (told _ again) (Nat.not_succ_le_self _)
  · have none : c.hands.filter (·.generation = c.generation + 1) = [] :=
      List.filter_eq_nil_iff.mpr fun h member => by
        have before := (past h member).1
        simp only [decide_eq_true_eq]
        omega
    rw [present, none]
    rfl
  · exact ⟨Nat.le_succ_of_le (past h member).1, fun _ => gone h member⟩
  · exact Nat.le_succ_of_le (told g old)

theorem staffedHired (staffed : Staffed count c) {table : List String} {p : Post} {ps : List Post}
    (stage : c.supervisor.stage = .starting table) (vacant : c.vacant = p :: ps) :
    Staffed count { c with vacant := ps, hands := c.hands ++ [⟨c.generation, p, {}⟩] } := by
  obtain ⟨fits, seen, manned, past, told⟩ := staffed
  rw [stage] at fits
  refine ⟨?_, seen, ?_, ?_, told⟩
  · dsimp only
    rw [stage]
    exact fits
  · rw [← manned, vacant, present, present, List.filter_append, List.map_append]
    simp
  · refine List.forall_mem_append.mpr ⟨past, List.forall_mem_singleton.mpr ⟨Nat.le_refl _, fun earlier => ?_⟩⟩
    exact absurd earlier (Nat.lt_irrefl _)

theorem staffedJoined (staffed : Staffed count c) {restart : Bool} (stage : c.supervisor.stage = .stopping restart)
    (gone : ∀ h ∈ c.present, h.gone = true) : Staffed count { c with
      supervisor := { c.supervisor with stage := if restart then .reading else .finished, pool := none } } := by
  obtain ⟨fits, seen, manned, past, told⟩ := staffed
  rw [stage] at fits
  obtain ⟨closing, full⟩ := fits
  have allGone : ∀ h ∈ c.hands, h.gone = true := by
    intro h member
    rcases Nat.lt_or_eq_of_le (past h member).1 with earlier | same
    · exact (past h member).2 earlier
    · exact gone h (List.mem_filter.mpr ⟨member, decide_eq_true same⟩)
  refine ⟨?_, seen, manned, past, told⟩
  cases restart with
  | true => exact ⟨closing, full, allGone⟩
  | false => exact ⟨closing, full, allGone⟩

theorem staffedChanged (staffed : Staffed count c) (moved : Changed count c d) : Staffed count d := by
  obtain ⟨fits, seen, manned, past, told⟩ := id staffed
  cases moved with
  | updated u => exact staffedUpdate staffed u
  | asked => exact ⟨fits, seen, manned, past, told⟩
  | read stage => exact staffedRead staffed stage
  | hired stage vacant => exact staffedHired staffed stage vacant
  | started stage full =>
    rw [stage] at fits
    obtain ⟨live, rfl, fresh⟩ := fits
    exact ⟨⟨live, full, rfl, fresh⟩, seen, manned, past, told⟩
  | woken stage unseen =>
    rw [stage] at fits
    obtain ⟨live, full, -⟩ := fits
    exact ⟨⟨live, full⟩, Nat.le_refl _, manned, past, told⟩
  | closed stage asked =>
    rw [stage] at fits
    obtain ⟨-, full, -⟩ := fits
    exact ⟨⟨rfl, full⟩, seen, manned, past, told⟩
  | halted stage =>
    refine ⟨?_, seen, manned, past, List.forall_mem_cons.mpr ⟨Nat.le_refl _, told⟩⟩
    rw [stage] at fits
    dsimp only
    rw [stage]
    exact fits
  | worked held step => exact staffedWorked staffed held step
  | joined stage told gone => exact staffedJoined staffed stage gone

theorem staffedRun {moves : List Move} (staffed : Staffed count c) (run : c.run? count moves = some d) :
    Staffed count d := by
  induction moves generalizing c with
  | nil =>
    cases run
    exact staffed
  | cons m moves ih =>
    obtain ⟨e, step, rest⟩ := Option.bind_eq_some_iff.mp run
    exact ih (staffedChanged staffed (stepChanged step)) rest

end Crew

end Outbound

end TraceRelay
