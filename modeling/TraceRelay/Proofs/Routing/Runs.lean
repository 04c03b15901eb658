import TraceRelay.Routing.State
import TraceRelay.Proofs.Routing.Addresses
/-! Whole runs of updates. The table is the last list that held an address. A call that gives a list is answered
with whether the table differs after it, and these calls and no others wake whoever waits for a change. -/
namespace TraceRelay.Routing

def applyAll (r : Routing) (us : List Update) : Routing := us.foldl apply r

/-- What becomes of a new routing state. -/
def run (ratio : Float) (us : List Update) : Routing := applyAll { sample := ratio } us

/-- Whoever has seen this version of the table is woken. -/
def Wakes (seen : Nat) (r : Routing) : Prop := seen ≠ r.version

namespace Update

def list? : Update → Option (List String)
  | .routers value => if addresses value = [] then none else some (addresses value)
  | _ => none

def block? : Update → Option String
  | .block value => some value
  | _ => none

end Update

theorem listRead {u : Update} {list : List String} (given : u.list? = some list) :
    ∃ value, u = .routers value ∧ list = addresses value ∧ list ≠ [] := by
  cases u with
  | sample | block => cases given
  | routers value =>
    simp only [Update.list?] at given
    split at given <;> cases given
    exact ⟨value, rfl, rfl, ‹_›⟩

/-- An update that gives a list is answered; the others count as answered with no. -/
def answer (r : Routing) : Update → Bool
  | .routers value => r.changes value
  | _ => false

variable {r : Routing} {u : Update} {us : List Update}

theorem changesIff (r : Routing) (value : String) :
    r.changes value = true ↔ addresses value ≠ [] ∧ addresses value ≠ r.table := by
  simp [changes]

/-- Either the call is refused or repeats the table and nothing happens, or there is a new table. -/
theorem routersCases (r : Routing) (value : String) :
    (r.changes value = false ∧ r.updateRouters value = r) ∨
    (r.changes value = true ∧
      r.updateRouters value = { r with table := addresses value, version := r.version + 1 }) := by
  cases changed : r.changes value with
  | false => exact .inl ⟨rfl, if_neg (by simp [changed])⟩
  | true => exact .inr ⟨rfl, if_pos changed⟩

theorem sampleKeeps (r : Routing) (value : String) : (r.updateSample value).table = r.table ∧
    (r.updateSample value).version = r.version ∧ (r.updateSample value).enabled = r.enabled := by
  unfold updateSample
  split
  · split <;> exact ⟨rfl, rfl, rfl⟩
  · exact ⟨rfl, rfl, rfl⟩

theorem applyTable (r : Routing) (u : Update) : (r.apply u).table = u.list?.getD r.table := by
  cases u with
  | sample value => exact (sampleKeeps r value).1
  | block value => rfl
  | routers value =>
    rw [apply, Update.list?]
    rcases routersCases r value with ⟨kept, same⟩ | ⟨changed, new⟩
    · rw [same]
      split
      · rfl
      · have repeats := mt (changesIff r value).mpr (by simp [kept])
        exact Decidable.byContradiction fun other => repeats ⟨‹_›, fun equal => other equal.symm⟩
    · rw [new, if_neg ((changesIff r value).mp changed).1]
      rfl

theorem applyVersion (r : Routing) (u : Update) :
    (r.apply u).version = r.version + if r.answer u then 1 else 0 := by
  cases u with
  | sample value => exact (sampleKeeps r value).2.1
  | block value => rfl
  | routers value =>
    rw [apply, answer]
    rcases routersCases r value with ⟨kept, same⟩ | ⟨changed, new⟩
    · rw [same, kept]
      rfl
    · rw [new, changed]
      rfl

theorem applyEnabled (r : Routing) (u : Update) :
    (r.apply u).enabled = (u.block?.map fun value => decide (value = "false")).getD r.enabled := by
  cases u with
  | sample value => exact (sampleKeeps r value).2.2
  | block value => rfl
  | routers value =>
    rw [apply]
    rcases routersCases r value with ⟨-, same⟩ | ⟨-, new⟩
    · rw [same]
      rfl
    · rw [new]
      rfl

theorem answerChanges (r : Routing) (u : Update) : r.answer u = true ↔ (r.apply u).table ≠ r.table := by
  rw [applyTable]
  cases u with
  | sample | block => simp [answer, Update.list?]
  | routers value =>
    rw [answer, changesIff, Update.list?]
    by_cases empty : addresses value = [] <;> simp [empty]

theorem applyAllTable (r : Routing) (us : List Update) :
    (r.applyAll us).table = (us.filterMap Update.list?).getLast?.getD r.table := by
  induction us generalizing r with
  | nil => rfl
  | cons u us ih =>
    rw [applyAll, List.foldl_cons]
    refine (ih (r.apply u)).trans ?_
    rw [applyTable, List.filterMap_cons]
    cases u.list? with
    | none => rfl
    | some list => rw [List.getLast?_cons, Option.getD_some, Option.getD_some]

theorem applyAllEnabled (r : Routing) (us : List Update) : (r.applyAll us).enabled =
    ((us.filterMap Update.block?).getLast?.map fun value => decide (value = "false")).getD r.enabled := by
  induction us generalizing r with
  | nil => rfl
  | cons u us ih =>
    rw [applyAll, List.foldl_cons]
    refine (ih (r.apply u)).trans ?_
    rw [applyEnabled, List.filterMap_cons]
    cases u.block? with
    | none => rfl
    | some value =>
      rw [List.getLast?_cons]
      cases (us.filterMap Update.block?).getLast? <;> rfl

theorem applyAllAppend (r : Routing) (us vs : List Update) :
    r.applyAll (us ++ vs) = (r.applyAll us).applyAll vs := List.foldl_append

/-- One of these calls is answered with yes. -/
def Answered (r : Routing) (us : List Update) : Prop :=
  ∃ before value after, us = before ++ .routers value :: after ∧ (r.applyAll before).changes value = true

theorem answeredCons : Answered r (u :: us) ↔ r.answer u = true ∨ Answered (r.apply u) us := by
  constructor
  · rintro ⟨before, value, after, same, changes⟩
    cases before with
    | nil =>
      cases same
      exact .inl changes
    | cons first before =>
      cases same
      exact .inr ⟨before, value, after, rfl, changes⟩
  · rintro (answered | ⟨before, value, after, rfl, changes⟩)
    · cases u with
      | routers value => exact ⟨[], value, us, rfl, answered⟩
      | sample | block => cases answered
    · exact ⟨u :: before, value, after, rfl, changes⟩

theorem versionMoves (r : Routing) (us : List Update) :
    r.version ≤ (r.applyAll us).version ∧ (Wakes r.version (r.applyAll us) ↔ Answered r us) := by
  induction us generalizing r with
  | nil => exact ⟨Nat.le_refl _, by simp [Wakes, applyAll, Answered]⟩
  | cons u us ih =>
    obtain ⟨grows, wakes⟩ := ih (r.apply u)
    have step := applyVersion r u
    unfold Wakes at wakes ⊢
    rw [answeredCons, ← wakes]
    change _ ≤ ((r.apply u).applyAll us).version ∧ (_ ≠ ((r.apply u).applyAll us).version ↔ _)
    cases answered : r.answer u with
    | true =>
      rw [answered, if_pos rfl] at step
      exact ⟨by omega, by simp; omega⟩
    | false =>
      rw [answered] at step
      simp only [Bool.false_eq_true, if_false, Nat.add_zero] at step
      rw [step] at grows ⊢
      exact ⟨grows, by simp⟩

theorem tableGiven {ratio : Float} {a : String} (member : a ∈ (run ratio us).table) :
    ∃ value, .routers value ∈ us ∧ a ∈ addresses value := by
  rw [run, applyAllTable] at member
  cases last : (us.filterMap Update.list?).getLast? with
  | none =>
    rw [last] at member
    cases member
  | some list =>
    rw [last] at member
    obtain ⟨u, inside, given⟩ := List.mem_filterMap.mp (List.mem_of_getLast? last)
    obtain ⟨value, rfl, rfl, -⟩ := listRead given
    exact ⟨value, inside, member⟩

theorem runNormal (ratio : Float) (us : List Update) : ∀ a ∈ (run ratio us).table, Normal a := by
  intro a member
  obtain ⟨value, -, listed⟩ := tableGiven member
  exact addressNormal listed

theorem filledStays (filled : r.table ≠ []) (us : List Update) : (r.applyAll us).table ≠ [] := by
  rw [applyAllTable]
  cases last : (us.filterMap Update.list?).getLast? with
  | none => exact filled
  | some list =>
    obtain ⟨u, -, given⟩ := List.mem_filterMap.mp (List.mem_of_getLast? last)
    obtain ⟨-, -, -, nonempty⟩ := listRead given
    exact nonempty

theorem againSame {r : Routing} (normal : ∀ a ∈ r.table, Normal a) :
    r.changes (";".intercalate r.table) = false ∧ r.apply (.routers (";".intercalate r.table)) = r := by
  rcases routersCases r (";".intercalate r.table) with same | ⟨changed, -⟩
  · exact same
  · exact absurd (addressesJoined normal) ((changesIff r _).mp changed).2

theorem differsSomewhere (as bs : List String) :
    as ≠ bs ↔ as.length ≠ bs.length ∨ ∃ i : Nat, as[i]? ≠ bs[i]? := by
  constructor
  · intro different
    refine .inr (Classical.byContradiction fun nowhere => different (List.ext_getElem? fun i => ?_))
    exact Classical.byContradiction fun here => nowhere ⟨i, here⟩
  · rintro (length | ⟨i, here⟩) rfl
    · exact length rfl
    · exact here rfl

structure Followed (ratio : Float) (us : List Update) : Prop where
  table : (run ratio us).table = (us.filterMap Update.list?).getLast?.getD []
  lasting : (run ratio us).table ≠ [] → ∀ vs, (run ratio (us ++ vs)).table ≠ []
  answered : ∀ value, let before := (run ratio us).table
    let after := (run ratio (us ++ [.routers value])).table
    (run ratio us).changes value = true ↔ after.length ≠ before.length ∨ ∃ i : Nat, after[i]? ≠ before[i]?
  woken : ∀ u, Wakes (run ratio us).version (run ratio (us ++ [u])) ↔
    ∃ value, u = .routers value ∧ (run ratio us).changes value = true
  wokenLater : ∀ vs, Wakes (run ratio us).version (run ratio (us ++ vs)) ↔ Answered (run ratio us) vs
  again : (run ratio us).changes (";".intercalate (run ratio us).table) = false ∧
    (run ratio us).apply (.routers (";".intercalate (run ratio us).table)) = run ratio us
  enabled : (run ratio us).enabled = true ↔ (us.filterMap Update.block?).getLast? = none ∨
    (us.filterMap Update.block?).getLast? = some "false"

theorem wakesOnce (r : Routing) (u : Update) :
    Wakes r.version (r.apply u) ↔ ∃ value, u = .routers value ∧ r.changes value = true := by
  unfold Wakes
  rw [applyVersion]
  cases u with
  | sample | block => simp [answer]
  | routers value => cases changed : r.changes value <;> simp [answer, changed]

theorem tableFollowsLists (ratio : Float) (us : List Update) : Followed ratio us := by
  have append : ∀ vs, run ratio (us ++ vs) = (run ratio us).applyAll vs := applyAllAppend _ us
  refine ⟨applyAllTable _ us, fun filled vs => ?_, fun value => ?_, fun u => ?_, fun vs => ?_,
    againSame (runNormal ratio us), ?_⟩
  · rw [append]
    exact filledStays filled vs
  · dsimp only
    rw [← differsSomewhere, append]
    exact answerChanges (run ratio us) (.routers value)
  · rw [append]
    exact wakesOnce (run ratio us) u
  · rw [append]
    exact (versionMoves (run ratio us) vs).2
  · rw [run, applyAllEnabled]
    cases (us.filterMap Update.block?).getLast? <;> simp

end TraceRelay.Routing
