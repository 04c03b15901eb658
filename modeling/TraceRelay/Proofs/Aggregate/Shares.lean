import TraceRelay.Aggregate.Intake
/-! Which observations a summary counts. Beside the table that observations make, a second one with the
same keys holds the observations themselves. Each of its lists is the share of one summary when the table
is flushed, and together the shares are what the table was made of. -/
namespace TraceRelay

namespace Keyed

variable {κ ν μ β : Type} [DecidableEq κ]

def mapValues (h : ν → μ) (t : Keyed κ ν) : Keyed κ μ := t.map fun e => (e.1, h e.2)

theorem mapValuesUpsert {h : ν → μ} {f : Option ν → ν} {g : Option μ → μ}
    (same : ∀ old, h (f old) = g (old.map h)) (k : κ) (t : Keyed κ ν) :
    mapValues h (upsert k f t) = upsert k g (mapValues h t) := by
  induction t with
  | nil => simp only [mapValues, upsert, List.map_cons, List.map_nil, same, Option.map_none]
  | cons e r ih =>
    obtain ⟨a, v⟩ := e
    by_cases found : a = k
    · simp only [mapValues, upsert, if_pos found, List.map_cons, same, Option.map_some]
    · simp only [mapValues] at ih
      simp only [mapValues, upsert, if_neg found, List.map_cons, ih]

theorem upsertEvery {P : κ → ν → Prop} {k : κ} {f : Option ν → ν} {t : Keyed κ ν}
    (before : ∀ e ∈ t, P e.1 e.2) (fresh : P k (f none)) (known : ∀ v, P k v → P k (f (some v))) :
    ∀ e ∈ upsert k f t, P e.1 e.2 := by
  induction t with
  | nil =>
    intro e member
    rw [List.mem_singleton.mp member]
    exact fresh
  | cons e r ih =>
    obtain ⟨a, v⟩ := e
    have first := before (a, v) List.mem_cons_self
    have rest := fun e member => before e (List.mem_cons_of_mem (a, v) member)
    intro e member
    by_cases found : a = k
    · subst found
      rw [upsert, if_pos rfl] at member
      rcases List.mem_cons.mp member with rfl | inside
      · exact known v first
      · exact rest e inside
    · rw [upsert, if_neg found] at member
      rcases List.mem_cons.mp member with rfl | inside
      · exact first
      · exact ih rest e inside

def contents (c : ν → List β) (t : Keyed κ ν) : List β := t.flatMap fun e => c e.2

theorem contentsUpsert {c : ν → List β} {f : Option ν → ν} {more : List β}
    (grows : ∀ old, (c (f old)).Perm ((old.map c).getD [] ++ more)) (k : κ) (t : Keyed κ ν) :
    (contents c (upsert k f t)).Perm (contents c t ++ more) := by
  induction t with
  | nil => simpa [contents, upsert] using grows none
  | cons e r ih =>
    obtain ⟨a, v⟩ := e
    by_cases found : a = k
    · have grown : (c (f (some v)) ++ contents c r).Perm ((c v ++ more) ++ contents c r) :=
        (grows (some v)).append_right _
      have moved : ((c v ++ more) ++ contents c r).Perm ((c v ++ contents c r) ++ more) := by
        rw [List.append_assoc, List.append_assoc]
        exact List.perm_append_comm.append_left _
      simpa only [contents, upsert, if_pos found, List.flatMap_cons] using grown.trans moved
    · simpa only [contents, upsert, if_neg found, List.flatMap_cons, List.append_assoc] using
        ih.append_left (c v)

end Keyed

namespace Aggregate

abbrev Bundle := Keyed (String × String) (List Observation)

abbrev Bundles := Keyed String Bundle

def Bundle.add (b : Bundle) (o : Observation) : Bundle :=
  Keyed.upsert (o.type, o.name) (fun l => l.getD [] ++ [o]) b

def Bundles.add (b : Bundles) (o : Observation) : Bundles :=
  Keyed.upsert o.domain (fun entries => Bundle.add (entries.getD []) o) b

def Bundles.of (os : List Observation) : Bundles := os.foldl Bundles.add []

variable {α : Type} [Totals α]

def Table.of (os : List Observation) : Table α := os.foldl Table.add []

def totalOf (os : List Observation) : α := os.foldl Totals.add Totals.none

def Bundles.table (b : Bundles) : Table α := Keyed.mapValues (Keyed.mapValues totalOf) b

theorem tableAdd (b : Bundles) (o : Observation) :
    (b.add o).table = Table.add (b.table : Table α) o := by
  refine Keyed.mapValuesUpsert (fun entries => ?_) o.domain b
  have inner := Keyed.mapValuesUpsert (h := totalOf (α := α)) (f := fun l => l.getD [] ++ [o])
    (g := fun total => Totals.add (total.getD Totals.none) o)
    (fun l => by cases l <;> simp [totalOf]) (o.type, o.name) (entries.getD [])
  rw [Bundle.add, inner]
  cases entries <;> rfl

theorem bundlesTable (os : List Observation) : (Bundles.of os).table = (Table.of os : Table α) := by
  have kept : ∀ b : Bundles, (os.foldl Bundles.add b).table =
      os.foldl Table.add (b.table : Table α) := by
    induction os with
    | nil => exact fun b => rfl
    | cons o os ih => exact fun b => by rw [List.foldl_cons, ih, tableAdd, List.foldl_cons]
  exact kept []

def Labelled (domain : String) (key : String × String) (os : List Observation) : Prop :=
  os ≠ [] ∧ ∀ o ∈ os, o.domain = domain ∧ (o.type, o.name) = key

def Bundle.Labelled (domain : String) (b : Bundle) : Prop :=
  ∀ e ∈ b, Aggregate.Labelled domain e.1 e.2

def Bundles.Labelled (b : Bundles) : Prop := ∀ e ∈ b, Bundle.Labelled e.1 e.2

theorem labelledMore (o : Observation) {os : List Observation}
    (before : ∀ x ∈ os, x.domain = o.domain ∧ (x.type, x.name) = (o.type, o.name)) :
    Labelled o.domain (o.type, o.name) (os ++ [o]) := by
  refine ⟨by simp, fun x member => ?_⟩
  rcases List.mem_append.mp member with old | new
  · exact before x old
  · rw [List.mem_singleton.mp new]
    exact ⟨rfl, rfl⟩

theorem bundleLabelledAdd {b : Bundle} {o : Observation} (labelled : b.Labelled o.domain) :
    (b.add o).Labelled o.domain :=
  Keyed.upsertEvery (P := Labelled o.domain) labelled (labelledMore o (by simp))
    fun _ known => labelledMore o known.2

theorem labelledAdd {b : Bundles} (labelled : b.Labelled) (o : Observation) : (b.add o).Labelled :=
  Keyed.upsertEvery (P := Bundle.Labelled) labelled
    (bundleLabelledAdd (b := []) (by simp [Bundle.Labelled])) fun _ known => bundleLabelledAdd known

theorem bundlesLabelled (os : List Observation) : (Bundles.of os).Labelled := by
  have kept : ∀ b : Bundles, b.Labelled → (os.foldl Bundles.add b).Labelled := by
    induction os with
    | nil => exact fun b labelled => labelled
    | cons o os ih => exact fun b labelled => ih (b.add o) (labelledAdd labelled o)
  exact kept [] (by simp [Bundles.Labelled])

def Bundles.contents (b : Bundles) : List Observation := Keyed.contents (Keyed.contents id) b

theorem contentsAdd (b : Bundles) (o : Observation) : (b.add o).contents.Perm (b.contents ++ [o]) := by
  refine Keyed.contentsUpsert (fun entries => ?_) o.domain b
  have inner : (Keyed.contents id (Bundle.add (entries.getD []) o)).Perm
      (Keyed.contents id (entries.getD []) ++ [o]) :=
    Keyed.contentsUpsert (fun l => by cases l <;> simp) (o.type, o.name) (entries.getD [])
  cases entries <;> exact inner

theorem bundlesContents (os : List Observation) : (Bundles.of os).contents.Perm os := by
  have kept : ∀ b : Bundles, (os.foldl Bundles.add b).contents.Perm (b.contents ++ os) := by
    induction os with
    | nil => exact fun b => by rw [List.foldl_nil, List.append_nil]
    | cons o os ih =>
      intro b
      have added := (contentsAdd b o).append_right os
      rw [List.append_assoc, List.singleton_append] at added
      exact (ih (b.add o)).trans added
  exact kept []

/-- What one summary stands for: the labels and the time that are written on it and the observations that
it counts. -/
structure Share where
  stamp : Stamp
  domain : String
  type : String
  name : String
  observations : List Observation

namespace Share

def Own (s : Share) : Prop :=
  s.observations ≠ [] ∧ ∀ o ∈ s.observations, o.domain = s.domain ∧ o.type = s.type ∧ o.name = s.name

def summary (α : Type) [Totals α] (s : Share) : String × Message :=
  (s.domain, summaryOf (α := α) s.stamp ((s.type, s.name), totalOf s.observations))

end Share

def Bundles.shares (stamp : Stamp) (b : Bundles) : List Share :=
  b.flatMap fun e => e.2.map fun f => ⟨stamp, e.1, f.1.1, f.1.2, f.2⟩

theorem sharesOwn {b : Bundles} (labelled : b.Labelled) (stamp : Stamp) :
    ∀ s ∈ b.shares stamp, s.Own := by
  intro s member
  obtain ⟨e, outer, inside⟩ := List.mem_flatMap.mp member
  obtain ⟨f, inner, rfl⟩ := List.mem_map.mp inside
  obtain ⟨filled, own⟩ := labelled e outer f inner
  refine ⟨filled, fun o counted => ?_⟩
  obtain ⟨domain, key⟩ := own o counted
  rw [← key]
  exact ⟨domain, rfl, rfl⟩

theorem sharesContents (b : Bundles) (stamp : Stamp) :
    (b.shares stamp).flatMap Share.observations = b.contents := by
  simp only [Bundles.shares, Bundles.contents, Keyed.contents, List.flatMap_assoc, List.flatMap_map, id]

def told (ts : List Tree) : List (String × Message) :=
  ts.flatMap fun t => t.message.children.map fun m => (t.domain, m)

theorem toldFlush (stamp : Stamp) (ids : MessageIds) (b : Bundles) :
    told (Table.flush stamp ids (b.table : Table α)).1 = (b.shares stamp).map (Share.summary α) := by
  induction b generalizing ids with
  | nil => rfl
  | cons e r ih =>
    obtain ⟨domain, entries⟩ := e
    have rest := ih (ids.next domain).2
    have first : (entries.mapValues totalOf).map (fun e => (domain, summaryOf (α := α) stamp e)) =
        (entries.map fun f => (⟨stamp, domain, f.1.1, f.1.2, f.2⟩ : Share)).map
          (Share.summary α) := by
      simp only [Keyed.mapValues, List.map_map]
      rfl
    unfold told at rest ⊢
    rw [Bundles.shares, List.flatMap_cons, List.map_append, ← first]
    exact congr (congrArg List.append (List.map_map ..)) rest

/-- The summaries on these trees count each of these observations once and nothing else. -/
def Covers (α : Type) [Totals α] (ts : List Tree) (os : List Observation) : Prop :=
  ∃ shares : List Share, told ts = shares.map (Share.summary α) ∧ (∀ s ∈ shares, s.Own) ∧
    (shares.flatMap Share.observations).Perm os

theorem Covers.append {ts us : List Tree} {os ps : List Observation} (left : Covers α ts os)
    (right : Covers α us ps) : Covers α (ts ++ us) (os ++ ps) := by
  obtain ⟨ss, leftTold, leftOwn, leftPerm⟩ := left
  obtain ⟨rs, rightTold, rightOwn, rightPerm⟩ := right
  refine ⟨ss ++ rs, ?_, fun s member => ?_, ?_⟩
  · unfold told at leftTold rightTold ⊢
    rw [List.flatMap_append, leftTold, rightTold, List.map_append]
  · rcases List.mem_append.mp member with inside | inside
    · exact leftOwn s inside
    · exact rightOwn s inside
  · rw [List.flatMap_append]
    exact leftPerm.append rightPerm

theorem flushCovers (stamp : Stamp) (ids : MessageIds) (os : List Observation) :
    Covers α (Table.flush stamp ids (Table.of os : Table α)).1 os := by
  refine ⟨(Bundles.of os).shares stamp, ?_, sharesOwn (bundlesLabelled os) stamp, ?_⟩
  · rw [← bundlesTable, toldFlush]
  · rw [sharesContents]
    exact bundlesContents os

end Aggregate

end TraceRelay
