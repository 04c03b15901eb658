import TraceRelay.Proofs.Pipeline.Dispatch
/-! Trees and changes of the routing as they come in, one after the other. What became of each tree is written down
beside the pipeline; the outbox and the aggregators end where these notes lead. -/
namespace TraceRelay.Pipeline
open Aggregate (Intake)

inductive Feed
  | tree (t : Tree)
  | update (u : Routing.Update)

def Feed.tree? : Feed → Option Tree
  | .tree t => some t
  | .update _ => none

def feed (p : Pipeline) : Feed → Pipeline
  | .tree t => p.dispatch t
  | .update u => p.updateRouting u

def feedAll (p : Pipeline) (fs : List Feed) : Pipeline := fs.foldl feed p

/-- A tree that was dispatched: the ratio it met, whether it went to the outbox and what was observed of it. -/
structure Passage where
  tree : Tree
  ratio : Float
  kept : Bool
  seen : List Sighting

def passage (p : Pipeline) (t : Tree) : Passage := ⟨t, p.routing.sample, p.keeps t, p.seen t⟩

def passages (p : Pipeline) : List Feed → List Passage
  | [] => []
  | .tree t :: fs => p.passage t :: passages (p.dispatch t) fs
  | .update u :: fs => passages (p.updateRouting u) fs

def offers (p : Pipeline) (fs : List Feed) : List Tree := ((passages p fs).filter Passage.kept).map Passage.tree

theorem dispatchAllFed (p : Pipeline) (ts : List Tree) : p.dispatchAll ts = p.feedAll (ts.map .tree) := by
  rw [dispatchAll, feedAll, List.foldl_map]
  rfl

theorem passagesTrees (p : Pipeline) (fs : List Feed) :
    (passages p fs).map Passage.tree = fs.filterMap Feed.tree? := by
  induction fs generalizing p with
  | nil => rfl
  | cons f fs ih =>
    cases f with
    | tree t => exact congrArg (t :: ·) (ih (p.dispatch t))
    | update u => exact ih (p.updateRouting u)

/-- What holds of the passage of any tree through any pipeline holds of all that were written down. -/
theorem passagesAll {P : Passage → Prop} (each : ∀ (p : Pipeline) (t : Tree), P (p.passage t)) (p : Pipeline)
    (fs : List Feed) : ∀ x ∈ passages p fs, P x := by
  induction fs generalizing p with
  | nil => exact fun x member => nomatch member
  | cons f fs ih =>
    cases f with
    | tree t => exact List.forall_mem_cons.mpr ⟨each p t, ih (p.dispatch t)⟩
    | update u => exact ih (p.updateRouting u)

theorem lastingKept (p : Pipeline) (fs : List Feed) :
    ∀ x ∈ passages p fs, x.tree.discardable = false → x.kept = true :=
  passagesAll (fun p t lasting => by simp [passage, keeps, show t.discardable = false from lasting]) p fs

theorem offersMore (p : Pipeline) (t : Tree) (fs : List Feed) :
    (offers p (.tree t :: fs)).foldl Outbound.Outbox.offer p.outbox =
      (offers (p.dispatch t) fs).foldl Outbound.Outbox.offer (p.dispatch t).outbox := by
  have outbox : (p.dispatch t).outbox = if p.keeps t then p.outbox.offer t else p.outbox := by rw [dispatchParts]
  rw [outbox, offers, passages, List.filter_cons]
  cases kept : p.keeps t <;> simp only [passage, kept, if_true, Bool.false_eq_true, if_false] <;> rfl

theorem feedAllParts (p : Pipeline) (fs : List Feed) :
    p.feedAll fs = { ((passages p fs).flatMap Passage.seen).foldl observe p with
      routing := (p.feedAll fs).routing
      sampled := (p.feedAll fs).sampled
      outbox := (offers p fs).foldl Outbound.Outbox.offer p.outbox } := by
  induction fs generalizing p with
  | nil => rfl
  | cons f fs ih =>
    cases f with
    | update u =>
      have rest := ih (p.updateRouting u)
      rw [observeAll] at rest ⊢
      exact rest
    | tree t =>
      have rest := ih (p.dispatch t)
      have ids : (p.dispatch t).ids = p.ids := by rw [dispatchParts]
      have transactions : (p.dispatch t).transactions =
        (observations .transaction (p.seen t)).foldl Intake.observe p.transactions := by rw [dispatchParts]
      have events : (p.dispatch t).events =
        (observations .event (p.seen t)).foldl Intake.observe p.events := by rw [dispatchParts]
      rw [observeAll, ids, transactions, events, ← List.foldl_append, ← List.foldl_append] at rest
      rw [observeAll, offersMore, passages, List.flatMap_cons, observations, observations,
        List.filterMap_append, List.filterMap_append]
      exact rest

end TraceRelay.Pipeline
