import TraceRelay.Proofs.Pipeline.Feeds
/-! What the aggregators see of a tree. Below the root it is the walk of the tree in pre-order without its
heartbeats, whether the tree is kept or not. Only the root hangs on the sampler: it is seen, ahead of everything
below it, when the tree is not kept. -/
namespace TraceRelay.Pipeline
open Aggregate (Totals Table Stamp)

/-- What there is to observe of one message by itself. -/
def Sighting.of? (domain : String) : Message → Option Sighting
  | .transaction d t _ => some (.transaction (.of domain d t))
  | .event d => some (.event (.of domain d 0))
  | .heartbeat _ => none

/-- A message of a walk as it is observed, with the depth at which it stands. -/
def mark? (domain : String) (e : Nat × Message) : Option (Nat × Sighting) :=
  (Sighting.of? domain e.2).map fun s => (e.1, s)

def walked (t : Tree) : List (Nat × Sighting) := (t.message.walk 0).filterMap (mark? t.domain)

/-- At most one mark: a heartbeat is not observed as a root either. -/
def root (t : Tree) : List (Nat × Sighting) := (walked t).filter (·.1 = 0)

def below (t : Tree) : List (Nat × Sighting) := (walked t).filter (0 < ·.1)

mutual

theorem sightingsWalk (domain : String) (depth : Nat) (m : Message) :
    ((m.walk depth).filterMap (mark? domain)).map Prod.snd = sightings domain m := by
  cases m with
  | transaction d t cs =>
    exact congrArg (_ :: ·) (sightingsAllWalk domain (depth + 1) cs)
  | event d => rfl
  | heartbeat d => rfl

theorem sightingsAllWalk (domain : String) (depth : Nat) (ms : List Message) :
    ((Message.walkAll depth ms).filterMap (mark? domain)).map Prod.snd = sightingsAll domain ms := by
  cases ms with
  | nil => rfl
  | cons m ms =>
    rw [Message.walkAll, List.filterMap_append, List.map_append, sightingsWalk domain depth m,
      sightingsAllWalk domain depth ms, sightingsAll]

end

mutual

theorem walkDeep (depth : Nat) (m : Message) : ∀ e ∈ m.walk depth, depth ≤ e.1 := by
  cases m with
  | transaction d t cs =>
    refine List.forall_mem_cons.mpr ⟨Nat.le_refl depth, fun e member => ?_⟩
    exact Nat.le_of_succ_le (walkAllDeep (depth + 1) cs e member)
  | event d => simp [Message.walk]
  | heartbeat d => simp [Message.walk]

theorem walkAllDeep (depth : Nat) (ms : List Message) : ∀ e ∈ Message.walkAll depth ms, depth ≤ e.1 := by
  cases ms with
  | nil => exact fun e member => nomatch member
  | cons m ms =>
    rw [Message.walkAll, List.forall_mem_append]
    exact ⟨walkDeep depth m, walkAllDeep depth ms⟩

end

theorem marksDeep {domain : String} {depth : Nat} {es : List (Nat × Message)} (deep : ∀ e ∈ es, depth ≤ e.1) :
    ∀ e ∈ es.filterMap (mark? domain), depth ≤ e.1 := by
  intro e member
  obtain ⟨entry, inside, marked⟩ := List.mem_filterMap.mp member
  obtain ⟨s, -, rfl⟩ := Option.map_eq_some_iff.mp marked
  exact deep entry inside

theorem childrenDeep (t : Tree) :
    ∀ e ∈ (Message.walkAll 1 t.message.children).filterMap (mark? t.domain), 0 < e.1 :=
  marksDeep (walkAllDeep 1 _)

theorem walkedChildren (t : Tree) : walked t = (mark? t.domain (0, t.message)).toList ++
    (Message.walkAll 1 t.message.children).filterMap (mark? t.domain) := by
  unfold walked
  cases t.message with
  | transaction | event | heartbeat => rfl

theorem rootMark (t : Tree) : ∀ e ∈ (mark? t.domain (0, t.message)).toList, e.1 = 0 := by
  intro e member
  obtain ⟨s, -, rfl⟩ := Option.map_eq_some_iff.mp (Option.mem_toList.mp member)
  rfl

theorem belowChildren (t : Tree) :
    below t = (Message.walkAll 1 t.message.children).filterMap (mark? t.domain) := by
  have none : (mark? t.domain (0, t.message)).toList.filter (0 < ·.1) = [] :=
    List.filter_eq_nil_iff.mpr fun e member => by simp [rootMark t e member]
  have all := List.filter_eq_self.mpr fun e member => decide_eq_true (childrenDeep t e member)
  rw [below, walkedChildren, List.filter_append, none, List.nil_append]
  exact all

theorem rootAlone (t : Tree) : root t = (mark? t.domain (0, t.message)).toList := by
  have all := List.filter_eq_self.mpr fun e member => decide_eq_true (rootMark t e member)
  have none : ((Message.walkAll 1 t.message.children).filterMap (mark? t.domain)).filter (·.1 = 0) = [] :=
    List.filter_eq_nil_iff.mpr fun e member => by simp [Nat.ne_of_gt (childrenDeep t e member)]
  rw [root, walkedChildren, List.filter_append, none, List.append_nil]
  exact all

theorem walkedSplit (t : Tree) : walked t = root t ++ below t := by
  rw [walkedChildren, rootAlone, belowChildren]

/-- What is observed on a passage, with the depths. -/
def Passage.marks (x : Passage) : List (Nat × Sighting) :=
  if x.kept = true then if x.tree.system = true then [] else below x.tree
  else root x.tree ++ below x.tree

def log (p : Pipeline) (fs : List Feed) : List (Nat × Sighting) := (passages p fs).flatMap Passage.marks

def clients (fs : List Feed) : List Tree := (fs.filterMap Feed.tree?).filter fun t => !t.system

/-- The trees of the agent itself, wherever they come, are none that may be discarded. -/
def OwnLasting (fs : List Feed) : Prop := ∀ t ∈ fs.filterMap Feed.tree?, t.system = true → t.discardable = false

theorem seenMarks (p : Pipeline) (t : Tree) : (p.passage t).marks.map Prod.snd = p.seen t := by
  have children : (below t).map Prod.snd = sightingsAll t.domain t.message.children := by
    rw [belowChildren, sightingsAllWalk]
  have all : (root t ++ below t).map Prod.snd = sightings t.domain t.message := by
    rw [← walkedSplit, walked, sightingsWalk]
  unfold seen Passage.marks
  cases kept : p.keeps t with
  | false => simpa [passage, kept] using all
  | true => cases own : t.system with
    | false => simpa [passage, kept, own] using children
    | true => simp [passage, kept, own]

theorem logSeen (p : Pipeline) (fs : List Feed) :
    (log p fs).map Prod.snd = (passages p fs).flatMap Passage.seen := by
  rw [log, List.map_flatMap, List.flatMap_def, List.flatMap_def]
  exact congrArg List.flatten (List.map_congr_left (passagesAll seenMarks p fs))

theorem ownKept {fs : List Feed} (own : OwnLasting fs) (p : Pipeline) :
    ∀ x ∈ passages p fs, x.tree.system = true → x.kept = true := by
  intro x member system
  have fed : x.tree ∈ fs.filterMap Feed.tree? := passagesTrees p fs ▸ List.mem_map_of_mem member
  exact lastingKept p fs x member (own x.tree fed system)

theorem ownUnmarked {x : Passage} (system : x.tree.system = true) (kept : x.kept = true) : x.marks = [] := by
  rw [Passage.marks, if_pos kept, if_pos system]

theorem clientMarks {x : Passage} (client : x.tree.system = false) :
    x.marks = (if x.kept = true then [] else root x.tree) ++ below x.tree := by
  unfold Passage.marks
  cases x.kept with
  | true => simp [client]
  | false => rfl

theorem belowBelow (t : Tree) : (below t).filter (0 < ·.1) = below t := by
  rw [below, List.filter_filter]
  exact List.filter_congr fun e _ => Bool.and_self _

theorem rootAbove (t : Tree) : (root t).filter (0 < ·.1) = [] := by
  refine List.filter_eq_nil_iff.mpr fun e member => ?_
  have first := (List.mem_filter.mp member).2
  simp [of_decide_eq_true first]

theorem marksBelow {x : Passage} (client : x.tree.system = false) : x.marks.filter (0 < ·.1) = below x.tree := by
  rw [clientMarks client, List.filter_append, belowBelow]
  cases x.kept with
  | true => rfl
  | false => exact congrArg (· ++ below x.tree) (rootAbove x.tree)

theorem clientsTree (t : Tree) (fs : List Feed) :
    clients (.tree t :: fs) = if t.system = true then clients fs else t :: clients fs := by
  unfold clients
  cases system : t.system <;> simp [Feed.tree?, system]

theorem logBelow {fs : List Feed} (own : OwnLasting fs) (p : Pipeline) :
    (log p fs).filter (0 < ·.1) = (clients fs).flatMap below := by
  induction fs generalizing p with
  | nil => rfl
  | cons f fs ih =>
    cases f with
    | update u => exact ih own (p.updateRouting u)
    | tree t =>
      obtain ⟨-, later⟩ := List.forall_mem_cons.mp own
      have rest := ih later (p.dispatch t)
      rw [log, passages, List.flatMap_cons, List.filter_append, clientsTree]
      rw [log] at rest
      rw [rest]
      cases system : t.system with
      | false =>
        rw [if_neg Bool.false_ne_true, List.flatMap_cons, marksBelow (x := p.passage t) system]
        rfl
      | true =>
        have kept := ownKept own p (p.passage t) List.mem_cons_self system
        rw [if_pos rfl, ownUnmarked system kept]
        rfl

structure Observed (p : Pipeline) (fs : List Feed) : Prop where
  trees : (passages p fs).map Passage.tree = fs.filterMap Feed.tree?
  handed : p.feedAll fs = { ((log p fs).map Prod.snd).foldl observe p with
    routing := (p.feedAll fs).routing
    sampled := (p.feedAll fs).sampled
    outbox := (offers p fs).foldl Outbound.Outbox.offer p.outbox }
  below : (log p fs).filter (0 < ·.1) = (clients fs).flatMap below
  client : ∀ x ∈ passages p fs, x.tree.system = false →
    x.marks = (if x.kept = true then [] else root x.tree) ++ Pipeline.below x.tree
  own : ∀ x ∈ passages p fs, x.tree.system = true → x.kept = true ∧ x.marks = []

theorem feedsObserved {fs : List Feed} (own : OwnLasting fs) (p : Pipeline) : Observed p fs where
  trees := passagesTrees p fs
  handed := by
    rw [logSeen]
    exact feedAllParts p fs
  below := logBelow own p
  client x _ client := clientMarks client
  own x member system := ⟨ownKept own p x member system, ownUnmarked system (ownKept own p x member system)⟩

theorem flushedOffered {α : Type} [Totals α] (stamp : Stamp) (ids : MessageIds) (table : Table α) {t : Tree}
    (member : t ∈ (Table.flush stamp ids table).1) (p : Pipeline) : p.dispatch t = p.offer t := by
  obtain ⟨system, lasting, -⟩ := Aggregate.flushSystem stamp ids table t member
  exact dispatchOwn p system lasting

/-- Two runs of the same client trees, with any ratios, any changes of them and any trees of the agent between. -/
theorem samplingUnseenBelow {fs gs : List Feed} (first : OwnLasting fs) (second : OwnLasting gs)
    (same : clients fs = clients gs) (p q : Pipeline) : Observed p fs ∧ Observed q gs ∧
      (log p fs).filter (0 < ·.1) = (log q gs).filter (0 < ·.1) ∧
      ∀ {α : Type} [Totals α] (stamp : Stamp) (ids : MessageIds) (table : Table α),
        ∀ t ∈ (Table.flush stamp ids table).1, ∀ r : Pipeline, r.dispatch t = r.offer t := by
  refine ⟨feedsObserved first p, feedsObserved second q, ?_, fun stamp ids table t member r =>
    flushedOffered stamp ids table member r⟩
  rw [logBelow first, logBelow second, same]

theorem rootSeenOnce :
    let detail : String → Detail := fun name => ⟨"T", name, "0", "", 1⟩
    let inside := [.transaction (detail "b") 3 [.event (detail "c")], .heartbeat (detail "h"), .event (detail "e")]
    let t : Tree := { domain := "d", id := "t", message := .transaction (detail "a") 5 inside }
    let u : Tree := { domain := "d", id := "u", message := .event (detail "f") }
    let summary : Tree := .ofAgent "d" "s" "9" (.transaction (detail "s") 0 [.event (detail "g")])
    let p : Pipeline := { routing := { sample := 0.0 }, ids := .start "home" "7f000001" 1 }
    let q : Pipeline := { routing := { sample := 1.0 }, sampled := 7, ids := .start "home" "7f000001" 1 }
    let fs : List Feed := [.tree t, .tree u]
    let gs : List Feed := [.tree t, .tree summary, .update (.sample "0.25"), .tree u]
    let seen : Nat → Sighting → Nat × Sighting := Prod.mk
    let below := [seen 1 (.transaction ⟨"d", "T", "b", true, 3⟩), seen 2 (.event ⟨"d", "T", "c", true, 0⟩),
      seen 1 (.event ⟨"d", "T", "e", true, 0⟩)]
    log p fs = seen 0 (.transaction ⟨"d", "T", "a", true, 5⟩) :: below ++
        [seen 0 (.event ⟨"d", "T", "f", true, 0⟩)] ∧
      log q gs = below ∧ (offers q gs).map Tree.id = ["t", "s", "u"] ∧
      (log p fs).filter (0 < ·.1) = (log q gs).filter (0 < ·.1) := by
  intro detail inside t u summary p q fs gs seen below
  have own : OwnLasting fs ∧ OwnLasting gs := by
    simp [OwnLasting, fs, gs, Feed.tree?, t, u, summary, Tree.ofAgent]
  exact ⟨by decide +kernel, by decide +kernel, by decide +kernel,
    (samplingUnseenBelow own.1 own.2 rfl p q).2.2.1⟩

end TraceRelay.Pipeline
