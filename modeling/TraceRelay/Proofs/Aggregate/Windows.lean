import TraceRelay.Proofs.Aggregate.Tallies
import TraceRelay.Proofs.MessageId.Counters
/-! Flushing a window of observations is grouping them: a tree for every domain, a summary for every type and name
in it, the tally of what has these labels written on the summary. Each domain draws its id from its own counter,
so that neither the order of the entries nor that of the observations is seen in anything but the order. -/
namespace TraceRelay

def Message.key (m : Message) : String × String := (m.detail.type, m.detail.name)

namespace MessageIds

variable {home ipHex : String} {ids : MessageIds}

/-- The id that a domain is given next. -/
def upcoming (ids : MessageIds) (domain : String) : String :=
  format domain ids.ipHex ids.hour (ids.counter domain + 1)

structure DrawnOnce (domains : List String) (ids after : MessageIds) : Prop where
  hour : after.hour = ids.hour
  ipHex : after.ipHex = ids.ipHex
  counter : ∀ domain, after.counter domain =
    if domain ∈ domains then ids.counter domain + 1 else ids.counter domain

theorem upcomingDrawn (prepared : Prepared home ipHex ids) (domain : String) :
    (ids.next domain).1 = ids.upcoming domain := (drawnNext prepared domain).id

theorem upcomingOther (prepared : Prepared home ipHex ids) {domain other : String} (apart : other ≠ domain) :
    (ids.next domain).2.upcoming other = ids.upcoming other := by
  have drawn := drawnNext prepared domain
  have after := preparedNext prepared domain
  rw [upcoming, upcoming, drawn.hour, drawn.counter, if_neg apart, after.sameIp, prepared.sameIp]

end MessageIds

namespace Aggregate
open MessageIds (Prepared Reached DrawnOnce)

variable {α : Type} {home ipHex : String} {ids : MessageIds}

def treeOf [Totals α] (stamp : Stamp) (ids : MessageIds) (e : String × Keyed (String × String) α) : Tree :=
  Tree.ofAgent e.1 (ids.upcoming e.1) stamp.process (summaryRoot stamp e.2)

theorem flushTrees [Totals α] (stamp : Stamp) (prepared : Prepared home ipHex ids) {t : Table α}
    (nodup : (Keyed.keys t).Nodup) :
    (Table.flush stamp ids t).1 = t.map (treeOf stamp ids) ∧
      DrawnOnce (Keyed.keys t) ids (Table.flush stamp ids t).2 := by
  induction t generalizing ids with
  | nil => exact ⟨rfl, rfl, rfl, fun _ => rfl⟩
  | cons e rest ih =>
    obtain ⟨domain, entries⟩ := e
    have once : domain ∉ Keyed.keys rest := (List.nodup_cons.mp nodup).1
    have drawn := MessageIds.drawnNext prepared domain
    have after := MessageIds.preparedNext prepared domain
    obtain ⟨trees, later⟩ := ih after (List.nodup_cons.mp nodup).2
    constructor
    · rw [Table.flush, List.map_cons]
      refine congr (congrArg List.cons ?_) (trees.trans (List.map_congr_left fun f member => ?_))
      · rw [treeOf, MessageIds.upcomingDrawn prepared]
      · have apart : f.1 ≠ domain := by
          rintro rfl
          exact once (List.mem_map_of_mem member)
        rw [treeOf, treeOf, MessageIds.upcomingOther prepared apart]
    · refine ⟨later.hour.trans drawn.hour, later.ipHex.trans (after.sameIp.trans prepared.sameIp.symm), ?_⟩
      intro other
      refine (later.counter other).trans ?_
      rw [drawn.counter]
      by_cases same : other = domain
      · subst same
        have inside : other ∈ Keyed.keys ((other, entries) :: rest) := List.mem_cons_self
        rw [if_neg once, if_pos rfl, if_pos inside]
      · have inside : other ∈ Keyed.keys ((domain, entries) :: rest) ↔ other ∈ Keyed.keys rest := by
          simp [Keyed.keys, same]
        rw [if_neg same]
        simp only [inside]

/-- The same entries, in any order on both levels. -/
def Table.Arranged (t u : Table α) : Prop :=
  ∃ rows : List (String × Keyed (String × String) α × Keyed (String × String) α),
    t.Perm (rows.map fun r => (r.1, r.2.1)) ∧ u.Perm (rows.map fun r => (r.1, r.2.2)) ∧
      ∀ r ∈ rows, r.2.1.Perm r.2.2

/-- The same trees in any order, and in each of them the same children in any order. -/
def Rearranged (ts us : List Tree) : Prop :=
  ∃ pairs : List (Tree × Tree), ts.Perm (pairs.map Prod.fst) ∧ us.Perm (pairs.map Prod.snd) ∧
    ∀ e ∈ pairs, ∃ d duration cs ds, e.1.message = .transaction d duration cs ∧
      e.2 = { e.1 with message := .transaction d duration ds } ∧ cs.Perm ds

theorem arrangedKeys {t u : Table α} (arranged : Table.Arranged t u) : (Keyed.keys t).Perm (Keyed.keys u) := by
  obtain ⟨rows, left, right, -⟩ := arranged
  have same : (rows.map fun r => (r.1, r.2.1)).map Prod.fst = (rows.map fun r => (r.1, r.2.2)).map Prod.fst := by
    rw [List.map_map, List.map_map]
    rfl
  exact (left.map Prod.fst).trans (same ▸ (right.map Prod.fst).symm)

theorem flushArranged [Totals α] (stamp : Stamp) (prepared : Prepared home ipHex ids) {t u : Table α}
    (arranged : Table.Arranged t u) (nodup : (Keyed.keys u).Nodup) :
    Rearranged (Table.flush stamp ids t).1 (Table.flush stamp ids u).1 := by
  have left := (flushTrees stamp prepared ((arrangedKeys arranged).nodup_iff.mpr nodup)).1
  have right := (flushTrees stamp prepared nodup).1
  obtain ⟨rows, ts, us, alike⟩ := arranged
  rw [left, right]
  refine ⟨rows.map fun r => (treeOf stamp ids (r.1, r.2.1), treeOf stamp ids (r.1, r.2.2)), ?_, ?_, ?_⟩
  · have trees := ts.map (treeOf stamp ids)
    rwa [List.map_map] at trees ⊢
  · have trees := us.map (treeOf stamp ids)
    rwa [List.map_map] at trees ⊢
  · intro e member
    obtain ⟨r, inside, rfl⟩ := List.mem_map.mp member
    exact ⟨_, _, _, _, rfl, rfl, (alike r inside).map (summaryOf stamp)⟩

variable {os ps : List Observation}

def matching (domain : String) (label : String × String) (os : List Observation) : List Observation :=
  (os.filter (·.domain = domain)).filter (·.label = label)

/-- It is enough that all of them together fit. -/
theorem fitsPart (fits : Fits os) (domain : String) (label : String × String) : Fits (matching domain label os) := by
  have inner := sumByFilter (fun o => (o.duration / 1000).toInt.natAbs) (·.label = label)
    (os.filter (·.domain = domain))
  have outer := sumByFilter (fun o => (o.duration / 1000).toInt.natAbs) (·.domain = domain) os
  unfold Fits at fits ⊢
  unfold matching
  omega

theorem totalsPerm [Totals α] (same : os.Perm ps)
    (blind : ∀ domain label, (totalOf (matching domain label os) : α) = totalOf (matching domain label ps)) :
    Table.Arranged (Table.of os : Table α) (Table.of ps) := by
  rw [tableGroups, tableGroups]
  refine ⟨(os.map Observation.domain).eraseDups.map fun domain =>
    (domain, entriesOf (os.filter (·.domain = domain)), entriesOf (ps.filter (·.domain = domain))), ?_, ?_, ?_⟩
  · rw [List.map_map]
    exact .refl _
  · rw [List.map_map]
    exact (permErased (same.map Observation.domain)).symm.map _
  · intro r member
    obtain ⟨domain, -, rfl⟩ := List.mem_map.mp member
    have labels := permErased ((same.filter (·.domain = domain)).map Observation.label)
    refine (labels.map _).trans (List.Perm.of_eq (List.map_congr_left fun label _ => congrArg _ ?_))
    exact blind domain label

theorem tableKeys [Totals α] (os : List Observation) :
    Keyed.keys (Table.of os : Table α) = (os.map Observation.domain).eraseDups := by
  rw [tableGroups, Keyed.keys, List.map_map]
  exact List.map_id _

theorem tableNodup [Totals α] (os : List Observation) : (Keyed.keys (Table.of os : Table α)).Nodup := by
  rw [tableKeys]
  exact nodupErased _

/-- What a window of observations is flushed into, and the counters after it. -/
def flushed (α : Type) [Totals α] (stamp : Stamp) (ids : MessageIds) (os : List Observation) :
    List Tree × MessageIds := Table.flush stamp ids (Table.of os : Table α)

theorem flushedTrees [Totals α] (stamp : Stamp) (prepared : Prepared home ipHex ids) (os : List Observation) :
    (flushed α stamp ids os).1 = (os.map Observation.domain).eraseDups.map fun domain =>
      treeOf stamp ids (domain, (entriesOf (os.filter (·.domain = domain)) : Keyed (String × String) α)) := by
  rw [flushed, (flushTrees stamp prepared (tableNodup os)).1, tableGroups, List.map_map]
  rfl

theorem flushedDomains [Totals α] (stamp : Stamp) (prepared : Prepared home ipHex ids) (os : List Observation) :
    (flushed α stamp ids os).1.map Tree.domain = (os.map Observation.domain).eraseDups := by
  rw [flushedTrees stamp prepared, List.map_map]
  exact List.map_id _

theorem flushedDrawn (α : Type) [Totals α] (stamp : Stamp) (prepared : Prepared home ipHex ids)
    (os : List Observation) :
    DrawnOnce ((flushed α stamp ids os).1.map Tree.domain) ids (flushed α stamp ids os).2 := by
  rw [flushedDomains stamp prepared, ← tableKeys (α := α)]
  exact (flushTrees stamp prepared (tableNodup os)).2

theorem drawnPerm {domains others : List String} {after later : MessageIds} (same : domains.Perm others)
    (left : DrawnOnce domains ids after) (right : DrawnOnce others ids later) (domain : String) :
    after.counter domain = later.counter domain := by
  rw [left.counter, right.counter]
  simp only [same.mem_iff]

theorem treeRead (α : Type) [Totals α] (stamp : Stamp) (prepared : Prepared home ipHex ids)
    (os : List Observation) : ∀ t ∈ (flushed α stamp ids os).1, t = treeOf stamp ids
      (t.domain, (entriesOf (os.filter (·.domain = t.domain)) : Keyed (String × String) α)) := by
  intro t member
  rw [flushedTrees stamp prepared] at member
  obtain ⟨domain, -, rfl⟩ := List.mem_map.mp member
  rfl

theorem childKeys [Counted α] (stamp : Stamp) (entries : Keyed (String × String) α) :
    (entries.map (summaryOf stamp)).map Message.key = Keyed.keys entries := by
  rw [List.map_map]
  refine List.map_congr_left fun e _ => ?_
  rw [Function.comp_apply, Message.key, summaryOf, Counted.summaryDetail]

theorem childRead [Counted α] (stamp : Stamp) (part : List Observation) {m : Message}
    (child : m ∈ (entriesOf part : Keyed (String × String) α).map (summaryOf stamp)) :
    m = summaryOf stamp (m.key, (totalOf (part.filter (·.label = m.key)) : α)) := by
  obtain ⟨e, inside, rfl⟩ := List.mem_map.mp child
  obtain ⟨label, -, rfl⟩ := List.mem_map.mp inside
  have key : (summaryOf stamp (label, (totalOf (part.filter (·.label = label)) : α))).key = label := by
    rw [Message.key, summaryOf, Counted.summaryDetail]
  have written : ∀ same : String × String, same = label →
      summaryOf stamp (label, (totalOf (part.filter (·.label = label)) : α)) =
        summaryOf stamp (same, (totalOf (part.filter (·.label = same)) : α)) := by
    rintro _ rfl
    rfl
  exact written _ key

theorem childLabels [Counted α] (stamp : Stamp) (os : List Observation) (domain : String) (label : String × String) :
    label ∈ ((entriesOf (os.filter (·.domain = domain)) : Keyed (String × String) α).map
      (summaryOf stamp)).map Message.key ↔ ∃ o ∈ os, o.domain = domain ∧ o.label = label := by
  rw [childKeys]
  refine Keyed.memFolded.trans (exists_congr fun o => ?_)
  rw [List.mem_filter, decide_eq_true_eq, and_assoc]

structure Grouped {α : Type} [Totals α] (tally : List Observation → α) (stamp : Stamp) (ids : MessageIds)
    (os : List Observation) : Prop where
  domains : ((flushed α stamp ids os).1.map Tree.domain).Nodup ∧
    ∀ domain, domain ∈ (flushed α stamp ids os).1.map Tree.domain ↔ ∃ o ∈ os, o.domain = domain
  roots : ∀ t ∈ (flushed α stamp ids os).1, t.system = true ∧ t.discardable = false ∧
    t = .ofAgent t.domain (ids.upcoming t.domain) stamp.process
      (.transaction ⟨"System", (Totals.kind α).title, success, "", stamp.now⟩ 0 t.message.children)
  labels : ∀ t ∈ (flushed α stamp ids os).1, (t.message.children.map Message.key).Nodup ∧
    ∀ label, label ∈ t.message.children.map Message.key ↔ ∃ o ∈ os, o.domain = t.domain ∧ o.label = label
  data : ∀ t ∈ (flushed α stamp ids os).1, ∀ m ∈ t.message.children,
    m = Totals.summary α ⟨m.detail.type, m.detail.name, success,
      String.ofList (Totals.encode (tally (matching t.domain m.key os))), stamp.now⟩
  counters : DrawnOnce ((flushed α stamp ids os).1.map Tree.domain) ids (flushed α stamp ids os).2
  emptied : ∀ a : Intake α, a.table = Table.of os → a.flush stamp ids =
    ((flushed α stamp ids os).1, (flushed α stamp ids os).2, { a with table := [] })
  arranged : ∀ t : Table α, Table.Arranged t (Table.of os) →
    Rearranged (Table.flush stamp ids t).1 (flushed α stamp ids os).1
  permuted : ∀ ps : List Observation, os.Perm ps → (∀ domain label, Fits (matching domain label os)) →
    Rearranged (flushed α stamp ids os).1 (flushed α stamp ids ps).1 ∧
    ∀ domain, (flushed α stamp ids os).2.counter domain = (flushed α stamp ids ps).2.counter domain

theorem groupedBy [Counted α] {tally : List Observation → α} (totals : ∀ os, totalOf os = tally os)
    (blind : ∀ os ps, os.Perm ps → Fits os → tally os = tally ps) (stamp : Stamp)
    (prepared : Prepared home ipHex ids) (os : List Observation) : Grouped tally stamp ids os := by
  have domains := flushedDomains (α := α) stamp prepared os
  have drawn := flushedDrawn α stamp prepared
  have read := treeRead α stamp prepared os
  have alike : ∀ ps, os.Perm ps → (∀ domain label, Fits (matching domain label os)) →
      Table.Arranged (Table.of os : Table α) (Table.of ps) := by
    intro ps same fits
    refine totalsPerm same fun domain label => ?_
    rw [totals, totals]
    exact blind _ _ ((same.filter _).filter _) (fits domain label)
  refine ⟨⟨?_, fun domain => ?_⟩, fun t member => ?_, fun t member => ⟨?_, fun label => ?_⟩,
    fun t member m child => ?_, drawn os, fun a table => ?_, fun t arranged => ?_,
    fun ps same fits => ⟨?_, fun domain => ?_⟩⟩
  · rw [domains]
    exact nodupErased _
  · rw [domains, List.mem_eraseDups, List.mem_map]
  · rw [read t member]
    exact ⟨rfl, rfl, rfl⟩
  · rw [read t member]
    exact (childKeys (α := α) stamp _).symm ▸ Keyed.foldedNodup _ _ _ _
  · rw [read t member]
    exact childLabels stamp os t.domain label
  · have inside := child
    rw [read t member] at inside
    have told := childRead stamp _ inside
    rwa [totals] at told
  · rw [Intake.flush, table]
    rfl
  · exact flushArranged stamp prepared arranged (tableNodup os)
  · exact flushArranged stamp prepared (alike ps same fits) (tableNodup ps)
  · refine drawnPerm ?_ (drawn os) (drawn ps) domain
    rw [domains, flushedDomains stamp prepared]
    exact permErased (same.map _)

/-- Of the two aggregates, transactions also tell how long they took; the occurrences in a histogram are together
the observations that were counted. -/
theorem windowsGrouped (reached : Reached home ipHex ids) (stamp : Stamp) (os : List Observation) :
    Grouped transactionTally stamp ids os ∧ Grouped eventTally stamp ids os ∧
      ∀ part : List Observation, sumBy Prod.snd (transactionTally part).histogram = (transactionTally part).count := by
  have prepared := MessageIds.reachedPrepared reached
  refine ⟨groupedBy transactionTotal (fun _ _ => transactionTallyPerm) stamp prepared os,
    groupedBy eventTotal (fun _ _ same _ => eventTallyPerm same) stamp prepared os, fun part => ?_⟩
  rw [transactionTally, Histogram.tallyTotal, List.length_map]

theorem windowSwapped :
    let ids := (MessageIds.start "home" "7f000001" 5).nextNew "far" |>.2
    let os : List Observation := [⟨"home", "a", "bc", true, -1500⟩, ⟨"far", "a", "bc", false, Int64.maxValue⟩,
      ⟨"home", "ab", "c", true, 37900⟩, ⟨"home", "a", "bc", false, Int64.minValue⟩]
    ((flushed TransactionTotals ⟨7, "9"⟩ ids os).1.map fun t =>
        (t.id, t.message.children.map fun m => (m.key, m.detail.data))) =
      [("home-7f000001-5-1", [(("a", "bc"), "@2;1;-9223372036854776;1,2;"), (("ab", "c"), "@1;0;37;35,1;")]),
        ("far-7f000001-5-2", [(("a", "bc"), "@1;1;9223372036854775;3600000,1;")])] ∧
      Rearranged (flushed TransactionTotals ⟨7, "9"⟩ ids os).1
        (flushed TransactionTotals ⟨7, "9"⟩ ids os.reverse).1 := by
  intro ids os
  have reached : Reached "home" "7f000001" ids := .new "far" (.start 5)
  have grouped := (windowsGrouped reached ⟨7, "9"⟩ os).1
  have fits : ∀ domain label, Fits (matching domain label os) := fitsPart (by decide)
  exact ⟨by decide +kernel, (grouped.permuted os.reverse os.reverse_perm.symm fits).1⟩

end Aggregate

end TraceRelay
