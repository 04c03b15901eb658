import TraceRelay.Aggregate.Intake
/-! How many observations an aggregator still answers for: those it dropped, those it queues and those
its table has counted. Observing adds one and absorbing moves one. Flushing moves what the table
counted into the counts that are written on the summaries. -/
namespace TraceRelay
open Aggregate

def sumBy {α : Type} (size : α → Nat) : List α → Nat
  | [] => 0
  | x :: xs => size x + sumBy size xs

theorem sumByAppend {α : Type} (size : α → Nat) (xs ys : List α) :
    sumBy size (xs ++ ys) = sumBy size xs + sumBy size ys := by
  induction xs with
  | nil => simp [sumBy]
  | cons x xs ih =>
    simp only [List.cons_append, sumBy, ih]
    omega

namespace Keyed

variable {κ ν : Type} [DecidableEq κ]

def total (size : ν → Nat) (t : Keyed κ ν) : Nat := sumBy (fun e => size e.2) t

theorem totalUpsert (size : ν → Nat) (k : κ) (f : Option ν → ν) (t : Keyed κ ν) :
    total size (upsert k f t) + ((get? k t).map size).getD 0 = total size t + size (f (get? k t)) := by
  induction t with
  | nil => simp [upsert, get?, total, sumBy]
  | cons e r ih =>
    obtain ⟨a, v⟩ := e
    by_cases same : a = k
    · simp only [upsert, get?, if_pos same, total, sumBy, Option.map_some, Option.getD_some]
      omega
    · simp only [total] at ih
      simp only [upsert, get?, if_neg same, total, sumBy]
      omega

end Keyed

namespace Aggregate

theorem flushSystem {α : Type} [Totals α] (stamp : Stamp) (ids : MessageIds) (t : Table α) :
    ∀ tree ∈ (Table.flush stamp ids t).1, tree.system = true ∧ tree.discardable = false ∧
      tree.message.detail.type = "System" ∧
      tree.message.detail.name = (Totals.kind α).title := by
  induction t generalizing ids with
  | nil => intro tree member; simp [Table.flush] at member
  | cons e rest ih =>
    intro tree member
    rcases List.mem_cons.mp member with rfl | inside
    · exact ⟨rfl, rfl, rfl, rfl⟩
    · exact ih (ids.next e.1).2 tree inside

def writtenCount? : List Char → Option Nat
  | '@' :: cs => Decimal.readNat? (cs.takeWhile (· ≠ ';'))
  | _ => none

theorem writtenCountFront (n : Nat) (rest : List Char) :
    writtenCount? ('@' :: Decimal.natChars n ++ ';' :: rest) = some n := by
  have digits : ∀ c ∈ Decimal.natChars n, decide (c ≠ ';') = true := by
    intro c member
    rw [decide_eq_true_eq]
    rintro rfl
    exact Decimal.natCharsFree (by decide) n member
  have front : (Decimal.natChars n ++ ';' :: rest).takeWhile (· ≠ ';') = Decimal.natChars n := by
    rw [List.takeWhile_append_of_pos digits]
    simp
  simp only [List.cons_append, writtenCount?, front, Decimal.readNatOfNatChars]

class Counted (α : Type) extends Totals α where
  count : α → Nat
  countNone : count none = 0
  countAdd : ∀ x o, count (add x o) = count x + 1
  countWritten : ∀ x, writtenCount? (encode x) = some (count x)
  summaryDetail : ∀ d, (summary d).detail = d

instance : Counted TransactionTotals where
  count := TransactionTotals.count
  countNone := rfl
  countAdd _ _ := rfl
  countWritten t := by
    have written := writtenCountFront t.count (Decimal.natChars t.failed ++
      ';' :: Decimal.intChars t.sumMs.toInt ++ ';' :: t.histogram.encode ++ [';'])
    simpa [Totals.encode, TransactionTotals.encode] using written
  summaryDetail _ := rfl

instance : Counted EventTotals where
  count := EventTotals.count
  countNone := rfl
  countAdd _ _ := rfl
  countWritten t := writtenCountFront t.count (Decimal.natChars t.failed)
  summaryDetail _ := rfl

def summarized (m : Message) : Nat := (writtenCount? m.detail.data.toList).getD 0

def summarizedIn (t : Tree) : Nat := sumBy summarized t.message.children

variable {α : Type} [Counted α]

namespace Table

def counted (t : Table α) : Nat := Keyed.total (Keyed.total Counted.count) t

theorem countedAdd (t : Table α) (o : Observation) : (Table.add t o).counted = t.counted + 1 := by
  have outer := Keyed.totalUpsert (Keyed.total Counted.count) o.domain (fun entries =>
    Keyed.upsert (o.type, o.name) (fun totals => Totals.add (totals.getD Totals.none) o)
      (entries.getD [])) t
  have inner := Keyed.totalUpsert (κ := String × String) (ν := α) Counted.count (o.type, o.name)
    (fun totals => Totals.add (totals.getD Totals.none) o) ((Keyed.get? o.domain t).getD [])
  rw [Counted.countAdd] at inner
  have known : Counted.count ((Keyed.get? (o.type, o.name) ((Keyed.get? o.domain t).getD [])).getD
      (Totals.none : α)) =
      ((Keyed.get? (o.type, o.name) ((Keyed.get? o.domain t).getD [])).map Counted.count).getD 0 := by
    cases Keyed.get? (o.type, o.name) ((Keyed.get? o.domain t).getD []) with
    | none => exact Counted.countNone
    | some totals => rfl
  have entries : Keyed.total Counted.count ((Keyed.get? o.domain t).getD []) =
      ((Keyed.get? o.domain t).map (Keyed.total Counted.count)).getD 0 := by
    cases Keyed.get? o.domain t <;> rfl
  unfold counted Table.add
  omega

end Table

theorem summarizedSummary (stamp : Stamp) (e : (String × String) × α) :
    summarized (summaryOf stamp e) = Counted.count e.2 := by
  unfold summarized summaryOf
  rw [Counted.summaryDetail, String.toList_ofList, Counted.countWritten]
  rfl

theorem summarizedRoot (stamp : Stamp) (entries : Keyed (String × String) α) :
    sumBy summarized (summaryRoot stamp entries).children = Keyed.total Counted.count entries := by
  simp only [summaryRoot, Message.children]
  induction entries with
  | nil => rfl
  | cons e rest ih =>
    simp only [Keyed.total] at ih
    simp only [List.map_cons, sumBy, Keyed.total, summarizedSummary, ih]

theorem flushCounts (stamp : Stamp) (ids : MessageIds) (t : Table α) :
    sumBy summarizedIn (Table.flush stamp ids t).1 = t.counted := by
  induction t generalizing ids with
  | nil => rfl
  | cons e rest ih =>
    obtain ⟨domain, entries⟩ := e
    simp only [Table.flush, sumBy, ih]
    simp only [summarizedIn, Tree.ofAgent, summarizedRoot, Table.counted, Keyed.total, sumBy]

namespace Intake

def accounted (a : Intake α) : Nat := a.dropped + a.waiting.size + a.table.counted

theorem accountedObserve (a : Intake α) (o : Observation) :
    (a.observe o).accounted = a.accounted + 1 := by
  unfold observe accounted
  cases a.verdict <;> simp only [Queue.push] <;> omega

theorem accountedObserveAll (os : List Observation) (a : Intake α) :
    (os.foldl observe a).accounted = a.accounted + os.length := by
  induction os generalizing a with
  | nil => rfl
  | cons o os ih => rw [List.foldl_cons, ih, accountedObserve, List.length_cons]; omega

theorem accountedAbsorb {a b : Intake α} (taken : a.absorb? = some b) : b.accounted = a.accounted := by
  obtain ⟨⟨o, rest⟩, popped, rfl⟩ := Option.map_eq_some_iff.mp taken
  have shorter := Queue.sizeOfPop popped
  simp only [accounted, Table.countedAdd]
  omega

end Intake

end Aggregate

end TraceRelay
