/-! First in, first out. `toList` is the queue from its head on; every operation is described by what it
does to that list. -/
namespace TraceRelay

structure Queue (α : Type) where
  front : List α := []
  /-- What came last stands first. -/
  back : List α := []
  size : Nat := front.length + back.length
  size_eq : size = front.length + back.length := by rfl

namespace Queue

variable {α : Type}

def empty : Queue α := {}

instance : Inhabited (Queue α) := ⟨empty⟩

def toList (q : Queue α) : List α := q.front ++ q.back.reverse

def push (q : Queue α) (a : α) : Queue α where
  front := q.front
  back := a :: q.back
  size := q.size + 1
  size_eq := by rw [q.size_eq, List.length_cons, Nat.add_assoc]

def pop? (q : Queue α) : Option (α × Queue α) :=
  match q.front with
  | a :: r => some (a, { front := r, back := q.back })
  | [] => match q.back.reverse with
    | a :: r => some (a, { front := r, back := [] })
    | [] => none

theorem sizeIsLength (q : Queue α) : q.size = q.toList.length := by
  simp [toList, q.size_eq]

@[simp] theorem toListEmpty : (empty : Queue α).toList = [] := rfl

@[simp] theorem toListPush (q : Queue α) (a : α) : (q.push a).toList = q.toList ++ [a] := by
  simp [push, toList]

theorem toListPop (q : Queue α) :
    (q.pop?).map (fun p => (p.1, p.2.toList)) = match q.toList with
      | [] => none
      | a :: r => some (a, r) := by
  obtain ⟨front, back, n, h⟩ := q
  cases front with
  | cons a r => simp [pop?, toList]
  | nil =>
    simp only [pop?, toList, List.nil_append]
    cases back.reverse with
    | nil => rfl
    | cons a r => simp

theorem popNoneIff (q : Queue α) : q.pop? = none ↔ q.toList = [] := by
  have h := toListPop q
  cases hq : q.pop? with
  | none => rw [hq] at h; simp only [true_iff]; cases hl : q.toList <;> simp_all
  | some p => rw [hq] at h; simp only [reduceCtorEq, false_iff]; cases hl : q.toList <;> simp_all

theorem toListOfPop {q r : Queue α} {a : α} (h : q.pop? = some (a, r)) :
    q.toList = a :: r.toList := by
  have := toListPop q
  rw [h] at this
  cases hl : q.toList with
  | nil => simp [hl] at this
  | cons b s => rw [hl] at this; simp only [Option.map_some, Option.some.injEq, Prod.mk.injEq] at this
                rw [this.1, this.2]

theorem sizeOfPop {q r : Queue α} {a : α} (h : q.pop? = some (a, r)) : r.size + 1 = q.size := by
  rw [sizeIsLength, sizeIsLength, toListOfPop h, List.length_cons]

def isEmpty (q : Queue α) : Bool := q.size == 0

end Queue

end TraceRelay
