import TraceRelay.Proofs.Ingest.Grammar
/-! The stack after lines that the grammar allows. A forest leaves what was below it untouched; where a
line does not fit, the grammar and the stack say so with the same words. -/
namespace TraceRelay.Ingest
open Text (lossy)

namespace Nesting

def noting (n : Nesting) (ls : List Line) : Nesting :=
  { n with discardable := n.discardable && ls.all (fun l => !l.failed) }

theorem noteIsNoting (n : Nesting) (l : Line) : n.note l = n.noting [l] := by
  unfold note noting
  split
  · simp [*]
  · simp [*]

theorem notingNothing (n : Nesting) : n.noting [] = n := by
  simp [noting]

theorem notingAppend (n : Nesting) (ls ks : List Line) : (n.noting ls).noting ks = n.noting (ls ++ ks) := by
  simp [noting, List.all_append, Bool.and_assoc]

theorem attachNoting (n : Nesting) (ls : List Line) (m : Message) :
    (n.noting ls).attach m = (n.attach m).noting ls := by
  cases n with
  | mk stack root replaced discardable =>
    cases stack with
    | nil => rfl
    | cons o os => rfl

def attachAll (n : Nesting) (ms : List Message) : Nesting := ms.foldl attach n

theorem attachAllNoting (n : Nesting) (ls : List Line) (ms : List Message) :
    (n.noting ls).attachAll ms = (n.attachAll ms).noting ls := by
  induction ms generalizing n with
  | nil => rfl
  | cons m ms ih =>
    have first := attachNoting n ls m
    simp only [attachAll, List.foldl_cons] at ih ⊢
    rw [first, ih]

theorem attachAllInside (n : Nesting) (o : Opened) (os : List Opened) (ms : List Message) :
    { n with stack := o :: os }.attachAll ms =
      { n with stack := { o with newestFirst := ms.reverse ++ o.newestFirst } :: os } := by
  induction ms generalizing o with
  | nil => rfl
  | cons m ms ih =>
    have inner := ih (o.add m)
    simp only [attachAll, List.foldl_cons, attach] at inner ⊢
    rw [inner]
    simp [Opened.add]

theorem attachAllTop {n : Nesting} (none : n.stack = []) (ms : List Message) :
    n.attachAll ms =
      { n with
        root := (n.root.toList ++ ms).getLast?
        replaced := (n.root.toList ++ ms).dropLast.reverse ++ n.replaced } := by
  induction ms generalizing n with
  | nil => cases n with | mk stack root => cases root <;> simp [attachAll]
  | cons m ms ih =>
    have step : n.attach m = { n with root := some m, replaced := n.root.toList ++ n.replaced } := by
      simp only [attach, none]
    have rest := ih (n := n.attach m) (by rw [step]; exact none)
    simp only [attachAll, List.foldl_cons] at rest ⊢
    rw [rest, step]
    cases root : n.root with
    | none => simp
    | some old => simp [List.dropLast_cons_of_ne_nil, List.getLast?_cons_cons]

end Nesting

theorem leafStep {l : Line} {m : Message} (leaf : Leaf l m) (n : Nesting) :
    n.step l = .ok ((n.attach m).noting [l]) := by
  rw [← Nesting.attachNoting, ← Nesting.noteIsNoting]
  cases leaf with
  | transaction mark => simp +decide [Nesting.step, mark]
  | event mark => simp +decide [Nesting.step, mark]
  | heartbeat mark => simp +decide [Nesting.step, mark]

def Line.opened (o : Line) (inside : List Message) : Opened :=
  ⟨o.detail, Line.number o.duration, inside.reverse⟩

theorem openStep {o : Line} (opens : o.mark = 't'.toUInt8) (n : Nesting) :
    n.step o = .ok ({ n with stack := o.opened [] :: n.stack }.noting [o]) := by
  simp only [Nesting.step, opens, if_true, Nesting.noteIsNoting]
  rfl

theorem enclosedIsClose (o c : Line) (inside : List Message) :
    ((o.opened inside).amend c).close = enclosed o c inside := by
  simp only [Opened.close, Opened.amend, Line.opened, Line.detail, enclosed, List.reverse_reverse,
    apply_ite lossy, apply_ite Line.number]

theorem closeStep {o c : Line} {inside : List Message} {n : Nesting} {os : List Opened}
    (innermost : n.stack = o.opened inside :: os) (closes : c.mark = 'T'.toUInt8) (key : SameKey o c) :
    n.step c = .ok (({ n with stack := os }.attach (enclosed o c inside)).noting [c]) := by
  have same : (o.opened inside).detail.type = lossy c.type ∧ (o.opened inside).detail.name = lossy c.name := key
  have top : (n.noting [c]).stack = o.opened inside :: os := innermost
  have other : ¬ 'T'.toUInt8 = 't'.toUInt8 := by decide
  simp only [Nesting.step, closes, other, if_false, if_true, Nesting.noteIsNoting, Nesting.closing, top, same,
    and_self, enclosedIsClose]
  rw [← Nesting.attachNoting]
  rfl

theorem runForest {ls : List Line} {ms : List Message} (whole : Forest ls ms) (n : Nesting)
    (more : List Line) : n.run (ls ++ more) = ((n.attachAll ms).noting ls).run more := by
  induction whole generalizing n more with
  | none => rw [Nesting.notingNothing]; rfl
  | @leaf l m ls ms leaf others ih =>
    rw [List.cons_append, Nesting.run, leafStep leaf]
    simp only
    rw [ih, Nesting.attachAllNoting, Nesting.notingAppend]
    rfl
  | @nested o inner c ls cs ms opens inside closes key others ihInside ihOthers =>
    have filled : ({ n with stack := o.opened [] :: n.stack }.noting [o]).attachAll cs =
        { n with stack := o.opened cs :: n.stack }.noting [o] := by
      rw [Nesting.attachAllNoting, Nesting.attachAllInside]
      simp [Line.opened]
    have lines : o :: (inner ++ c :: ls) ++ more = o :: (inner ++ c :: (ls ++ more)) := by simp
    rw [lines, Nesting.run, openStep opens]
    simp only
    rw [ihInside, filled, Nesting.notingAppend, Nesting.run, closeStep rfl closes key]
    simp only
    rw [ihOthers, Nesting.attachAllNoting, Nesting.notingAppend]
    -- what was noted on the way is noted of `n`, with the transaction put back on its stack
    have restored : { { n with stack := o.opened cs :: n.stack }.noting ([o] ++ inner) with stack := n.stack } =
        n.noting ([o] ++ inner) := rfl
    rw [restored, Nesting.attachNoting, Nesting.attachAllNoting, Nesting.notingAppend]
    simp [Nesting.attachAll]

def Nesting.holding (ls : List Line) (top : List Message) (frames : List (Line × List Message)) : Nesting where
  stack := frames.map fun frame => frame.1.opened frame.2
  root := top.getLast?
  replaced := top.dropLast.reverse
  discardable := ls.all (fun l => !l.failed)

theorem runUnderway {ls : List Line} {top : List Message} {frames : List (Line × List Message)}
    (fits : Underway ls top frames) (more : List Line) :
    ({} : Nesting).run (ls ++ more) = (Nesting.holding ls top frames).run more := by
  induction fits generalizing more with
  | top whole =>
    rw [runForest whole, Nesting.attachAllTop rfl]
    simp [Nesting.holding, Nesting.noting]
  | @opened ls top frames o inner cs outer opens inside ih =>
    rw [List.append_assoc, ih, List.cons_append, Nesting.run, openStep opens]
    simp only
    rw [runForest inside, Nesting.attachAllNoting, Nesting.attachAllInside, Nesting.notingAppend]
    simp [Nesting.holding, Nesting.noting, Line.opened, List.all_append]

theorem runWhole {ls : List Line} {top : List Message} {frames : List (Line × List Message)}
    (fits : Underway ls top frames) : ({} : Nesting).run ls = (Nesting.holding ls top frames, none) := by
  have ran := runUnderway fits []
  rw [List.append_nil] at ran
  exact ran

theorem misfitStep {frames : List (Line × List Message)} {l : Line} {e : Refusal}
    (misfit : Misfit frames l e) (ls : List Line) (top : List Message) :
    (Nesting.holding ls top frames).step l = .error e := by
  have other : ¬ 'T'.toUInt8 = 't'.toUInt8 := by decide
  cases misfit with
  | unknown mark =>
    simp only [marks, List.mem_cons, List.not_mem_nil, or_false, not_or] at mark
    simp only [Nesting.step, mark, if_false]
  | unopened closes =>
    simp only [Nesting.step, closes, other, if_false, if_true, Nesting.noteIsNoting]
    rfl
  | @mismatch o cs frames _ closes differs =>
    simp only [Nesting.step, closes, other, if_false, if_true, Nesting.noteIsNoting, Nesting.closing,
      Nesting.holding, Nesting.noting, List.map_cons]
    exact if_neg differs

end TraceRelay.Ingest
