import TraceRelay.Proofs.Ingest.Clean
import TraceRelay.Proofs.Ingest.Verdict
import TraceRelay.Proofs.MessageId
/-! Trees written out as bodies. A tree of clean texts is read back from every way of writing it, and
every tree that was read from a body is such a tree. -/
namespace TraceRelay
open Text (Bytes utf8 lossy joinWith)
open Ingest

inductive Form
  | alone | brief | full
  deriving DecidableEq, Repr

def Detail.line (d : Detail) (mark : Char) (duration : Bytes) : Line where
  mark := mark.toUInt8
  type := utf8 d.type
  name := utf8 d.name
  status := utf8 d.status
  timestamp := decimal d.timestamp
  duration := duration
  data := utf8 d.data

def Detail.opening (d : Detail) (form : Form) (duration : Int64) : Line :=
  match form with
  | .brief => { d.line 't' [] with data := [] }
  | _ => d.line 't' (decimal duration)

namespace Message

mutual

/-- The lines of a message. The form of each transaction is chosen by its place: which child it is, then
which child the message around it is, and so on outwards. -/
def lines (form : List Nat → Form) (place : List Nat) : Message → List Line
  | transaction d t cs =>
    if form place = .alone ∧ cs.isEmpty then [d.line 'A' (decimal t)]
    else d.opening (form place) t :: (linesAll form place 0 cs ++ [d.line 'T' (decimal t)])
  | event d => [d.line 'E' []]
  | heartbeat d => [d.line 'H' []]

def linesAll (form : List Nat → Form) (place : List Nat) (nth : Nat) : List Message → List Line
  | [] => []
  | m :: ms => m.lines form (nth :: place) ++ linesAll form place (nth + 1) ms

end

end Message

def Tree.headerOf (t : Tree) : Header where
  domain := utf8 t.domain
  threadGroup := utf8 t.threadGroup
  threadId := utf8 t.threadId
  threadName := utf8 t.threadName
  messageId := utf8 t.id
  parentId := utf8 t.parentId
  rootId := utf8 t.rootId

def Tree.render (t : Tree) (form : List Nat → Form) (lastFeed : Bool) : Bytes :=
  joinWith tab (t.headerOf.front ++ [t.headerOf.rootId]) ++ lineFeed ::
    (joinWith lineFeed ((t.message.lines form []).map Line.text) ++ if lastFeed then [lineFeed] else [])

def Detail.Clean (d : Detail) : Prop := ∀ s ∈ [d.type, d.name, d.status, d.data], Ingest.Clean s

structure Tree.Writable (t : Tree) : Prop where
  envelope : ∀ s ∈ [t.domain, t.threadGroup, t.threadId, t.threadName, t.id, t.parentId, t.rootId],
    Ingest.Clean s
  messages : ∀ n ∈ t.message.walk 0, n.2.detail.Clean
  identified : t.id ≠ ""

/-- What a body says of a tree: it can be discarded if no message in it failed. -/
def Tree.asRead (t : Tree) : Tree :=
  { t with
    discardable := (t.message.walk 0).all (fun n => n.2.succeeded)
    system := false }

/-! Lines of a message -/

theorem lineDetail (d : Detail) (mark : Char) (duration : Bytes) : (d.line mark duration).detail = d := by
  simp only [Line.detail, Detail.line, Text.lossyUtf8, numberDecimal]

theorem openingMark (d : Detail) (form : Form) (t : Int64) : (d.opening form t).mark = 't'.toUInt8 := by
  cases form <;> rfl

theorem closingKey (d : Detail) (form : Form) (t : Int64) (duration : Bytes) :
    SameKey (d.opening form t) (d.line 'T' duration) := by
  cases form <;> exact ⟨rfl, rfl⟩

theorem saidOnce {x y : Bytes} (same : y = [] ∨ y = x) : (if x = [] then y else x) = x := by
  split
  · rename_i empty
    rcases same with nothing | again
    · rw [nothing, empty]
    · exact again
  · rfl

theorem enclosedOwn (d : Detail) (form : Form) (t : Int64) (cs : List Message) :
    enclosed (d.opening form t) (d.line 'T' (decimal t)) cs = .transaction d t cs := by
  have data : (d.opening form t).data = [] ∨ (d.opening form t).data = (d.line 'T' (decimal t)).data := by
    cases form with
    | brief => exact .inl rfl
    | alone => exact .inr rfl
    | full => exact .inr rfl
  have duration : (d.opening form t).duration = [] ∨
      (d.opening form t).duration = (d.line 'T' (decimal t)).duration := by
    cases form with
    | brief => exact .inl rfl
    | alone => exact .inr rfl
    | full => exact .inr rfl
  have status : (d.opening form t).status = (d.line 'T' (decimal t)).status := by cases form <;> rfl
  have type : (d.opening form t).type = utf8 d.type := by cases form <;> rfl
  have name : (d.opening form t).name = utf8 d.name := by cases form <;> rfl
  have timestamp : (d.opening form t).timestamp = decimal d.timestamp := by cases form <;> rfl
  rw [enclosed, saidOnce (.inr status), saidOnce data, saidOnce duration, type, name, timestamp]
  simp only [Detail.line, Text.lossyUtf8, numberDecimal]

mutual

theorem linesForest (form : List Nat → Form) (place : List Nat) (m : Message) :
    Forest (m.lines form place) [m] := by
  cases m with
  | transaction d t cs =>
    rw [Message.lines]
    split
    · rename_i alone
      have nothing : cs = [] := List.isEmpty_iff.mp alone.2
      have whole : Leaf (d.line 'A' (decimal t)) (.transaction d t cs) := by
        have leaf : Leaf (d.line 'A' (decimal t)) _ := .transaction rfl
        rw [lineDetail] at leaf
        rw [nothing]
        simpa only [Detail.line, numberDecimal] using leaf
      exact .leaf whole .none
    · have inside := linesAllForest form place 0 cs
      have nested := Forest.nested (openingMark d (form place) t) inside rfl
        (closingKey d (form place) t (decimal t)) .none
      rw [enclosedOwn] at nested
      exact nested
  | event d =>
    have leaf : Leaf (d.line 'E' []) _ := .event rfl
    rw [lineDetail] at leaf
    exact .leaf leaf .none
  | heartbeat d =>
    have leaf : Leaf (d.line 'H' []) _ := .heartbeat rfl
    rw [lineDetail] at leaf
    exact .leaf leaf .none

theorem linesAllForest (form : List Nat → Form) (place : List Nat) (nth : Nat) (ms : List Message) :
    Forest (Message.linesAll form place nth ms) ms := by
  cases ms with
  | nil => exact .none
  | cons m ms =>
    exact forestAppend (linesForest form (nth :: place) m) (linesAllForest form place (nth + 1) ms)

end

theorem linesFilled (form : List Nat → Form) (place : List Nat) (m : Message) : m.lines form place ≠ [] := by
  cases m with
  | transaction d t cs => rw [Message.lines]; split <;> simp
  | event d => simp [Message.lines]
  | heartbeat d => simp [Message.lines]

/-! Their bytes -/

theorem cleanDetail (d : Detail) :
    d.Clean ↔ Ingest.Clean d.type ∧ Ingest.Clean d.name ∧ Ingest.Clean d.status ∧ Ingest.Clean d.data := by
  simp only [Detail.Clean, List.forall_mem_cons, List.not_mem_nil, false_implies, implies_true, and_true]

theorem markPlain {mark : UInt8} (known : mark ∈ marks) : Plain [mark] := by
  have apart : tab ∉ marks ∧ lineFeed ∉ marks := by decide
  constructor
  · intro member
    exact apart.1 (List.mem_singleton.mp member ▸ known)
  · intro member
    exact apart.2 (List.mem_singleton.mp member ▸ known)

theorem linePlain {d : Detail} (clean : d.Clean) (mark : Char) (known : mark.toUInt8 ∈ marks)
    {duration : Bytes} (plain : Plain duration) : ∀ f ∈ (d.line mark duration).fields, Plain f := by
  obtain ⟨type, name, status, data⟩ := (cleanDetail d).mp clean
  rw [fieldsPlain]
  exact ⟨markPlain known, plainUtf8 type, plainUtf8 name, plainUtf8 status, plainDecimal d.timestamp, plain,
    plainUtf8 data⟩

theorem plainNothing : Plain [] := ⟨List.not_mem_nil, List.not_mem_nil⟩

theorem openingPlain {d : Detail} (clean : d.Clean) (form : Form) (t : Int64) :
    ∀ f ∈ (d.opening form t).fields, Plain f := by
  have full := linePlain clean 't' (by decide) (plainDecimal t)
  cases form with
  | alone => exact full
  | full => exact full
  | brief =>
    obtain ⟨mark, type, name, status, timestamp, -, -⟩ := (fieldsPlain _).mp full
    rw [fieldsPlain]
    exact ⟨mark, type, name, status, timestamp, plainNothing, plainNothing⟩

mutual

theorem linesPlain {m : Message} {depth : Nat} (clean : ∀ n ∈ m.walk depth, n.2.detail.Clean)
    (form : List Nat → Form) (place : List Nat) : ∀ l ∈ m.lines form place, ∀ f ∈ l.fields, Plain f := by
  cases m with
  | transaction d t cs =>
    rw [Message.walk, List.forall_mem_cons] at clean
    have own : d.Clean := clean.1
    have inside := linesAllPlain clean.2 form place 0
    have closing := linePlain own 'T' (by decide) (plainDecimal t)
    rw [Message.lines]
    split
    · exact List.forall_mem_singleton.mpr (linePlain own 'A' (by decide) (plainDecimal t))
    · rw [List.forall_mem_cons, List.forall_mem_append, List.forall_mem_singleton]
      exact ⟨openingPlain own (form place) t, inside, closing⟩
  | event d =>
    have own : d.Clean := clean (depth, .event d) (by simp [Message.walk])
    exact List.forall_mem_singleton.mpr (linePlain own 'E' (by decide) plainNothing)
  | heartbeat d =>
    have own : d.Clean := clean (depth, .heartbeat d) (by simp [Message.walk])
    exact List.forall_mem_singleton.mpr (linePlain own 'H' (by decide) plainNothing)

theorem linesAllPlain {ms : List Message} {depth : Nat}
    (clean : ∀ n ∈ Message.walkAll depth ms, n.2.detail.Clean) (form : List Nat → Form) (place : List Nat)
    (nth : Nat) : ∀ l ∈ Message.linesAll form place nth ms, ∀ f ∈ l.fields, Plain f := by
  cases ms with
  | nil => exact fun l none => absurd none List.not_mem_nil
  | cons m ms =>
    rw [Message.walkAll, List.forall_mem_append] at clean
    rw [Message.linesAll, List.forall_mem_append]
    exact ⟨linesPlain clean.1 form (nth :: place), linesAllPlain clean.2 form place (nth + 1)⟩

end

/-! Success -/

theorem lineFailed (d : Detail) (mark : Char) (duration : Bytes) :
    (d.line mark duration).failed = !(d.status == success) := by
  have zero : utf8 "0" = [48] := by decide
  by_cases ok : d.status = success
  · simp [Line.failed, Detail.line, ok, success, zero]
  · have bytes : utf8 d.status ≠ [48] := by
      intro same
      have text := Text.lossyUtf8 d.status
      rw [same, ← zero, Text.lossyUtf8] at text
      exact ok text.symm
    have differs : (utf8 d.status != [48]) = true := bne_iff_ne.mpr bytes
    have failed : (d.status == success) = false := beq_eq_false_iff_ne.mpr ok
    rw [failed]
    exact differs

theorem openingFailed (d : Detail) (form : Form) (t : Int64) :
    (d.opening form t).failed = !(d.status == success) := by
  rw [← lineFailed d 't' []]
  cases form <;> rfl

mutual

theorem linesSucceed (m : Message) (depth : Nat) (form : List Nat → Form) (place : List Nat) :
    (m.lines form place).all (fun l => !l.failed) = (m.walk depth).all (fun n => n.2.succeeded) := by
  cases m with
  | transaction d t cs =>
    have inside := linesAllSucceed cs (depth + 1) form place 0
    rw [Message.lines, Message.walk]
    split
    · rename_i alone
      have nothing : cs = [] := List.isEmpty_iff.mp alone.2
      simp [lineFailed, Message.succeeded, Message.detail, nothing, Message.walkAll]
    · simp only [List.all_cons, List.all_append, List.all_nil, Bool.and_true, inside, openingFailed, lineFailed,
        Bool.not_not, Message.succeeded, Message.detail]
      cases d.status == success <;> simp
  | event d => simp [Message.lines, Message.walk, lineFailed, Message.succeeded, Message.detail]
  | heartbeat d => simp [Message.lines, Message.walk, lineFailed, Message.succeeded, Message.detail]

theorem linesAllSucceed (ms : List Message) (depth : Nat) (form : List Nat → Form) (place : List Nat)
    (nth : Nat) : (Message.linesAll form place nth ms).all (fun l => !l.failed) =
      (Message.walkAll depth ms).all (fun n => n.2.succeeded) := by
  cases ms with
  | nil => rfl
  | cons m ms =>
    rw [Message.linesAll, Message.walkAll, List.all_append, List.all_append,
      linesSucceed m depth form (nth :: place), linesAllSucceed ms depth form place (nth + 1)]

end

/-! The whole body -/

theorem renderHeader {t : Tree} (writable : t.Writable) (form : List Nat → Form) (lastFeed : Bool) :
    HeaderText t.headerOf (t.render form lastFeed)
      (joinWith lineFeed ((t.message.lines form []).map Line.text) ++
        if lastFeed then [lineFeed] else []) := by
  have clean := writable.envelope
  simp only [List.forall_mem_cons, List.not_mem_nil, false_implies, implies_true, and_true] at clean
  obtain ⟨domain, threadGroup, threadId, threadName, id, parentId, rootId⟩ := clean
  refine ⟨?_, plainUtf8 rootId, _, .lineFeed _, ?_⟩
  · rw [frontPlain]
    exact ⟨plainUtf8 domain, plainUtf8 threadGroup, plainUtf8 threadId, plainUtf8 threadName,
      plainUtf8 id, plainUtf8 parentId⟩
  · simp [Tree.render, Header.front, joinWith, tabbed]

theorem renderSentence {t : Tree} (writable : t.Writable) (form : List Nat → Form) (lastFeed : Bool) :
    Sentence (t.render form lastFeed) t.headerOf (t.message.lines form []) [t.message] := by
  refine ⟨⟨_, renderHeader writable form lastFeed, ?_⟩, linesForest form [] t.message⟩
  have plain := linesPlain writable.messages form []
  have filled := linesFilled form [] t.message
  cases lines : t.message.lines form [] with
  | nil => exact absurd lines filled
  | cons l ls =>
    rw [lines] at plain
    exact linesSpelled plain lastFeed

theorem renderReadsBack {t : Tree} (writable : t.Writable) (form : List Nat → Form) (lastFeed : Bool)
    (ids : MessageIds) : decode ids (t.render form lastFeed) = (.ok t.asRead, ids) := by
  have last : [t.message].getLast? = some t.message := rfl
  have read := parseSentence (renderSentence writable form lastFeed) last
  have own : lossy t.headerOf.messageId = t.id := Text.lossyUtf8 t.id
  rw [decodeOwn read (by rw [own]; exact writable.identified), own]
  simp only [Parsed.toTree, Tree.headerOf, Text.lossyUtf8, linesSucceed t.message 0, Tree.asRead]

end TraceRelay
