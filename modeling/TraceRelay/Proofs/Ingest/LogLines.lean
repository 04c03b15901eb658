import TraceRelay.Agent
import TraceRelay.Proofs.Ingest.RoundTrip
import TraceRelay.Proofs.Log.Lines
import TraceRelay.Proofs.MessageId.Unique
import TraceRelay.Proofs.Pipeline.Sightings
/-! What a client can make the agent log. Of a body, refused or not, only fields come into a text that is logged, or
what a tree took from them, and no field holds a tab or a line feed. -/
namespace TraceRelay
open Text (Bytes utf8 lossy)
open Ingest

namespace Ingest

instance (s : String) : Decidable (Clean s) := inferInstanceAs (Decidable (_ ∧ _))

/-! Refusals -/

theorem labelClean {l : Line} (plain : ∀ f ∈ l.fields, Plain f) : Clean l.label := by
  obtain ⟨-, type, name, -⟩ := (fieldsPlain l).mp plain
  exact cleanAppend (cleanAppend (cleanLossy type) (by decide)) (cleanLossy name)

theorem quotedCharClean (c : Char) : Clean (Text.quotedChar c) := by
  have shown := List.all_eq_true.mp (Text.quotedCharShown c)
  have hidden : Text.isPrintable '\t' ≠ true ∧ Text.isPrintable '\n' ≠ true := by decide
  exact ⟨fun tab => hidden.1 (shown _ tab), fun feed => hidden.2 (shown _ feed)⟩

theorem fieldNameClean (f : HeaderField) : Clean f.name := by
  cases f <;> decide

def Refusal.labels : Refusal → List String
  | closeWithoutOpen close => [close]
  | closeMismatch opened close => [opened, close]
  | neverClosed opened => [opened]
  | _ => []

theorem messageClean {e : Refusal} (labels : ∀ s ∈ e.labels, Clean s) : Clean e.message := by
  cases e with
  | missingHeaderField f => exact cleanAppend (cleanAppend (by decide) (fieldNameClean f)) (by decide)
  | malformedLine start => exact cleanAppend (by decide) (cleanNat start)
  | unknownMark b => exact cleanAppend (by decide) (quotedCharClean _)
  | closeWithoutOpen close =>
    have own := labels close List.mem_cons_self
    exact cleanAppend (cleanAppend (by decide) own) (by decide)
  | closeMismatch opened close =>
    have first := labels opened List.mem_cons_self
    have second := labels close (List.mem_cons_of_mem opened List.mem_cons_self)
    exact cleanAppend (cleanAppend (cleanAppend (by decide) second) (by decide)) first
  | neverClosed opened =>
    have own := labels opened List.mem_cons_self
    exact cleanAppend (cleanAppend (by decide) own) (by decide)
  | noMessage => exact (by decide : Clean "Body contains no message")

theorem framesInside {ls : List Line} {top : List Message} {frames : List (Line × List Message)}
    (fits : Underway ls top frames) : ∀ frame ∈ frames, frame.1 ∈ ls := by
  induction fits with
  | top => exact fun _ none => absurd none List.not_mem_nil
  | opened _ _ _ ih =>
    refine List.forall_mem_cons.mpr ⟨by simp, fun frame member => ?_⟩
    exact List.mem_append_left _ (ih frame member)

theorem offenceLabels {body : Bytes} {e : Refusal} (offence : Offence body e) : ∀ s ∈ e.labels, Clean s := by
  cases offence with
  | header | malformed | empty => exact fun _ none => absurd none List.not_mem_nil
  | @line _ _ done _ _ frames l _ _ _ read fits next misfit =>
    have opened : ∀ frame ∈ frames, Clean frame.1.label := fun frame member =>
      labelClean (spelledPlain read _ (framesInside fits frame member))
    cases misfit with
    | unknown => exact fun _ none => absurd none List.not_mem_nil
    | unopened => simpa [Refusal.labels] using labelClean next.plain
    | mismatch =>
      simpa [Refusal.labels] using ⟨(List.forall_mem_cons.mp opened).1, labelClean next.plain⟩
  | unclosed _ read fits =>
    have inside := framesInside fits _ List.mem_cons_self
    simpa [Refusal.labels] using labelClean (spelledPlain read _ inside)

theorem refusedClean {ids : MessageIds} {body : Bytes} {e : Refusal} (refused : (decode ids body).1 = .error e) :
    Clean e.message :=
  messageClean (offenceLabels (decodeBlamed refused))

/-! Messages that a later one replaced -/

theorem readPlain (bytes : Bytes) (start : Nat) :
    ∀ l ∈ (Lines.read start (segments bytes)).lines, ∀ f ∈ l.fields, Plain f := by
  obtain ⟨lines, left, spelled, rest⟩ := spelledOrStuck bytes
  obtain ⟨next, -, read, -⟩ := readSpelled spelled start
  have nothing : (Lines.read next (segments left)).lines = [] := by
    rcases rest with rfl | stuck
    · rfl
    · rw [readStuck stuck]
  rw [read, nothing, List.append_nil]
  exact spelledPlain spelled

theorem topForest {ls : List Line} {top : List Message} {frames : List (Line × List Message)}
    (fits : Underway ls top frames) : ∃ front, front <+: ls ∧ Forest front top := by
  induction fits with
  | top whole => exact ⟨_, List.prefix_refl _, whole⟩
  | opened _ _ _ ih =>
    obtain ⟨front, before, whole⟩ := ih
    exact ⟨front, before.trans (List.prefix_append _ _), whole⟩

/-- However a run over lines ends, what it holds is what the grammar says of the lines that fit. -/
theorem runHolding (lines : List Line) : ∃ done top frames, done <+: lines ∧ Underway done top frames ∧
    (({} : Nesting).run lines).1 = Nesting.holding done top frames := by
  rcases linesFitOrNot (.top .none) lines with ⟨top, frames, fits⟩ |
    ⟨done, l, after, top, frames, e, split, fits, misfit⟩
  · rw [List.nil_append] at fits
    exact ⟨lines, top, frames, List.prefix_refl _, fits, by rw [runWhole fits]⟩
  · rw [List.nil_append] at fits
    refine ⟨done, top, frames, ⟨l :: after, split.symm⟩, fits, ?_⟩
    rw [split, runUnderway fits, Nesting.run, misfitStep misfit]

theorem replacedClean {body : Bytes} {m : Message} (replaced : m ∈ (parse body).replaced) : m.detail.Clean := by
  cases read : Header.read body with
  | error e =>
    rw [parse, read] at replaced
    cases replaced
  | ok parts =>
    obtain ⟨h, rest⟩ := parts
    have plain := readPlain rest (body.length - rest.length)
    obtain ⟨done, top, frames, before, fits, held⟩ :=
      runHolding (Lines.read (body.length - rest.length) (segments rest)).lines
    obtain ⟨front, early, whole⟩ := topForest fits
    have member : m ∈ top := by
      simp only [parse, read, held, Nesting.holding, List.reverse_reverse] at replaced
      exact List.dropLast_subset _ replaced
    have inside : (0, m) ∈ m.walk 0 := by
      cases m <;> simp [Message.walk]
    exact forestClean whole (fun l among => plain l ((early.trans before).subset among)) 0 (0, m)
      (walkOfMem member inside)

theorem messageLabelClean {m : Message} (clean : m.detail.Clean) : Clean m.label := by
  obtain ⟨type, name, -⟩ := (cleanDetail m.detail).mp clean
  exact cleanAppend (cleanAppend type (by decide)) name

theorem noticesBare {body : Bytes} {e : Log.Event} (said : e ∈ notices body) : e.Bare := by
  obtain ⟨m, replaced, rfl⟩ := List.mem_map.mp said
  have label := messageLabelClean (replacedClean replaced)
  exact ⟨(by decide : '\n' ∉ "cat_agent::decoder".toList), (cleanAppend (by decide) label).2, rfl, rfl⟩

/-! Trees -/

theorem identityFree {home ipHex : String} {ids : MessageIds} (prepared : MessageIds.Prepared home ipHex ids)
    (ip : '\n' ∉ ipHex.toList) {h : Header} (domain : Plain h.domain) (own : Plain h.messageId) :
    '\n' ∉ (h.identity ids).toList := by
  rcases identityKinds prepared h with ⟨number, drawn⟩ | ⟨same, -⟩
  · have hour := Decimal.intCharsFree (c := '\n') (by decide) (by decide) ids.hour.toInt
    have digits := Decimal.natCharsFree (c := '\n') (by decide) number.toNat
    rw [drawn, MessageIds.formatChars]
    simp only [List.mem_append, List.mem_cons, (cleanLossy domain).2, ip, hour, digits, Char.reduceEq, or_self,
      not_false_eq_true]
  · rw [same]
    exact (cleanLossy own).2

theorem decodedId {home ipHex : String} {ids : MessageIds} {body : Bytes} {t : Tree}
    (decoded : (decode ids body).1 = .ok t) (reached : MessageIds.Reached home ipHex ids)
    (ip : '\n' ∉ ipHex.toList) : '\n' ∉ t.id.toList := by
  obtain ⟨h, lines, top, m, sentence, -, rfl⟩ := decodeAccepted decoded
  obtain ⟨rest, header, -⟩ := sentence.spelled
  obtain ⟨domain, -, -, -, own, -⟩ := (frontPlain h).mp header.front
  exact identityFree (MessageIds.reachedPrepared reached) ip domain own

end Ingest

namespace Pipeline

theorem marksWalked {x : Passage} : ∀ e ∈ x.marks, e ∈ walked x.tree := by
  have parts := walkedSplit x.tree
  unfold Passage.marks
  rw [parts]
  split
  · split
    · exact fun _ none => absurd none List.not_mem_nil
    · exact fun _ member => List.mem_append_right _ member
  · exact fun _ member => member

theorem seenWalked {p : Pipeline} {t : Tree} {s : Sighting} (seen : s ∈ p.seen t) :
    ∃ n ∈ t.message.walk 0, Sighting.of? t.domain n.2 = some s := by
  rw [← seenMarks] at seen
  obtain ⟨mark, member, rfl⟩ := List.mem_map.mp seen
  obtain ⟨n, inside, marked⟩ := List.mem_filterMap.mp (marksWalked mark member)
  obtain ⟨s, found, rfl⟩ := Option.map_eq_some_iff.mp marked
  exact ⟨n, inside, found⟩

theorem observedLabel {k : Aggregate.Kind} {domain : String} {m : Message} {s : Sighting} {o : Aggregate.Observation}
    (found : Sighting.of? domain m = some s) (own : Sighting.for? k s = some o) :
    o.type = m.detail.type ∧ o.name = m.detail.name := by
  cases m with
  | transaction | event =>
    cases found
    cases k <;> cases own
    exact ⟨rfl, rfl⟩
  | heartbeat => cases found

end Pipeline

theorem offerBare {b : Outbound.Outbox} {t : Tree} {e : Log.Event} (id : '\n' ∉ t.id.toList)
    (said : b.notice? t = some e) : e.Bare := by
  have lane : '\n' ∉ (Outbound.Lane.of t).name.toList := by
    cases Outbound.Lane.of t <;> decide
  unfold Outbound.Outbox.notice? at said
  split at said
  · cases said
    have front := Log.freeAppend (s := "Sender ") (by decide) lane
    have own := Log.freeAppend (Log.freeAppend front (t := " queue is full, tree ") (by decide)) id
    exact ⟨(by decide : '\n' ∉ "cat_agent::sender".toList), Log.freeAppend own (by decide), rfl, rfl⟩
  · cases said

theorem observeBare {α : Type} [Aggregate.Totals α] {a : Aggregate.Intake α} {o : Aggregate.Observation}
    {e : Log.Event} (type : '\n' ∉ o.type.toList) (name : '\n' ∉ o.name.toList) (said : a.notice? o = some e) :
    e.Bare := by
  have title : '\n' ∉ (Aggregate.Totals.kind α).title.toList := by
    cases Aggregate.Totals.kind α <;> decide
  have target : '\n' ∉ "cat_agent::aggregator_service".toList := by decide
  unfold Aggregate.Intake.notice? at said
  dsimp only at said
  split at said
  · cases said
  · cases said
    have front := Log.freeAppend (Log.freeAppend title (t := " queue is full, ") (by decide)) type
    have both := Log.freeAppend (Log.freeAppend front (t := ",") (by decide)) name
    exact ⟨target, Log.freeAppend both (by decide), rfl, rfl⟩
  · cases said
    exact ⟨target, Log.freeAppend title (by decide), rfl, rfl⟩

theorem rejectionBare {peer : String} {e : Refusal} (plain : '\n' ∉ peer.toList) (clean : Clean e.message) :
    (Agent.rejection peer e).Bare := by
  have status : '\n' ∉ (Agent.refusalStatus e).name.toList := by
    cases Agent.refusalStatus e <;> decide
  have front := Log.freeAppend (s := "Send message from ") (by decide) plain
  have told := Log.freeAppend (Log.freeAppend front (t := " rejected with status ") (by decide)) status
  exact ⟨(by decide : '\n' ∉ "cat_agent::server".toList),
    Log.freeAppend (Log.freeAppend told (t := ": ") (by decide)) clean.2, rfl, rfl⟩

theorem servedBare {a : Agent} {peer : String} {r : Inbound.Request} {e : Log.Event} (plain : '\n' ∉ peer.toList)
    (said : e ∈ a.notices peer r) : e.Bare := by
  unfold Agent.notices at said
  split at said
  · cases said
  · split at said
    · exact noticesBare said
    · rename_i refusal refused
      have decoded : (decode a.pipeline.ids r.body).1 = .error refusal := by
        unfold Agent.handle at refused
        split at refused
        · cases refused
        · rename_i same
          cases refused
          rw [same]
      rcases List.mem_append.mp said with early | last
      · exact noticesBare early
      · rw [List.mem_singleton.mp last]
        exact rejectionBare plain (refusedClean decoded)
  · rw [List.mem_singleton.mp said]
    have front := Log.freeAppend (s := "Unknown command ") (by decide) (cleanNat r.command).2
    exact ⟨(by decide : '\n' ∉ "cat_agent::server".toList),
      Log.freeAppend (Log.freeAppend front (t := " from ") (by decide)) plain, rfl, rfl⟩

open Log (Event OneLine clock written)

/-- What is logged of a request and of its body while it is read, and of its tree where a queue has no room. -/
inductive Heard : Event → Prop
  | served {a : Agent} {peer r e} (plain : '\n' ∉ peer.toList) (said : e ∈ a.notices peer r) : Heard e
  | replaced {body e} (said : e ∈ notices body) : Heard e
  | dropped {home ipHex ids body t e} (ip : '\n' ∉ ipHex.toList) (reached : MessageIds.Reached home ipHex ids)
      (decoded : (decode ids body).1 = .ok t) (b : Outbound.Outbox) (said : b.notice? t = some e) : Heard e
  | unobserved {ids body t k o e} {α : Type} [Aggregate.Totals α] (decoded : (decode ids body).1 = .ok t)
      (p : Pipeline) (seen : o ∈ Pipeline.observations k (p.seen t)) (a : Aggregate.Intake α)
      (said : a.notice? o = some e) : Heard e

theorem heardBare {e : Event} (heard : Heard e) : e.Bare := by
  cases heard with
  | served plain said => exact servedBare plain said
  | replaced said => exact noticesBare said
  | dropped ip reached decoded b said => exact offerBare (decodedId decoded reached ip) said
  | unobserved decoded p seen a said =>
    obtain ⟨s, sighted, own⟩ := List.mem_filterMap.mp seen
    obtain ⟨n, inside, found⟩ := Pipeline.seenWalked sighted
    obtain ⟨type, name, -⟩ := (cleanDetail _).mp (decodedMessages decoded n inside)
    obtain ⟨sameType, sameName⟩ := Pipeline.observedLabel found own
    exact observeBare (sameType ▸ type.2) (sameName ▸ name.2) said

/-- Whatever bytes clients send, a refusal reads as a clean text, and a log falls at its line feeds into the lines of
what was logged, one for each event. -/
theorem clientsForgeNothing :
    (∀ (ids : MessageIds) (body : Bytes) (e : Refusal), (decode ids body).1 = .error e → Clean e.message) ∧
    (∀ e, Heard e → ∀ micros, OneLine (e.line (clock micros))) ∧
    ∀ log : List (Nat × Event), (∀ x ∈ log, Heard x.2) →
      Text.splitOn '\n' (written log).toList =
        log.map (fun x => (x.2.line (clock x.1)).toList.dropLast) ++ [[]] := by
  refine ⟨fun _ _ _ => refusedClean, fun e heard micros => ?_, fun log heard => ?_⟩
  · exact Log.bareLine (heardBare heard) Log.harmlessFeedless (Log.clockFree micros)
  · exact Log.writtenLines fun x member => heardBare (heard x member)

def hostileFront : Bytes := utf8 "shop\tg\t1\tn\t\t\t\n"

/-- Its one line has a mark that no text has. -/
def refusedBody : Bytes := hostileFront ++ 0x85 :: utf8 "\tT\tn\t0\t1\t\t\n"

/-- Two messages, the first with control characters and the second with a byte that no text has. -/
def hostileBody : Bytes :=
  hostileFront ++ utf8 "E\tA\x1b\tk\r\t0\t1\t\t\nE\tB" ++ 0xFF :: utf8 "\tn\t0\t2\t\t\n"

def hostileTree : Tree where
  domain := "shop"
  id := "shop-7f000001-42-1"
  threadGroup := "g"
  threadId := "1"
  threadName := "n"
  message := .event ⟨"B\uFFFD", "n", "0", "", 2⟩

theorem hostileDecoded : (decode (.start "home" "7f000001" 42) hostileBody).1 = .ok hostileTree := by
  with_unfolding_all rfl

theorem hostileBodiesLogged :
    let ids := MessageIds.start "home" "7f000001" 42
    let b : Outbound.Outbox := { normalCapacity := 0 }
    let a : Aggregate.Intake Aggregate.EventTotals := { capacity := 0 }
    let p : Pipeline := { routing := { sample := 0.0 }, ids := ids }
    let o : Aggregate.Observation := ⟨"shop", "B\uFFFD", "n", true, 0⟩
    let replaced : Event := ⟨.debug, "cat_agent::decoder",
      "Body has more than one top-level element, dropping A\x1b:k\r", [], []⟩
    let dropped : Event := ⟨.warn, "cat_agent::sender",
      "Sender normal queue is full, tree shop-7f000001-42-1 has been discarded", [], []⟩
    let unobserved : Event := ⟨.warn, "cat_agent::aggregator_service",
      "EventAggregator queue is full, B\uFFFD,n has been discarded", [], []⟩
    (decode ids refusedBody).1 = .error (.unknownMark 0x85) ∧ Clean (Refusal.message (.unknownMark 0x85)) ∧
      (decode ids hostileBody).1 = .ok hostileTree ∧ notices hostileBody = [replaced] ∧
      b.notice? hostileTree = some dropped ∧ Pipeline.observations .event (p.seen hostileTree) = [o] ∧
      a.notice? o = some unobserved ∧
      (∀ e ∈ [replaced, dropped, unobserved], OneLine (e.line (clock 1792396800000000))) ∧
      (Text.splitOn '\n' (written [(5, replaced), (6, dropped), (7, unobserved)]).toList).length = 4 := by
  intro ids b a p o replaced dropped unobserved
  obtain ⟨refusals, lines, logs⟩ := clientsForgeNothing
  have blamed : (decode ids refusedBody).1 = .error (.unknownMark 0x85) := by rfl
  have said : notices hostileBody = [replaced] := by decide +kernel
  have full : b.notice? hostileTree = some dropped := by decide +kernel
  have seen : Pipeline.observations .event (p.seen hostileTree) = [o] := by decide +kernel
  have crowded : a.notice? o = some unobserved := by decide +kernel
  have heard : ∀ e ∈ [replaced, dropped, unobserved], Heard e := by
    simp only [List.forall_mem_cons, List.not_mem_nil, false_implies, implies_true, and_true]
    exact ⟨.replaced (said ▸ List.mem_cons_self), .dropped (by decide) (.start 42) hostileDecoded b full,
      .unobserved hostileDecoded p (seen ▸ List.mem_cons_self) a crowded⟩
  have log : ∀ x ∈ [(5, replaced), (6, dropped), (7, unobserved)], Heard x.2 := by
    simp only [List.forall_mem_cons] at heard
    simp [heard]
  refine ⟨blamed, refusals ids refusedBody _ blamed, hostileDecoded, said, full, seen, crowded,
    fun e member => lines e (heard e member) _, ?_⟩
  rw [logs _ log]
  rfl

end TraceRelay
