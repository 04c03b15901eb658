import TraceRelay.Proofs.Ingest.Rendering
/-! From a body to a tree and back. Whatever bytes a body is made of, the texts of its tree are clean: bytes
that are no text read as replacement characters, never as a tab or a line feed. -/
namespace TraceRelay
open Text (Bytes lossy)
open Ingest

theorem spelledPlain {bytes left : Bytes} {ls : List Line} (spelled : Spelled bytes ls left) :
    ∀ l ∈ ls, ∀ f ∈ l.fields, Plain f := by
  induction spelled with
  | none => exact fun l none => absurd none List.not_mem_nil
  | line first _ ih => exact List.forall_mem_cons.mpr ⟨first.plain, ih⟩

theorem lineClean {l : Line} (plain : ∀ f ∈ l.fields, Plain f) : l.detail.Clean := by
  obtain ⟨-, type, name, status, -, -, data⟩ := (fieldsPlain l).mp plain
  rw [cleanDetail]
  exact ⟨cleanLossy type, cleanLossy name, cleanLossy status, cleanLossy data⟩

theorem enclosedClean {o c : Line} (opens : ∀ f ∈ o.fields, Plain f) (closes : ∀ f ∈ c.fields, Plain f)
    (inside : List Message) : (enclosed o c inside).detail.Clean := by
  obtain ⟨-, type, name, status, -, -, data⟩ := (fieldsPlain o).mp opens
  obtain ⟨-, -, -, status', -, -, data'⟩ := (fieldsPlain c).mp closes
  rw [cleanDetail]
  refine ⟨cleanLossy type, cleanLossy name, cleanLossy ?_, cleanLossy ?_⟩
  · split
    · exact status
    · exact status'
  · split
    · exact data
    · exact data'

theorem leafWalk {l : Line} {m : Message} (leaf : Leaf l m) (depth : Nat) :
    m.walk depth = [(depth, m)] ∧ m.detail = l.detail := by
  cases leaf with
  | transaction => exact ⟨by rw [Message.walk, Message.walkAll], rfl⟩
  | event => exact ⟨by rw [Message.walk], rfl⟩
  | heartbeat => exact ⟨by rw [Message.walk], rfl⟩

/-- What holds of a line by itself, and of an open line with its close line, holds of every message. -/
theorem forestDetails {P : Detail → Prop} {Q : Line → Prop} (alone : ∀ l, Q l → P l.detail)
    (paired : ∀ o c inside, Q o → Q c → P (enclosed o c inside).detail) {ls : List Line} {ms : List Message}
    (whole : Forest ls ms) (each : ∀ l ∈ ls, Q l) (depth : Nat) :
    ∀ n ∈ Message.walkAll depth ms, P n.2.detail := by
  induction whole generalizing depth with
  | none => exact fun n none => absurd none List.not_mem_nil
  | @leaf l m ls ms leaf _ ih =>
    obtain ⟨first, others⟩ := List.forall_mem_cons.mp each
    obtain ⟨walked, detail⟩ := leafWalk leaf depth
    rw [Message.walkAll, List.forall_mem_append, walked, List.forall_mem_singleton, detail]
    exact ⟨alone l first, ih others depth⟩
  | @nested o inner c ls cs ms _ _ _ _ _ ihInside ihOthers =>
    rw [List.forall_mem_cons, List.forall_mem_append, List.forall_mem_cons] at each
    obtain ⟨opens, inside, closes, others⟩ := each
    rw [Message.walkAll, List.forall_mem_append]
    refine ⟨?_, ihOthers others depth⟩
    rw [enclosed, Message.walk, List.forall_mem_cons]
    exact ⟨paired o c cs opens closes, ihInside inside (depth + 1)⟩

theorem forestClean {ls : List Line} {ms : List Message} (whole : Forest ls ms)
    (plain : ∀ l ∈ ls, ∀ f ∈ l.fields, Plain f) (depth : Nat) :
    ∀ n ∈ Message.walkAll depth ms, n.2.detail.Clean :=
  forestDetails (fun _ => lineClean) (fun _ _ inside opens closes => enclosedClean opens closes inside) whole
    plain depth

theorem walkOfMem {m : Message} {ms : List Message} (member : m ∈ ms) {n : Nat × Message} {depth : Nat}
    (inside : n ∈ m.walk depth) : n ∈ Message.walkAll depth ms := by
  induction ms with
  | nil => cases member
  | cons k ms ih =>
    rw [Message.walkAll, List.mem_append]
    rcases List.mem_cons.mp member with same | later
    · exact .inl (same ▸ inside)
    · exact .inr (ih later)

theorem formatClean {domain ipHex : String} (own : Clean domain) (ip : Clean ipHex) (hour : Int64)
    (number : UInt32) : Clean (MessageIds.format domain ipHex hour number) := by
  have dash : Clean "-" := by simp +decide [Clean]
  unfold MessageIds.format MessageIds.front
  exact cleanAppend (cleanAppend (cleanAppend (cleanAppend (cleanAppend (cleanAppend own dash) ip) dash)
    (cleanInt _)) dash) (cleanNat _)

theorem formatFilled (domain ipHex : String) (hour : Int64) (number : UInt32) :
    MessageIds.format domain ipHex hour number ≠ "" := by
  intro empty
  have chars := congrArg String.toList empty
  simp [MessageIds.format, MessageIds.front] at chars

/-- A tree has an id that was drawn for its domain, or the one that its body brought. -/
theorem identityKinds {home ipHex : String} {ids : MessageIds} (prepared : MessageIds.Prepared home ipHex ids)
    (h : Header) : (∃ number, h.identity ids = MessageIds.format (lossy h.domain) ipHex ids.hour number) ∨
      (h.identity ids = lossy h.messageId ∧ lossy h.messageId ≠ "") := by
  unfold Header.identity
  split
  · exact .inl (MessageIds.nextFormat prepared (lossy h.domain))
  · rename_i brought
    exact .inr ⟨rfl, brought⟩

theorem identityClean {home ipHex : String} {ids : MessageIds}
    (prepared : MessageIds.Prepared home ipHex ids) (ip : Clean ipHex) {h : Header}
    (domain : Plain h.domain) (own : Plain h.messageId) : Clean (h.identity ids) ∧ h.identity ids ≠ "" := by
  rcases identityKinds prepared h with ⟨number, drawn⟩ | ⟨same, brought⟩
  · rw [drawn]
    exact ⟨formatClean (cleanLossy domain) ip _ _, formatFilled _ _ _ _⟩
  · rw [same]
    exact ⟨cleanLossy own, brought⟩

theorem decodedMessages {ids : MessageIds} {body : Bytes} {t : Tree} (decoded : (decode ids body).1 = .ok t) :
    ∀ n ∈ t.message.walk 0, n.2.detail.Clean := by
  obtain ⟨h, lines, top, m, sentence, last, rfl⟩ := decodeAccepted decoded
  obtain ⟨rest, -, spelled⟩ := sentence.spelled
  exact fun n inside => forestClean sentence.whole (spelledPlain spelled) 0 n
    (walkOfMem (List.mem_of_getLast? last) inside)

theorem decodedWritable {home ipHex : String} {ids : MessageIds}
    (prepared : MessageIds.Prepared home ipHex ids) (ip : Clean ipHex) {body : Bytes} {t : Tree}
    (accepted : (decode ids body).1 = .ok t) : t.Writable := by
  have messages := decodedMessages accepted
  obtain ⟨h, lines, top, m, sentence, -, rfl⟩ := decodeAccepted accepted
  obtain ⟨rest, header, -⟩ := sentence.spelled
  obtain ⟨domain, threadGroup, threadId, threadName, messageId, parentId⟩ := (frontPlain h).mp header.front
  obtain ⟨id, identified⟩ := identityClean prepared ip domain messageId
  refine ⟨?_, messages, identified⟩
  simp only [Parsed.toTree, List.forall_mem_cons, List.not_mem_nil, false_implies, implies_true, and_true]
  exact ⟨cleanLossy domain, cleanLossy threadGroup, cleanLossy threadId, cleanLossy threadName, id,
    cleanLossy parentId, cleanLossy header.last⟩

theorem renderDecodeInverse :
    (∀ (t : Tree) (form : List Nat → Form) (lastFeed : Bool) (ids : MessageIds), t.Writable →
      decode ids (t.render form lastFeed) = (.ok t.asRead, ids)) ∧
    ∀ (home ipHex : String) (ids ids' : MessageIds) (body : Bytes) (t : Tree), Clean ipHex →
      MessageIds.Reached home ipHex ids → decode ids body = (.ok t, ids') →
      t.Writable ∧ ∀ (form : List Nat → Form) (lastFeed : Bool) (later : MessageIds),
        decode later (t.render form lastFeed) = (.ok t.asRead, later) := by
  refine ⟨fun t form lastFeed ids writable => renderReadsBack writable form lastFeed ids, ?_⟩
  intro home ipHex ids ids' body t ip reached decoded
  have writable := decodedWritable (MessageIds.reachedPrepared reached) ip
    (show (decode ids body).1 = .ok t by rw [decoded])
  exact ⟨writable, fun form lastFeed later => renderReadsBack writable form lastFeed later⟩

def nestedTree : Tree where
  domain := "shop"
  id := "shop-1"
  threadGroup := "pool"
  message := .transaction ⟨"URL", "/cart", "", "", -5⟩ (-3)
    [.event ⟨"T", "T", "0", "x=1", 0⟩, .transaction ⟨"SQL", "q", "0", "", 7⟩ 9 []]

def nestedBody : Bytes := nestedTree.render (fun place => if place = [] then .brief else .alone) false

theorem nestedWritable : nestedTree.Writable := by
  refine ⟨?_, ?_, by decide⟩
  · simp +decide [nestedTree, Clean]
  · simp +decide [nestedTree, Message.walk, Message.walkAll, Message.detail, Detail.Clean, Clean]

theorem nestedTreeThereAndBack :
    nestedTree.Writable ∧
    decode (.start "home" "7f000001" 42) nestedBody = (.ok nestedTree.asRead, .start "home" "7f000001" 42) ∧
    decode (.start "home" "7f000001" 43)
      (nestedTree.asRead.render (fun _ => .full) true) =
        (.ok nestedTree.asRead, .start "home" "7f000001" 43) := by
  have there := renderDecodeInverse.1 nestedTree (fun place => if place = [] then .brief else .alone) false
    (.start "home" "7f000001" 42) nestedWritable
  have back := renderDecodeInverse.2 "home" "7f000001" (.start "home" "7f000001" 42) (.start "home" "7f000001" 42)
    nestedBody nestedTree.asRead (by simp +decide [Clean]) (.start 42) there
  exact ⟨nestedWritable, there, back.2 (fun _ => .full) true (.start "home" "7f000001" 43)⟩

end TraceRelay
