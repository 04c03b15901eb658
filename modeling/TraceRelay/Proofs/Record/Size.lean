import Mathlib.Algebra.Group.Nat.Defs
import TraceRelay.Proofs.Ingest.Verdict
import TraceRelay.Proofs.MessageId.Unique
import TraceRelay.Proofs.Record.Canonical
import TraceRelay.Proofs.Record.RoundTrip
import TraceRelay.Inbound.Frame
/-! How long the record of a decoded body can get: nine bytes for each byte of the body, and what the machine
is called. Four of the nine are enough for the text that a byte may become; with all nine, the mark and the
six tabs of a line also pay for the numbers and lengths that its message is written with. -/
namespace TraceRelay.Record
open Text (Bytes utf8 lossy)
open Ingest

/-! Texts -/

theorem textWidth (s : String) : (text s).length ≤ 10 + (utf8 s).length := by
  have length := varintLength (.ofNat (utf8 s).length)
  unfold text
  dsimp only
  rw [List.length_append]
  omega

theorem lossyWidth (bs : Bytes) : (utf8 (lossy bs)).length ≤ 4 * bs.length := by
  have chars := Text.lossyLength bs
  have bytes := Text.utf8Length (lossy bs)
  rw [lossy, String.toList_ofList] at bytes
  exact Nat.le_trans bytes (Nat.mul_le_mul_left 4 chars)

theorem lossyText (bs : Bytes) : (text (lossy bs)).length ≤ 10 + 4 * bs.length :=
  Nat.le_trans (textWidth _) (Nat.add_le_add_left (lossyWidth bs) 10)

/-! Messages -/

theorem lineLength (l : Line) : l.text.length =
    7 + l.type.length + l.name.length + l.status.length + l.timestamp.length + l.duration.length +
      l.data.length := by
  simp only [Line.text, Line.fields, Text.joinWith, List.length_append, List.length_cons, List.length_nil]
  omega

/-- The two marks of a transaction and its duration are counted for every message. -/
def written (d : Detail) : Nat := (atStart d).length + (atEnd d).length + 12

theorem lineWritten (l : Line) : written l.detail ≤ 9 * l.text.length := by
  have timestamp := varintLength l.detail.timestamp
  have type := lossyText l.type
  have name := lossyText l.name
  have status := lossyText l.status
  have data := lossyText l.data
  rw [lineLength]
  simp only [written, atStart, atEnd, Line.detail, List.length_append] at timestamp ⊢
  omega

theorem enclosedWritten (o c : Line) (inside : List Message) :
    written (enclosed o c inside).detail ≤ 9 * (o.text.length + c.text.length) := by
  have timestamp := varintLength (Line.number o.timestamp)
  have type := lossyText o.type
  have name := lossyText o.name
  have status := lossyText (if c.status = [] then o.status else c.status)
  have data := lossyText (if c.data = [] then o.data else c.data)
  have oneStatus : (if c.status = [] then o.status else c.status).length ≤ o.status.length + c.status.length := by
    split <;> omega
  have oneData : (if c.data = [] then o.data else c.data).length ≤ o.data.length + c.data.length := by
    split <;> omega
  rw [lineLength, lineLength]
  simp only [written, atStart, atEnd, enclosed, Message.detail, List.length_append]
  omega

theorem leafLength {l : Line} {m : Message} (leaf : Leaf l m) : (body m).length ≤ 9 * l.text.length := by
  have paid := lineWritten l
  unfold written at paid
  cases leaf with
  | transaction =>
    have duration := varintLength (Line.number l.duration)
    simp only [body, bodies, List.length_cons, List.length_append, List.length_nil]
    omega
  | event =>
    simp only [body, List.length_cons, List.length_append]
    omega
  | heartbeat =>
    simp only [body, List.length_cons, List.length_append]
    omega

theorem forestLength {ls : List Line} {ms : List Message} (whole : Forest ls ms) :
    (bodies ms).length ≤ 9 * (ls.flatMap Line.text).length := by
  induction whole with
  | none => exact Nat.le_refl 0
  | leaf leaf _ ih =>
    have first := leafLength leaf
    simp only [bodies, List.flatMap_cons, List.length_append]
    omega
  | @nested o inner c ls cs ms _ _ _ _ _ ihInside ihOthers =>
    have pair := enclosedWritten o c cs
    have duration := varintLength (Line.number (if c.duration = [] then o.duration else c.duration))
    simp only [written, enclosed, Message.detail] at pair
    simp only [bodies, enclosed, body, List.flatMap_cons, List.flatMap_append, List.length_append,
      List.length_cons]
    omega

theorem bodyInside {m : Message} {ms : List Message} (member : m ∈ ms) :
    (body m).length ≤ (bodies ms).length := by
  induction ms with
  | nil => cases member
  | cons k ms ih =>
    rw [bodies, List.length_append]
    rcases List.mem_cons.mp member with rfl | later
    · exact Nat.le_add_right _ _
    · exact Nat.le_trans (ih later) (Nat.le_add_left _ _)

theorem spelledLength {bytes left : Bytes} {ls : List Line} (spelled : Spelled bytes ls left) :
    (ls.flatMap Line.text).length ≤ bytes.length := by
  induction spelled with
  | none => exact Nat.zero_le _
  | @line l bytes rest ls left first _ ih =>
    obtain ⟨ending, stop, whole⟩ := first.text
    have shorter : rest.length ≤ ending.length := by
      cases stop <;> simp
    rw [List.flatMap_cons, List.length_append, whole, List.length_append]
    omega

/-! Headers -/

def fieldBytes (h : Header) : Nat :=
  h.domain.length + h.threadGroup.length + h.threadId.length + h.threadName.length + h.messageId.length +
    h.parentId.length + h.rootId.length

theorem headerLength {h : Header} {body rest : Bytes} (header : HeaderText h body rest) :
    fieldBytes h + rest.length ≤ body.length := by
  obtain ⟨ending, stop, whole⟩ := header.text
  have shorter : rest.length ≤ ending.length := by
    cases stop <;> simp
  rw [whole]
  simp only [fieldBytes, tabbed, Header.front, List.flatMap_cons, List.flatMap_nil, List.length_append,
    List.length_cons, List.length_nil]
  omega

theorem formatWidth (domain ipHex : String) (hour : Int64) (number : UInt32) :
    (utf8 (MessageIds.format domain ipHex hour number)).length ≤
      (utf8 domain).length + (utf8 ipHex).length + 123 := by
  have hours := Text.utf8Length (.ofList (Decimal.intChars hour.toInt))
  have numbers := Text.utf8Length (.ofList (Decimal.natChars number.toNat))
  have hourChars := MessageIds.hourLength hour
  have numberChars : (Decimal.natChars number.toNat).length ≤ 10 :=
    (Nat.length_toDigits_le_iff (by decide) (by decide)).mpr (Nat.lt_trans number.toNat_lt (by decide))
  simp only [utf8, String.toList_ofList] at hours numbers ⊢
  rw [MessageIds.formatChars]
  have dash : (String.utf8EncodeChar '-').length = 1 := rfl
  simp only [List.flatMap_append, List.flatMap_cons, List.length_append, dash]
  omega

variable {home ipHex : String} {ids : MessageIds}

theorem identityWidth (prepared : MessageIds.Prepared home ipHex ids) (h : Header) :
    (utf8 (h.identity ids)).length ≤ 4 * (h.domain.length + h.messageId.length) + (utf8 ipHex).length + 123 := by
  unfold Header.identity
  split
  · obtain ⟨number, drawn⟩ := MessageIds.nextFormat prepared (lossy h.domain)
    have domain := lossyWidth h.domain
    have id := formatWidth (lossy h.domain) ipHex ids.hour number
    rw [drawn]
    omega
  · have own := lossyWidth h.messageId
    omega

theorem recordLength (prepared : MessageIds.Prepared home ipHex ids) (origin : Origin) {bs : Bytes} {t : Tree}
    (accepted : (decode ids bs).1 = .ok t) :
    (ofTree origin t).encode.length ≤
      9 * bs.length + (utf8 origin.host).length + (utf8 origin.ip).length + (utf8 ipHex).length + 226 := by
  obtain ⟨h, lines, top, m, sentence, last, rfl⟩ := decodeAccepted accepted
  obtain ⟨rest, header, spelled⟩ := sentence.spelled
  have fields := headerLength header
  have messages : (body m).length ≤ 9 * rest.length :=
    Nat.le_trans (bodyInside (List.mem_of_getLast? last))
      (Nat.le_trans (forestLength sentence.whole) (Nat.mul_le_mul_left 9 (spelledLength spelled)))
  have id := identityWidth prepared h
  have tagLength : tag.length = 3 := rfl
  have domain := lossyText h.domain
  have host := textWidth origin.host
  have ip := textWidth origin.ip
  have threadGroup := lossyText h.threadGroup
  have threadId := lossyText h.threadId
  have threadName := lossyText h.threadName
  have idText := textWidth (h.identity ids)
  have parentId := lossyText h.parentId
  have rootId := lossyText h.rootId
  have session := textWidth ""
  have nothing : (utf8 "").length = 0 := rfl
  unfold fieldBytes at fields
  simp only [encode, Record.header, ofTree, Parsed.toTree, List.flatMap_cons, List.flatMap_nil,
    List.length_append, List.length_nil]
  omega

/-- With the longest body and a gigabyte of names for the machine, a record stays below the four gigabytes
that the length of its frame can count. -/
theorem inboundFramesKept (reached : MessageIds.Reached home ipHex ids) (e : Encoder) (out : Buffer) {bs : Bytes}
    {t : Tree} (fits : bs.length ≤ Inbound.maxBody) (accepted : (decode ids bs).1 = .ok t)
    (names : (utf8 e.origin.host).length + (utf8 e.origin.ip).length + (utf8 ipHex).length < 2 ^ 30) :
    let record := (e.encode t).scratch.toList
    record.length < 2 ^ 32 ∧
      (e.encodeFramed out t).2.toList = out.toList ++ (word32 record.length ++ record) ∧
      ∀ rest, readWord32? (word32 record.length ++ rest) = some (record.length, rest) := by
  intro record
  have same : record = (ofTree e.origin t).encode := Encoder.scratchIsRecord e t
  have bound := recordLength (MessageIds.reachedPrepared reached) e.origin accepted
  have short : record.length < 2 ^ 32 := by
    simp only [Inbound.maxBody] at fits
    rw [same]
    omega
  refine ⟨short, ?_, readWord32OfWord32 short⟩
  rw [Encoder.framedOut, framed, same]

/-- Bytes that are no text, and an id that has to be drawn. -/
theorem replacedBytesFramed :
    let ids : MessageIds := .start "home" "7f000001" (-1)
    let bs := utf8 "d\tg\t1\tn\t\t\t\nE\tSQL\tq\t0\t6\t\t" ++ [0xFF, 0xC3, 0xFE]
    let t : Tree := {
      domain := "d", id := "d-7f000001--1-1", threadGroup := "g", threadId := "1", threadName := "n"
      message := .event ⟨"SQL", "q", "0", "\uFFFD\uFFFD\uFFFD", 6⟩ }
    let e : Encoder := ⟨⟨"host", "10.0.0.1"⟩, #[84]⟩
    bs.length ≤ Inbound.maxBody ∧ (decode ids bs).1 = .ok t ∧
      (utf8 e.origin.host).length + (utf8 e.origin.ip).length + (utf8 ids.ipHex).length < 2 ^ 30 ∧
      readWord32? ((e.encodeFramed #[] t).2.toList) =
        some ((e.encode t).scratch.size, (e.encode t).scratch.toList) := by
  intro ids bs t e
  have fits : bs.length ≤ Inbound.maxBody := by decide +kernel
  have accepted : (decode ids bs).1 = .ok t := by with_unfolding_all rfl
  have names : (utf8 e.origin.host).length + (utf8 e.origin.ip).length + (utf8 ids.ipHex).length < 2 ^ 30 := by
    decide +kernel
  have reached : MessageIds.Reached "home" "7f000001" ids := .start (-1)
  obtain ⟨-, framed, read⟩ := inboundFramesKept reached e #[] fits accepted names
  exact ⟨fits, accepted, names, by rw [framed]; exact read _⟩

end TraceRelay.Record
