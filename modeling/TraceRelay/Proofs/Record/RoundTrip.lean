import TraceRelay.Proofs.Record.Buffers
import TraceRelay.Proofs.Text.Utf8
import TraceRelay.Record.Reading
/-! Records read back. No message begins with the byte that closes a transaction, so the children end
where the reader sees that byte between two of them; inside a message it never looks for it. -/
namespace TraceRelay.Record
open Text (Bytes utf8)

/-! Texts -/

theorem takeFront (front rest : Bytes) : take? front.length (front ++ rest) = some (front, rest) := by
  rw [take?, if_pos (by simp), List.take_left, List.drop_left]

theorem textLength (s : String) : (utf8 s).length ≤ (text s).length := by
  unfold text
  dsimp only
  rw [List.length_append]
  omega

theorem readTextOfText {s : String} (small : (text s).length < 0x100000000) (rest : Bytes) :
    readText? (text s ++ rest) = some (s, rest) := by
  have bound := textLength s
  have length : (Int64.ofNat (utf8 s).length).toUInt64.toNat = (utf8 s).length := by
    rw [Int64.toUInt64_ofNat', UInt64.toNat_ofNat_of_lt' (by rw [UInt64.size]; omega)]
  have groupsRead := readGroupsOfGroups (utf8 s).length (utf8 s ++ rest)
  simp only [readText?, text, varint, length, List.append_assoc, groupsRead, takeFront, Text.ofUtf8Utf8,
    bind, Option.bind, pure]

theorem readTextsOfTexts (ss : List String) (small : (ss.flatMap text).length < 0x100000000) (rest : Bytes) :
    readTexts? ss.length (ss.flatMap text ++ rest) = some (ss, rest) := by
  induction ss with
  | nil => rfl
  | cons s ss ih =>
    rw [List.flatMap_cons, List.length_append] at small
    have first := readTextOfText (s := s) (by omega) (ss.flatMap text ++ rest)
    have others := ih (by omega)
    simp only [List.flatMap_cons, List.length_cons, List.append_assoc, readTexts?, first, others, bind,
      Option.bind, pure]

/-! Messages -/

theorem readStartOfStart {d : Detail} (small : (atStart d).length < 0x100000000) (rest : Bytes) :
    readStart? (atStart d ++ rest) = some (⟨d.type, d.name, "", "", d.timestamp⟩, rest) := by
  simp only [atStart, List.length_append] at small
  have type := readTextOfText (s := d.type) (by omega) (text d.name ++ rest)
  have name := readTextOfText (s := d.name) (by omega) rest
  simp only [readStart?, atStart, List.append_assoc, readVarintOfVarint, type, name, bind, Option.bind, pure]

theorem readEndOfEnd {d : Detail} (small : (atEnd d).length < 0x100000000) (rest : Bytes) :
    readEnd? ⟨d.type, d.name, "", "", d.timestamp⟩ (atEnd d ++ rest) = some (d, rest) := by
  simp only [atEnd, List.length_append] at small
  have status := readTextOfText (s := d.status) (by omega) (text d.data ++ rest)
  have data := readTextOfText (s := d.data) (by omega) rest
  simp only [readEnd?, atEnd, List.append_assoc, status, data, bind, Option.bind, pure]

theorem bodyLeads (m : Message) : ∃ leader tail, body m = leader :: tail ∧ leader ≠ closes := by
  cases m with
  | transaction d t cs =>
    exact ⟨opens, atStart d ++ bodies cs ++ closes :: atEnd d ++ varint t, by simp [body], by decide⟩
  | event d => exact ⟨marksEvent, atStart d ++ atEnd d, by simp [body], by decide⟩
  | heartbeat d => exact ⟨marksHeartbeat, atStart d ++ atEnd d, by simp [body], by decide⟩

theorem readLeaf (mark : UInt8) (d : Detail) (other : mark ≠ opens)
    (small : (atStart d).length + (atEnd d).length < 0x100000000) (steps : Nat) (rest : Bytes) :
    readMessage? (steps + 1) (mark :: (atStart d ++ (atEnd d ++ rest))) =
      if mark = marksEvent then some (.event d, rest)
      else if mark = marksHeartbeat then some (.heartbeat d, rest)
      else none := by
  have start := readStartOfStart (d := d) (by omega)
  have ending := readEndOfEnd (d := d) (by omega)
  simp only [readMessage?, start, other, if_false, ending, bind, Option.bind, pure]

mutual

theorem readMessageOfBody (m : Message) (steps : Nat) (rest : Bytes) (enough : (body m).length ≤ steps)
    (small : (body m).length < 0x100000000) : readMessage? steps (body m ++ rest) = some (m, rest) := by
  cases steps with
  | zero =>
    obtain ⟨leader, tail, shape, -⟩ := bodyLeads m
    rw [shape] at enough
    exact absurd enough (by simp)
  | succ steps =>
    cases m with
    | transaction d t cs =>
      simp only [body, List.length_append, List.length_cons] at enough small
      have start := readStartOfStart (d := d) (by omega)
      have inside := readMessagesOfBodies cs steps (atEnd d ++ (varint t ++ rest)) (by omega) (by omega)
      have ending := readEndOfEnd (d := d) (by omega)
      simp only [body, List.cons_append, List.append_assoc, readMessage?, start, if_true, inside, ending,
        readVarintOfVarint, bind, Option.bind, pure]
    | event d =>
      simp only [body, List.length_append, List.length_cons] at small
      have leaf := readLeaf marksEvent d (by decide) (by omega) steps rest
      rw [if_pos rfl] at leaf
      simpa only [body, List.cons_append, List.append_assoc] using leaf
    | heartbeat d =>
      simp only [body, List.length_append, List.length_cons] at small
      have leaf := readLeaf marksHeartbeat d (by decide) (by omega) steps rest
      rw [if_neg (by decide), if_pos rfl] at leaf
      simpa only [body, List.cons_append, List.append_assoc] using leaf

theorem readMessagesOfBodies (ms : List Message) (steps : Nat) (rest : Bytes)
    (enough : (bodies ms).length < steps) (small : (bodies ms).length < 0x100000000) :
    readMessages? steps (bodies ms ++ closes :: rest) = some (ms, rest) := by
  cases steps with
  | zero => omega
  | succ steps =>
    cases ms with
    | nil => simp only [bodies, List.nil_append, readMessages?, if_true]
    | cons m ms =>
      obtain ⟨leader, tail, shape, differs⟩ := bodyLeads m
      have positive := congrArg List.length shape
      simp only [bodies, List.length_append, List.length_cons] at enough small positive
      have first := readMessageOfBody m steps (bodies ms ++ closes :: rest) (by omega) (by omega)
      have others := readMessagesOfBodies ms steps rest (by omega) (by omega)
      rw [shape, List.cons_append] at first
      simp only [bodies, shape, List.cons_append, List.append_assoc, readMessages?, differs, if_false, first,
        others, bind, Option.bind, pure]

end

/-! Records -/

theorem readOfEncode {r : Record} (small : r.encode.length < 0x100000000) (rest : Bytes) :
    read? (r.encode ++ rest) = some (r, rest) := by
  simp only [encode, List.length_append] at small
  have tagRead := takeFront tag (r.header.flatMap text ++ (body r.message ++ rest))
  have texts := readTextsOfTexts r.header (by omega) (body r.message ++ rest)
  have ten : r.header.length = 10 := rfl
  rw [ten] at texts
  have message := readMessageOfBody r.message ((body r.message ++ rest).length + 1) rest
    (by rw [List.length_append]; omega) (by omega)
  simp only [read?, encode, List.append_assoc, tagRead, if_true, texts, message, bind, Option.bind, pure]
  rfl

theorem readWord32OfWord32 {n : Nat} (small : n < 0x100000000) (rest : Bytes) :
    readWord32? (word32 n ++ rest) = some (n, rest) := by
  simp only [word32, List.cons_append, List.nil_append, readWord32?, UInt8.toNat_ofNat', Option.some.injEq,
    Prod.mk.injEq, and_true]
  omega

theorem readFramesOfFramed {rs : List Record} (small : ∀ r ∈ rs, r.encode.length < 0x100000000) {frames : Nat}
    (enough : rs.length ≤ frames) : readFrames? frames (rs.flatMap framed) = some rs := by
  induction rs generalizing frames with
  | nil => cases frames <;> rfl
  | cons r rs ih =>
    obtain ⟨first, others⟩ := List.forall_mem_cons.mp small
    cases frames with
    | zero => simp at enough
    | succ frames =>
      have length := readWord32OfWord32 first (r.encode ++ rs.flatMap framed)
      have whole := readOfEncode first []
      rw [List.append_nil] at whole
      have rest := ih others (Nat.le_of_succ_le_succ enough)
      have shape : (r :: rs).flatMap framed = word32 r.encode.length ++ (r.encode ++ rs.flatMap framed) := by
        rw [List.flatMap_cons, framed, List.append_assoc]
      obtain ⟨b, bs, filled⟩ : ∃ b bs, (r :: rs).flatMap framed = b :: bs := by
        rw [shape]
        exact ⟨_, _, rfl⟩
      rw [filled, readFrames?]
      · rw [← filled, shape]
        simp only [length, takeFront, whole, rest, if_true, bind, Option.bind, pure]
      · exact fun empty => List.cons_ne_nil b bs empty

theorem framedLonger (rs : List Record) : rs.length ≤ (rs.flatMap framed).length := by
  induction rs with
  | nil => simp
  | cons r rs ih =>
    rw [List.flatMap_cons, framed, List.length_cons, List.length_append, List.length_append]
    simp only [word32, List.length_cons, List.length_nil]
    omega

theorem readAllOfFramed {rs : List Record} (small : ∀ r ∈ rs, r.encode.length < 0x100000000) :
    readAll? (rs.flatMap framed) = some rs :=
  readFramesOfFramed small (framedLonger rs)

theorem encodedTreesReadBack (e : Encoder) (ts : List Tree)
    (small : ∀ t ∈ ts, (e.encode t).scratch.size < 0x100000000) :
    ∃ rs, (e.encodeAll #[] ts).2.toList = rs.flatMap (fun r => word32 r.encode.length ++ r.encode) ∧
      (∀ r ∈ rs, read? r.encode = some (r, [])) ∧
      readAll? (e.encodeAll #[] ts).2.toList = some rs ∧
      rs.map header = ts.map (fun t => [t.domain, e.origin.host, e.origin.ip, t.threadGroup, t.threadId,
        t.threadName, t.id, t.parentId, t.rootId, ""]) ∧
      rs.map message = ts.map Tree.message := by
  have short : ∀ r ∈ ts.map (ofTree e.origin), r.encode.length < 0x100000000 := by
    intro r member
    obtain ⟨t, inside, rfl⟩ := List.mem_map.mp member
    rw [← Encoder.scratchIsRecord, Array.length_toList]
    exact small t inside
  have out : (e.encodeAll #[] ts).2.toList = (ts.map (ofTree e.origin)).flatMap framed :=
    Encoder.allOut e #[] ts
  refine ⟨ts.map (ofTree e.origin), out, fun r member => ?_, ?_, ?_, ?_⟩
  · have whole := readOfEncode (short r member) []
    rw [List.append_nil] at whole
    exact whole
  · rw [out, readAllOfFramed short]
  · rw [List.map_map]
    rfl
  · rw [List.map_map]
    rfl

def closingTrees : List Tree :=
  [{ domain := "d", id := "T"
     message := .transaction ⟨"T", "TT", "", "T", -1⟩ (-2) [.event ⟨"", "", "0", "", 0⟩] },
   { domain := "", id := "", message := .heartbeat ⟨"T", "", "T", "", 300⟩ }]

def usedEncoder : Encoder := ⟨⟨"h", "i"⟩, #[84, 84]⟩

theorem closingTreesReadBack :
    (∀ t ∈ closingTrees, (usedEncoder.encode t).scratch.size < 0x100000000) ∧
    ∃ rs, readAll? (usedEncoder.encodeAll #[] closingTrees).2.toList = some rs ∧
      rs.map message = closingTrees.map Tree.message := by
  have small : ∀ t ∈ closingTrees, (usedEncoder.encode t).scratch.size < 0x100000000 := by decide +kernel
  obtain ⟨rs, -, -, read, -, messages⟩ := encodedTreesReadBack usedEncoder closingTrees small
  exact ⟨small, rs, read, messages⟩

end TraceRelay.Record
