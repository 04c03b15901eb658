import TraceRelay.Proofs.Ingest.Reading
import TraceRelay.Proofs.Ingest.Stack
/-! What is said of a body. A sentence is read as its last top-level message, anything else is refused
for its first offence; since every body is one or the other, neither happens in any other case. -/
namespace TraceRelay.Ingest
open Text (Bytes utf8 lossy)

theorem linesOfSpelled {bytes : Bytes} {ls : List Line} (spelled : Spelled bytes ls []) (start : Nat) :
    Lines.read start (segments bytes) = ⟨ls, none⟩ := by
  obtain ⟨next, -, lines, malformed⟩ := readSpelled spelled start
  have nothing : Lines.read next (segments []) = ⟨[], none⟩ := rfl
  rw [nothing, List.append_nil] at lines
  rw [nothing] at malformed
  calc Lines.read start (segments bytes)
      = ⟨(Lines.read start (segments bytes)).lines, (Lines.read start (segments bytes)).malformedAt⟩ := rfl
    _ = ⟨ls, none⟩ := by rw [lines, malformed]

theorem headerShorter {h : Header} {body rest : Bytes} (text : HeaderText h body rest) :
    rest.length ≤ body.length := by
  obtain ⟨ending, stop, whole⟩ := text.text
  have bound : rest.length ≤ ending.length := by
    cases stop with
    | atEnd => exact Nat.le_refl _
    | tab => simp
    | lineFeed => simp
  rw [whole, List.length_append, List.length_append]
  omega

/-- A line that does not fit comes before a line that is none, and either before what the end shows. -/
def verdict (h : Header) (n : Nesting) : Option Refusal → Option Nat → Except Refusal Parsed
  | some e, _ => .error e
  | none, some start => .error (.malformedLine start)
  | none, none => finish h n

theorem parseRun {h : Header} {body rest : Bytes} {n : Nesting} {refusal : Option Refusal}
    (text : HeaderText h body rest)
    (ran : ({} : Nesting).run (Lines.read (body.length - rest.length) (segments rest)).lines = (n, refusal)) :
    (parse body).outcome =
      verdict h n refusal (Lines.read (body.length - rest.length) (segments rest)).malformedAt := by
  simp only [parse, headerRead text, ran]
  rfl

theorem parseSpelled {h : Header} {body rest : Bytes} {lines : List Line} {top : List Message}
    {frames : List (Line × List Message)} (text : HeaderText h body rest)
    (spelled : Spelled rest lines []) (fits : Underway lines top frames) :
    (parse body).outcome = finish h (Nesting.holding lines top frames) := by
  have read := linesOfSpelled spelled (body.length - rest.length)
  have ran : ({} : Nesting).run (Lines.read (body.length - rest.length) (segments rest)).lines =
      (Nesting.holding lines top frames, none) := by
    rw [read, runWhole fits]
  rw [parseRun text ran, read]
  rfl

theorem parseSentence {body : Bytes} {h : Header} {lines : List Line} {top : List Message} {m : Message}
    (sentence : Sentence body h lines top) (last : top.getLast? = some m) :
    (parse body).outcome = .ok ⟨h, m, lines.all (fun l => !l.failed)⟩ := by
  obtain ⟨rest, text, spelled⟩ := sentence.spelled
  rw [parseSpelled text spelled (.top sentence.whole)]
  simp only [finish, Nesting.holding, List.map_nil, last]

theorem parseMisfit {body : Bytes} {h : Header} {rest left after : Bytes} {done : List Line}
    {top : List Message} {frames : List (Line × List Message)} {l : Line} {e : Refusal}
    (text : HeaderText h body rest) (read : Spelled rest done left) (fits : Underway done top frames)
    (next : l.Heads left after) (misfit : Misfit frames l e) : (parse body).outcome = .error e := by
  obtain ⟨start, -, lines, -⟩ := readSpelled read (body.length - rest.length)
  obtain ⟨start', -, more, -⟩ := readSpelled (.line next (.none after)) start
  have stops : ({} : Nesting).run (Lines.read (body.length - rest.length) (segments rest)).lines =
      (Nesting.holding done top frames, some e) := by
    rw [lines, more, runUnderway fits, List.singleton_append, Nesting.run, misfitStep misfit]
  rw [parseRun text stops]
  rfl

theorem parseOffence {body : Bytes} {e : Refusal} (offence : Offence body e) :
    (parse body).outcome = .error e := by
  cases offence with
  | header breaks => rw [parse, headerBreaks breaks]
  | @malformed h rest done left top frames text read fits stuck =>
    obtain ⟨start, place, lines, malformed⟩ := readSpelled read (body.length - rest.length)
    rw [readStuck stuck, List.append_nil] at lines
    rw [readStuck stuck] at malformed
    have shorter := headerShorter text
    have starts : start = body.length - left.length := by
      have := place stuck.1
      omega
    have ran : ({} : Nesting).run (Lines.read (body.length - rest.length) (segments rest)).lines =
        (Nesting.holding done top frames, none) := by
      rw [lines, runWhole fits]
    rw [parseRun text ran, malformed, starts]
    rfl
  | line text read fits next misfit => exact parseMisfit text read fits next misfit
  | unclosed text read fits => exact parseSpelled text read fits
  | empty text => exact parseSpelled text (.none []) (.top .none)

def Header.identity (h : Header) (ids : MessageIds) : String :=
  if lossy h.messageId = "" then (ids.next (lossy h.domain)).1 else lossy h.messageId

theorem decodeParsed {body : Bytes} {p : Parsed} (ok : (parse body).outcome = .ok p) (ids : MessageIds) :
    (decode ids body).1 = .ok (p.toTree (p.header.identity ids)) := by
  simp only [decode, ok, Header.identity]
  split <;> rfl

theorem decodeRefused {body : Bytes} {e : Refusal} (refused : (parse body).outcome = .error e)
    (ids : MessageIds) : decode ids body = (.error e, ids) := by
  simp only [decode, refused]

theorem decodeSentence {body : Bytes} {h : Header} {lines : List Line} {top : List Message} {m : Message}
    (sentence : Sentence body h lines top) (last : top.getLast? = some m) (ids : MessageIds) :
    (decode ids body).1 =
      .ok ((⟨h, m, lines.all (fun l => !l.failed)⟩ : Parsed).toTree (h.identity ids)) :=
  decodeParsed (parseSentence sentence last) ids

theorem decodeOwn {body : Bytes} {p : Parsed} (ok : (parse body).outcome = .ok p)
    (own : lossy p.header.messageId ≠ "") (ids : MessageIds) :
    decode ids body = (.ok (p.toTree (lossy p.header.messageId)), ids) := by
  simp only [decode, ok, own, if_false]

theorem decodeAccepted {ids : MessageIds} {body : Bytes} {t : Tree} (accepted : (decode ids body).1 = .ok t) :
    ∃ h lines top m, Sentence body h lines top ∧ top.getLast? = some m ∧
      t = (⟨h, m, lines.all (fun l => !l.failed)⟩ : Parsed).toTree (h.identity ids) := by
  rcases sentenceOrOffence body with ⟨h, lines, top, sentence, filled⟩ | ⟨e, offence⟩
  · have last := List.getLast?_eq_some_getLast filled
    refine ⟨h, lines, top, top.getLast filled, sentence, last, ?_⟩
    rw [decodeSentence sentence last] at accepted
    exact (Except.ok.inj accepted).symm
  · rw [decodeRefused (parseOffence offence)] at accepted
    cases accepted

theorem decodeBlamed {ids : MessageIds} {body : Bytes} {e : Refusal}
    (refused : (decode ids body).1 = .error e) : Offence body e := by
  rcases sentenceOrOffence body with ⟨h, lines, top, sentence, filled⟩ | ⟨e', offence⟩
  · rw [decodeSentence sentence (List.getLast?_eq_some_getLast filled)] at refused
    cases refused
  · rw [decodeRefused (parseOffence offence)] at refused
    cases refused
    exact offence

theorem unfailedIff (l : Line) : (!l.failed) = true ↔ l.status = utf8 "0" := by
  have zero : utf8 "0" = [48] := by decide
  simp [Line.failed, zero]

/-- What the tree of an accepted body is made of. Only the id of a body that brings none is not found there. -/
structure Conveyed (ids : MessageIds) (h : Header) (lines : List Line) (m : Message) (t : Tree) : Prop where
  domain : t.domain = lossy h.domain
  id : t.id = if lossy h.messageId = "" then (ids.next (lossy h.domain)).1 else lossy h.messageId
  parentId : t.parentId = lossy h.parentId
  rootId : t.rootId = lossy h.rootId
  threadGroup : t.threadGroup = lossy h.threadGroup
  threadId : t.threadId = lossy h.threadId
  threadName : t.threadName = lossy h.threadName
  message : t.message = m
  discardable : t.discardable = true ↔ ∀ l ∈ lines, l.status = utf8 "0"
  system : t.system = false

theorem conveyedIff (ids : MessageIds) (h : Header) (lines : List Line) (m : Message) (t : Tree) :
    Conveyed ids h lines m t ↔
      t = (⟨h, m, lines.all (fun l => !l.failed)⟩ : Parsed).toTree (h.identity ids) := by
  have each : lines.all (fun l => !l.failed) = true ↔ ∀ l ∈ lines, l.status = utf8 "0" := by
    simp only [List.all_eq_true, unfailedIff]
  constructor
  · intro conveyed
    have mark := Bool.eq_iff_iff.mpr (conveyed.discardable.trans each.symm)
    obtain ⟨domain, id, parentId, rootId, threadGroup, threadId, threadName, message, -, system⟩ := conveyed
    cases t
    simp only at domain id parentId rootId threadGroup threadId threadName message mark system
    subst domain id parentId rootId threadGroup threadId threadName message mark system
    rfl
  · rintro rfl
    exact ⟨rfl, rfl, rfl, rfl, rfl, rfl, rfl, rfl, each, rfl⟩

theorem acceptedIff (ids : MessageIds) (body : Bytes) (t : Tree) :
    (decode ids body).1 = .ok t ↔ ∃ h lines top m, Sentence body h lines top ∧ top.getLast? = some m ∧
      Conveyed ids h lines m t := by
  simp only [conveyedIff]
  constructor
  · exact decodeAccepted
  · rintro ⟨h, lines, top, m, sentence, last, rfl⟩
    exact decodeSentence sentence last ids

theorem decodeExact (ids : MessageIds) (body : Bytes) :
    ((∃ t, (decode ids body).1 = .ok t) ↔ ∃ h lines top, Sentence body h lines top ∧ top ≠ []) ∧
    (∀ t, (decode ids body).1 = .ok t ↔ ∃ h lines top m, Sentence body h lines top ∧
      top.getLast? = some m ∧ Conveyed ids h lines m t) ∧
    ∀ e, (decode ids body).1 = .error e ↔ Offence body e := by
  refine ⟨⟨?_, ?_⟩, acceptedIff ids body, fun e => ⟨decodeBlamed, fun offence => ?_⟩⟩
  · rintro ⟨t, accepted⟩
    obtain ⟨h, lines, top, m, sentence, last, -⟩ := decodeAccepted accepted
    exact ⟨h, lines, top, sentence, by rintro rfl; cases last⟩
  · rintro ⟨h, lines, top, sentence, filled⟩
    exact ⟨_, decodeSentence sentence (List.getLast?_eq_some_getLast filled) ids⟩
  · rw [decodeRefused (parseOffence offence)]

/-- Of two elements at the top the second is kept, with what its closing line says anew, and the id is drawn. A line
that closes another transaction than the open one is refused. -/
theorem lastElementDecoded :
    let ids : MessageIds := .start "home" "7f000001" 9
    let h : Header := ⟨utf8 "shop", utf8 "g", utf8 "1", utf8 "n", [], utf8 "p", utf8 "r"⟩
    let boot : Line := ⟨'A'.toUInt8, utf8 "Sys", utf8 "boot", utf8 "0", utf8 "4", utf8 "3", utf8 "x"⟩
    let opens : Line := ⟨'t'.toUInt8, utf8 "URL", utf8 "/a", utf8 "0", utf8 "5", utf8 "7", utf8 "open"⟩
    let beat : Line := ⟨'H'.toUInt8, utf8 "Sys", utf8 "beat", utf8 "0", utf8 "6", [], []⟩
    let asks : Line := ⟨'t'.toUInt8, utf8 "SQL", utf8 "q", utf8 "0", utf8 "7", utf8 "2", utf8 "kept"⟩
    let told : Line := ⟨'T'.toUInt8, utf8 "SQL", utf8 "q", [], utf8 "8", [], []⟩
    let closes : Line := ⟨'T'.toUInt8, utf8 "URL", utf8 "/a", utf8 "err", utf8 "9", utf8 "30", utf8 "done"⟩
    let lines := [boot, opens, beat, asks, told, closes]
    let body := utf8 <| "shop\tg\t1\tn\t\tp\tr\nA\tSys\tboot\t0\t4\t3\tx\nt\tURL\t/a\t0\t5\t7\topen\n" ++
      "H\tSys\tbeat\t0\t6\t\t\nt\tSQL\tq\t0\t7\t2\tkept\nT\tSQL\tq\t\t8\t\t\nT\tURL\t/a\terr\t9\t30\tdone"
    let broken := utf8 "shop\tg\t1\tn\t\tp\tr\nt\tURL\t/a\t0\t5\t7\topen\nT\tSQL\tq\t\t8\t\t"
    let kept : Message := .transaction ⟨"URL", "/a", "err", "done", 5⟩ 30
      [.heartbeat ⟨"Sys", "beat", "0", "", 6⟩, .transaction ⟨"SQL", "q", "0", "kept", 7⟩ 2 []]
    let t : Tree := {
      domain := "shop", id := "shop-7f000001-9-1", parentId := "p", rootId := "r", threadGroup := "g"
      threadId := "1", threadName := "n", message := kept, discardable := false }
    Sentence body h lines [.transaction ⟨"Sys", "boot", "0", "x", 4⟩ 3 [], kept] ∧
      Conveyed ids h lines kept t ∧ (decode ids body).1 = .ok t ∧
      (decode ids broken).1 = .error (.closeMismatch "URL:/a" "SQL:q") := by
  intro ids h boot opens beat asks told closes lines body broken kept t
  have plain : ∀ l ∈ lines, ∀ f ∈ l.fields, Plain f := by unfold Plain; decide +kernel
  have front : ∀ f ∈ h.front, Plain f := by unfold Plain; decide +kernel
  have last : Plain h.rootId := by unfold Plain; decide +kernel
  have asked : Forest [asks, told] [.transaction ⟨"SQL", "q", "0", "kept", 7⟩ 2 []] :=
    .nested rfl .none rfl ⟨rfl, rfl⟩ .none
  have inside : Forest [beat, asks, told]
      [.heartbeat ⟨"Sys", "beat", "0", "", 6⟩, .transaction ⟨"SQL", "q", "0", "kept", 7⟩ 2 []] :=
    .leaf (.heartbeat rfl) asked
  have whole : Forest lines [.transaction ⟨"Sys", "boot", "0", "x", 4⟩ 3 [], kept] :=
    .leaf (.transaction rfl) (.nested rfl inside rfl ⟨rfl, rfl⟩ .none)
  have sentence : Sentence body h lines [.transaction ⟨"Sys", "boot", "0", "x", 4⟩ 3 [], kept] :=
    ⟨⟨_, ⟨front, last, _, .lineFeed _, by decide +kernel⟩, linesSpelled plain false⟩, whole⟩
  have conveyed : Conveyed ids h lines kept t :=
    ⟨rfl, by with_unfolding_all rfl, rfl, rfl, rfl, rfl, rfl, rfl, by decide +kernel, rfl⟩
  have first : opens.Heads (opens.text ++ lineFeed :: told.text) told.text :=
    ⟨plain opens (by decide), _, .lineFeed _, rfl⟩
  have next : told.Heads told.text [] := ⟨plain told (by decide), [], .atEnd, (List.append_nil _).symm⟩
  have header : HeaderText h broken (opens.text ++ lineFeed :: told.text) :=
    ⟨front, last, _, .lineFeed _, by decide +kernel⟩
  have differs : ¬ SameKey opens told := by unfold SameKey; decide +kernel
  have offence : Offence broken (.closeMismatch "URL:/a" "SQL:q") :=
    .line header (.line first (.none _)) (.opened (.top .none) rfl .none) next (.mismatch rfl differs)
  exact ⟨sentence, conveyed, ((decodeExact ids body).2.1 t).mpr ⟨h, lines, _, kept, sentence, rfl, conveyed⟩,
    ((decodeExact ids broken).2.2 _).mpr offence⟩

end TraceRelay.Ingest
