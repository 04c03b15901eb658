import TraceRelay.Proofs.Ingest.Grammar
import TraceRelay.Ingest.Body
/-! The readers of the header and of the lines find what the grammar says is there. -/
namespace TraceRelay.Ingest
open Text (Bytes lossy)

/-! The header -/

theorem plainInField {field : Bytes} (plain : Plain field) : ∀ b ∈ field, inField b = true := by
  intro b member
  have notTab : b ≠ tab := fun same => plain.1 (same ▸ member)
  have notFeed : b ≠ lineFeed := fun same => plain.2 (same ▸ member)
  simp [inField, notTab, notFeed]

theorem cutStop {field : Bytes} (plain : Plain field) {b : UInt8} (stops : inField b = false)
    (rest : Bytes) : cut (field ++ b :: rest) = ⟨field, if b = tab then .tab else .lineFeed, rest⟩ := by
  have inside := plainInField plain
  rw [cut, List.dropWhile_append_of_pos inside, List.takeWhile_append_of_pos inside]
  simp [stops]

theorem cutTab {field : Bytes} (plain : Plain field) (rest : Bytes) :
    cut (field ++ tab :: rest) = ⟨field, .tab, rest⟩ :=
  cutStop plain rfl rest

theorem cutFeed {field : Bytes} (plain : Plain field) (rest : Bytes) :
    cut (field ++ lineFeed :: rest) = ⟨field, .lineFeed, rest⟩ :=
  cutStop plain rfl rest

theorem cutEnd {field : Bytes} (plain : Plain field) : cut field = ⟨field, .atEnd, []⟩ := by
  have inside := plainInField plain
  have nothing : (field ++ []).dropWhile inField = [] := by
    rw [List.dropWhile_append_of_pos inside]
    rfl
  rw [List.append_nil] at nothing
  rw [cut, nothing]

theorem cutHeader {field ending rest : Bytes} (plain : Plain field) (stop : HeaderEnd ending rest) :
    (cut (field ++ ending)).field = field ∧ (cut (field ++ ending)).rest = rest := by
  cases stop with
  | atEnd => rw [List.append_nil, cutEnd plain]; exact ⟨rfl, rfl⟩
  | tab => rw [cutTab plain]; exact ⟨rfl, rfl⟩
  | lineFeed => rw [cutFeed plain]; exact ⟨rfl, rfl⟩

theorem headerFieldTab (f : HeaderField) {field : Bytes} (plain : Plain field) (rest : Bytes) :
    headerField f (field ++ tab :: rest) = .ok (field, rest) := by
  rw [headerField, cutTab plain]

theorem headerFieldEnd (f : HeaderField) {field ending rest : Bytes} (plain : Plain field)
    (stop : LineEnd ending rest) : headerField f (field ++ ending) = .error (.missingHeaderField f) := by
  cases stop with
  | atEnd => rw [List.append_nil, headerField, cutEnd plain]
  | lineFeed => rw [headerField, cutFeed plain]

theorem headerRead {h : Header} {body rest : Bytes} (text : HeaderText h body rest) :
    Header.read body = .ok (h, rest) := by
  obtain ⟨ending, stop, whole⟩ := text.text
  obtain ⟨domain, threadGroup, threadId, threadName, messageId, parentId⟩ := (frontPlain h).mp text.front
  obtain ⟨last, after⟩ := cutHeader text.last stop
  rw [whole]
  simp only [Header.read, Header.front, tabbed, List.flatMap_cons, List.flatMap_nil, List.append_assoc,
    List.cons_append, List.nil_append, headerFieldTab _ domain, headerFieldTab _ threadGroup,
    headerFieldTab _ threadId, headerFieldTab _ threadName, headerFieldTab _ messageId,
    headerFieldTab _ parentId, last, after, bind, Except.bind, pure, Except.pure]

def frontFields : List HeaderField → Bytes → Except Refusal (List Bytes × Bytes)
  | [], bs => .ok ([], bs)
  | f :: fs, bs => do
    let (field, bs) ← headerField f bs
    let (fields, bs) ← frontFields fs bs
    return (field :: fields, bs)

theorem frontBreaks {before after : List HeaderField} {f : HeaderField} {fields : List Bytes}
    {field ending rest : Bytes} (count : fields.length = before.length) (good : ∀ x ∈ fields, Plain x)
    (plain : Plain field) (stop : LineEnd ending rest) :
    frontFields (before ++ f :: after) (tabbed fields ++ (field ++ ending)) =
      .error (.missingHeaderField f) := by
  induction before generalizing fields with
  | nil =>
    rw [List.length_eq_zero_iff.mp count]
    simp [tabbed, frontFields, headerFieldEnd f plain stop, bind, Except.bind]
  | cons name before ih =>
    cases fields with
    | nil => cases count
    | cons first fields =>
      obtain ⟨firstPlain, good⟩ := List.forall_mem_cons.mp good
      have inner := ih (Nat.succ.inj count) good
      simp only [tabbed, List.flatMap_cons, List.append_assoc, List.cons_append, List.nil_append,
        frontFields, headerFieldTab _ firstPlain, bind, Except.bind] at inner ⊢
      rw [inner]

theorem bindError {x : Except ε α} {f : α → Except ε β} {e : ε} :
    x >>= f = .error e ↔ x = .error e ∨ ∃ a, x = .ok a ∧ f a = .error e := by
  cases x with
  | error => simp [bind, Except.bind]
  | ok a => simp [bind, Except.bind]

theorem headerReadFront {bs : Bytes} {e : Refusal} :
    Header.read bs = .error e ↔ frontFields HeaderField.all bs = .error e := by
  simp [HeaderField.all, frontFields, Header.read, bindError, pure, Except.pure]

theorem headerBreaks {f : HeaderField} {body : Bytes} (breaks : HeaderBreaks f body) :
    Header.read body = .error (.missingHeaderField f) := by
  obtain ⟨before, after, fields, field, ending, rest, order, count, good, plain, stop, text⟩ := breaks
  rw [headerReadFront, order, text]
  exact frontBreaks count good plain stop

theorem textOfHeader {h : Header} {body rest : Bytes} (read : Header.read body = .ok (h, rest)) :
    HeaderText h body rest := by
  rcases headerOrBreak body with ⟨k, left, text⟩ | ⟨f, breaks⟩
  · have same := (headerRead text).symm.trans read
    cases same
    exact text
  · rw [headerBreaks breaks] at read
    cases read

/-! Lines -/

theorem segmentText {l : Line} (plain : ∀ f ∈ l.fields, Plain f) : Line.ofSegment? l.text = some l := by
  have split : Text.splitOn tab l.text = l.fields :=
    Text.splitOfJoin fun f member => (plain f member).1
  rw [Line.ofSegment?, split]
  rfl

theorem textOfSegment {s : Bytes} {l : Line} (read : Line.ofSegment? s = some l) :
    s = l.text ∧ ∀ f ∈ l.fields, tab ∉ f := by
  unfold Line.ofSegment? at read
  split at read
  · rename_i mark type name status timestamp duration data split
    cases Option.some.inj read
    refine ⟨?_, fun f member => ?_⟩
    · have whole : Text.joinWith tab (Text.splitOn tab s) = s := Text.joinOfSplit s
      rw [split] at whole
      exact whole.symm
    · have piece : f ∈ Text.splitOn tab s := by rw [split]; exact member
      exact Text.splitPieceClean piece
  · cases read

theorem lineFeedAbsent {l : Line} (plain : ∀ f ∈ l.fields, Plain f) : lineFeed ∉ l.text := by
  have apart : lineFeed ≠ tab := by decide
  have absent : ∀ f ∈ l.fields, lineFeed ∉ f := fun f member => (plain f member).2
  simp only [Line.fields, List.forall_mem_cons] at absent
  simp only [Line.text, Line.fields, Text.joinWith, List.mem_append, List.mem_cons, apart]
  simp_all

theorem lineFront (bs : Bytes) :
    ∃ s ending rest, lineFeed ∉ s ∧ LineEnd ending rest ∧ bs = s ++ ending := by
  induction bs with
  | nil => exact ⟨[], [], [], by simp, .atEnd, rfl⟩
  | cons b bs ih =>
    by_cases feed : b = lineFeed
    · exact ⟨[], b :: bs, bs, by simp, feed ▸ .lineFeed bs, rfl⟩
    · obtain ⟨s, ending, rest, clean, stop, text⟩ := ih
      refine ⟨b :: s, ending, rest, ?_, stop, by rw [text, List.cons_append]⟩
      exact List.not_mem_cons_of_ne_of_not_mem (Ne.symm feed) clean

theorem segmentsFeed {s : Bytes} (clean : lineFeed ∉ s) (rest : Bytes) :
    segments (s ++ lineFeed :: rest) = s :: segments rest := by
  have filled : Text.splitOn lineFeed rest ≠ [] := Text.splitOnNonempty rest
  obtain ⟨p, ps, split⟩ := List.exists_cons_of_ne_nil filled
  simp only [segments, Text.splitOnFront clean, split, List.getLast?_cons_cons, List.dropLast_cons_cons]
  split <;> rfl

theorem segmentsFront {s ending rest : Bytes} (clean : lineFeed ∉ s) (stop : LineEnd ending rest)
    (more : s ++ ending ≠ []) : segments (s ++ ending) = s :: segments rest := by
  cases stop with
  | atEnd =>
    rw [List.append_nil] at more ⊢
    simp [segments, Text.splitOnClean clean, more]
  | lineFeed => exact segmentsFeed clean rest

theorem readStuck {left : Bytes} (stuck : Stuck left) (start : Nat) :
    Lines.read start (segments left) = ⟨[], some start⟩ := by
  obtain ⟨more, noLine⟩ := stuck
  obtain ⟨s, ending, rest, clean, stop, text⟩ := lineFront left
  rw [text] at more
  rw [text, segmentsFront clean stop more, Lines.read]
  cases read : Line.ofSegment? s with
  | none => rfl
  | some l =>
    obtain ⟨same, noTab⟩ := textOfSegment read
    have plain : ∀ f ∈ l.fields, Plain f := by
      intro f member
      refine ⟨noTab f member, fun feed => clean ?_⟩
      rw [same]
      exact Text.memJoin member feed
    exact absurd ⟨plain, ending, stop, by rw [text, same]⟩ (noLine l rest)

/-- Where the reading goes on matters only while bytes are left. -/
theorem readSpelled {bytes left : Bytes} {ls : List Line} (spelled : Spelled bytes ls left) (start : Nat) :
    ∃ next, (left ≠ [] → next + left.length = start + bytes.length) ∧
      (Lines.read start (segments bytes)).lines = ls ++ (Lines.read next (segments left)).lines ∧
      (Lines.read start (segments bytes)).malformedAt = (Lines.read next (segments left)).malformedAt := by
  induction spelled generalizing start with
  | none bytes => exact ⟨start, fun _ => rfl, rfl, rfl⟩
  | @line l bytes rest ls left first others ih =>
    obtain ⟨ending, stop, text⟩ := first.text
    have clean := lineFeedAbsent first.plain
    have more : l.text ++ ending ≠ [] := by simp [lineTextNonempty l]
    obtain ⟨next, place, lines, malformed⟩ := ih (start + l.text.length + 1)
    refine ⟨next, fun after => ?_, ?_, ?_⟩
    · cases stop with
      | atEnd =>
        cases others with
        | none => exact absurd rfl after
        | line heads => exact absurd (headsShorter heads) (by simp)
      | lineFeed =>
        rw [place after, text, List.length_append, List.length_cons]
        omega
    · rw [text, segmentsFront clean stop more, Lines.read, segmentText first.plain]
      exact congrArg (l :: ·) lines
    · rw [text, segmentsFront clean stop more, Lines.read, segmentText first.plain]
      exact malformed

end TraceRelay.Ingest
