import TraceRelay.Ingest.Nesting
/-! What a body may be, said without reading it. A header is six fields ended by tabs and a seventh; a line
is seven fields between tabs; the lines are a forest of messages, each open line with the close line of
the same type and name. Whatever is no such body has one first offence. -/
namespace TraceRelay.Ingest
open Text (Bytes lossy)

def Plain (field : Bytes) : Prop := tab ∉ field ∧ lineFeed ∉ field

/-! Bytes -/

def Header.front (h : Header) : List Bytes :=
  [h.domain, h.threadGroup, h.threadId, h.threadName, h.messageId, h.parentId]

def tabbed (fields : List Bytes) : Bytes := fields.flatMap (· ++ [tab])

inductive HeaderEnd : Bytes → Bytes → Prop
  | atEnd : HeaderEnd [] []
  | tab (rest : Bytes) : HeaderEnd (tab :: rest) rest
  | lineFeed (rest : Bytes) : HeaderEnd (lineFeed :: rest) rest

structure HeaderText (h : Header) (body rest : Bytes) : Prop where
  front : ∀ f ∈ h.front, Plain f
  last : Plain h.rootId
  text : ∃ ending, HeaderEnd ending rest ∧ body = tabbed h.front ++ (h.rootId ++ ending)

inductive LineEnd : Bytes → Bytes → Prop
  | atEnd : LineEnd [] []
  | lineFeed (rest : Bytes) : LineEnd (lineFeed :: rest) rest

def HeaderField.all : List HeaderField :=
  [.domain, .threadGroup, .threadId, .threadName, .messageId, .parentId]

/-- All fields before that one are ended by tabs, and that one is not. -/
def HeaderBreaks (f : HeaderField) (body : Bytes) : Prop :=
  ∃ before after fields field ending rest, HeaderField.all = before ++ f :: after ∧
    fields.length = before.length ∧ (∀ x ∈ fields, Plain x) ∧ Plain field ∧
    LineEnd ending rest ∧ body = tabbed fields ++ (field ++ ending)

def Line.fields (l : Line) : List Bytes :=
  [[l.mark], l.type, l.name, l.status, l.timestamp, l.duration, l.data]

def Line.text (l : Line) : Bytes := Text.joinWith tab l.fields

structure Line.Heads (l : Line) (bytes rest : Bytes) : Prop where
  plain : ∀ f ∈ l.fields, Plain f
  text : ∃ ending, LineEnd ending rest ∧ bytes = l.text ++ ending

inductive Spelled : Bytes → List Line → Bytes → Prop
  | none (bytes : Bytes) : Spelled bytes [] bytes
  | line {l bytes rest ls left} (first : l.Heads bytes rest) (others : Spelled rest ls left) :
      Spelled bytes (l :: ls) left

def Stuck (left : Bytes) : Prop := left ≠ [] ∧ ∀ l rest, ¬ Line.Heads l left rest

theorem frontPlain (h : Header) : (∀ f ∈ h.front, Plain f) ↔
    Plain h.domain ∧ Plain h.threadGroup ∧ Plain h.threadId ∧ Plain h.threadName ∧ Plain h.messageId ∧
      Plain h.parentId := by
  simp only [Header.front, List.forall_mem_cons, List.not_mem_nil, false_implies, implies_true, and_true]

theorem fieldsPlain (l : Line) : (∀ f ∈ l.fields, Plain f) ↔
    Plain [l.mark] ∧ Plain l.type ∧ Plain l.name ∧ Plain l.status ∧ Plain l.timestamp ∧ Plain l.duration ∧
      Plain l.data := by
  simp only [Line.fields, List.forall_mem_cons, List.not_mem_nil, false_implies, implies_true, and_true]

theorem linesSpelled {l : Line} {ls : List Line} (plain : ∀ k ∈ l :: ls, ∀ f ∈ k.fields, Plain f)
    (lastFeed : Bool) :
    Spelled (Text.joinWith lineFeed ((l :: ls).map Line.text) ++ if lastFeed then [lineFeed] else [])
      (l :: ls) [] := by
  induction ls generalizing l with
  | nil =>
    refine .line ⟨plain l (by simp), _, ?_, rfl⟩ (.none [])
    cases lastFeed with
    | false => exact .atEnd
    | true => exact .lineFeed []
  | cons k ls ih =>
    obtain ⟨first, others⟩ := List.forall_mem_cons.mp plain
    exact .line ⟨first, _, .lineFeed _, by simp [Text.joinWith]⟩ (ih others)

/-! Lines -/

inductive Leaf : Line → Message → Prop
  | transaction {l : Line} (mark : l.mark = 'A'.toUInt8) :
      Leaf l (.transaction l.detail (Line.number l.duration) [])
  | event {l : Line} (mark : l.mark = 'E'.toUInt8) : Leaf l (.event l.detail)
  | heartbeat {l : Line} (mark : l.mark = 'H'.toUInt8) : Leaf l (.heartbeat l.detail)

/-- Duration, status and data are those of the close line unless it leaves them empty. -/
def enclosed (o c : Line) (inside : List Message) : Message :=
  .transaction
    { type := lossy o.type
      name := lossy o.name
      status := lossy (if c.status = [] then o.status else c.status)
      data := lossy (if c.data = [] then o.data else c.data)
      timestamp := Line.number o.timestamp }
    (Line.number (if c.duration = [] then o.duration else c.duration)) inside

def SameKey (o c : Line) : Prop := lossy o.type = lossy c.type ∧ lossy o.name = lossy c.name

inductive Forest : List Line → List Message → Prop
  | none : Forest [] []
  | leaf {l m ls ms} (whole : Leaf l m) (others : Forest ls ms) : Forest (l :: ls) (m :: ms)
  | nested {o inner c ls cs ms} (opens : o.mark = 't'.toUInt8) (inside : Forest inner cs)
      (closes : c.mark = 'T'.toUInt8) (key : SameKey o c) (others : Forest ls ms) :
      Forest (o :: (inner ++ c :: ls)) (enclosed o c cs :: ms)

/-- Lines of which some opened transactions are still open: the messages complete at the top, then each
open line, innermost first, with the messages complete inside it. -/
inductive Underway : List Line → List Message → List (Line × List Message) → Prop
  | top {ls ms} (whole : Forest ls ms) : Underway ls ms []
  | opened {ls top frames o inner cs} (outer : Underway ls top frames)
      (opens : o.mark = 't'.toUInt8) (inside : Forest inner cs) :
      Underway (ls ++ o :: inner) top ((o, cs) :: frames)

def marks : List UInt8 :=
  ['t'.toUInt8, 'T'.toUInt8, 'A'.toUInt8, 'E'.toUInt8, 'H'.toUInt8]

inductive Misfit : List (Line × List Message) → Line → Refusal → Prop
  | unknown {frames l} (mark : l.mark ∉ marks) : Misfit frames l (.unknownMark l.mark)
  | unopened {l} (closes : l.mark = 'T'.toUInt8) : Misfit [] l (.closeWithoutOpen l.label)
  | mismatch {o cs frames l} (closes : l.mark = 'T'.toUInt8) (differs : ¬ SameKey o l) :
      Misfit ((o, cs) :: frames) l (.closeMismatch o.label l.label)

structure Sentence (body : Bytes) (h : Header) (lines : List Line) (top : List Message) : Prop where
  spelled : ∃ rest, HeaderText h body rest ∧ Spelled rest lines []
  whole : Forest lines top

/-- The first thing wrong with a body. -/
inductive Offence (body : Bytes) : Refusal → Prop
  | header {f} (breaks : HeaderBreaks f body) : Offence body (.missingHeaderField f)
  | malformed {h rest done left top frames} (header : HeaderText h body rest)
      (read : Spelled rest done left) (fits : Underway done top frames) (stuck : Stuck left) :
      Offence body (.malformedLine (body.length - left.length))
  | line {h rest done left top frames l after e} (header : HeaderText h body rest)
      (read : Spelled rest done left) (fits : Underway done top frames)
      (next : l.Heads left after) (misfit : Misfit frames l e) : Offence body e
  | unclosed {h rest lines top o cs frames} (header : HeaderText h body rest)
      (read : Spelled rest lines []) (fits : Underway lines top ((o, cs) :: frames)) :
      Offence body (.neverClosed o.label)
  | empty {h} (header : HeaderText h body []) : Offence body .noMessage

/-! Every body is one or the other -/

theorem plainFront (bs : Bytes) : ∃ field ending, Plain field ∧ bs = field ++ ending ∧
    (ending = [] ∨ (∃ rest, ending = tab :: rest) ∨ ∃ rest, ending = lineFeed :: rest) := by
  induction bs with
  | nil => exact ⟨[], [], by simp [Plain], rfl, .inl rfl⟩
  | cons b bs ih =>
    by_cases isTab : b = tab
    · exact ⟨[], b :: bs, by simp [Plain], rfl, .inr (.inl ⟨bs, by rw [isTab]⟩)⟩
    · by_cases isFeed : b = lineFeed
      · exact ⟨[], b :: bs, by simp [Plain], rfl, .inr (.inr ⟨bs, by rw [isFeed]⟩)⟩
      · obtain ⟨field, ending, plain, text, shape⟩ := ih
        refine ⟨b :: field, ending, ?_, by rw [text, List.cons_append], shape⟩
        exact ⟨List.not_mem_cons_of_ne_of_not_mem (Ne.symm isTab) plain.1,
          List.not_mem_cons_of_ne_of_not_mem (Ne.symm isFeed) plain.2⟩

theorem tabbedOrBroken (names : List HeaderField) (bs : Bytes) :
    (∃ fields rest, fields.length = names.length ∧ (∀ x ∈ fields, Plain x) ∧
      bs = tabbed fields ++ rest) ∨
    ∃ before f after fields field ending rest, names = before ++ f :: after ∧
      fields.length = before.length ∧ (∀ x ∈ fields, Plain x) ∧ Plain field ∧
      LineEnd ending rest ∧ bs = tabbed fields ++ (field ++ ending) := by
  induction names generalizing bs with
  | nil => exact .inl ⟨[], bs, rfl, by simp, rfl⟩
  | cons name names ih =>
    obtain ⟨field, ending, plain, text, rfl | ⟨rest, rfl⟩ | ⟨rest, rfl⟩⟩ := plainFront bs
    · exact .inr ⟨[], name, names, [], field, [], [], rfl, rfl, by simp, plain, .atEnd, text⟩
    · rcases ih rest with ⟨fields, left, count, good, split⟩ |
        ⟨before, f, after, fields, last, ending, left, order, count, good, lastPlain, stop, split⟩
      · refine .inl ⟨field :: fields, left, by simp [count], ?_, by simp [tabbed, text, split]⟩
        exact List.forall_mem_cons.mpr ⟨plain, good⟩
      · refine .inr ⟨name :: before, f, after, field :: fields, last, ending, left, by simp [order],
          by simp [count], List.forall_mem_cons.mpr ⟨plain, good⟩, lastPlain, stop, ?_⟩
        simp [tabbed, text, split]
    · exact .inr ⟨[], name, names, [], field, lineFeed :: rest, rest, rfl, rfl, by simp, plain,
        .lineFeed rest, text⟩

theorem headerOrBreak (body : Bytes) :
    (∃ h rest, HeaderText h body rest) ∨ ∃ f, HeaderBreaks f body := by
  rcases tabbedOrBroken HeaderField.all body with ⟨fields, rest, count, good, split⟩ |
    ⟨before, f, after, fields, field, ending, rest, order, broken⟩
  · obtain ⟨last, ending, plain, text, shape⟩ := plainFront rest
    have end? : ∃ left, HeaderEnd ending left := by
      rcases shape with rfl | ⟨left, rfl⟩ | ⟨left, rfl⟩
      · exact ⟨[], .atEnd⟩
      · exact ⟨left, .tab left⟩
      · exact ⟨left, .lineFeed left⟩
    obtain ⟨left, stop⟩ := end?
    match fields, count with
    | [domain, threadGroup, threadId, threadName, messageId, parentId], _ =>
      refine .inl ⟨⟨domain, threadGroup, threadId, threadName, messageId, parentId, last⟩, left, good,
        plain, ending, stop, ?_⟩
      rw [split, text]
      rfl
  · exact .inr ⟨f, before, after, fields, field, ending, rest, order, broken⟩

theorem lineTextNonempty (l : Line) : l.text ≠ [] := by
  simp [Line.text, Line.fields, Text.joinWith]

theorem headsShorter {l : Line} {bytes rest : Bytes} (heads : l.Heads bytes rest) :
    rest.length < bytes.length := by
  obtain ⟨ending, stop, text⟩ := heads.text
  have nonempty := List.length_pos_iff.mpr (lineTextNonempty l)
  rw [text, List.length_append]
  cases stop with
  | atEnd => simpa using nonempty
  | lineFeed => simp only [List.length_cons]; omega

theorem spelledOrStuck (bytes : Bytes) :
    ∃ lines left, Spelled bytes lines left ∧ (left = [] ∨ Stuck left) := by
  induction h : bytes.length using Nat.strongRecOn generalizing bytes with
  | ind n ih =>
    by_cases more : ∃ l rest, Line.Heads l bytes rest
    · obtain ⟨l, rest, heads⟩ := more
      have shorter := headsShorter heads
      obtain ⟨lines, left, others, stop⟩ := ih rest.length (by omega) rest rfl
      exact ⟨l :: lines, left, .line heads others, stop⟩
    · refine ⟨[], bytes, .none bytes, ?_⟩
      by_cases empty : bytes = []
      · exact .inl empty
      · exact .inr ⟨empty, fun l rest heads => more ⟨l, rest, heads⟩⟩

theorem spelledPrefix {bytes left : Bytes} {before after : List Line}
    (read : Spelled bytes (before ++ after) left) :
    ∃ mid, Spelled bytes before mid ∧ Spelled mid after left := by
  induction before generalizing bytes with
  | nil => exact ⟨bytes, .none bytes, read⟩
  | cons l before ih =>
    cases read with
    | line first others =>
      obtain ⟨mid, front, back⟩ := ih others
      exact ⟨mid, .line first front, back⟩

theorem forestAppend {ls ks : List Line} {ms ns : List Message} (front : Forest ls ms)
    (back : Forest ks ns) : Forest (ls ++ ks) (ms ++ ns) := by
  induction front with
  | none => exact back
  | leaf whole others ih => exact .leaf whole ih
  | nested opens inside closes key others _ ih =>
    simpa using Forest.nested opens inside closes key ih

theorem underwayGrows {ls ks : List Line} {top ns : List Message} {frames : List (Line × List Message)}
    (fits : Underway ls top frames) (whole : Forest ks ns) :
    ∃ top' frames', Underway (ls ++ ks) top' frames' := by
  cases fits with
  | top front => exact ⟨_, _, .top (forestAppend front whole)⟩
  | opened outer opens inside =>
    have grown := Underway.opened outer opens (forestAppend inside whole)
    exact ⟨_, _, by simpa using grown⟩

theorem lineFitsOrNot {ls : List Line} {top : List Message} {frames : List (Line × List Message)}
    (fits : Underway ls top frames) (l : Line) :
    (∃ top' frames', Underway (ls ++ [l]) top' frames') ∨ ∃ e, Misfit frames l e := by
  by_cases known : l.mark ∈ marks
  · simp only [marks, List.mem_cons, List.not_mem_nil, or_false] at known
    rcases known with opens | closes | whole | event | heartbeat
    · exact .inl ⟨_, _, .opened fits opens .none⟩
    · cases fits with
      | top front => exact .inr ⟨_, .unopened closes⟩
      | @opened before _ _ o inner cs outer opens inside =>
        by_cases key : SameKey o l
        · obtain ⟨top', frames', grown⟩ :=
            underwayGrows outer (Forest.nested opens inside closes key .none)
          exact .inl ⟨top', frames', by simpa using grown⟩
        · exact .inr ⟨_, .mismatch closes key⟩
    · exact .inl (underwayGrows fits (.leaf (.transaction whole) .none))
    · exact .inl (underwayGrows fits (.leaf (.event event) .none))
    · exact .inl (underwayGrows fits (.leaf (.heartbeat heartbeat) .none))
  · exact .inr ⟨_, .unknown known⟩

theorem linesFitOrNot {ls : List Line} {top : List Message} {frames : List (Line × List Message)}
    (fits : Underway ls top frames) (more : List Line) :
    (∃ top' frames', Underway (ls ++ more) top' frames') ∨
    ∃ done l after top' frames' e, more = done ++ l :: after ∧
      Underway (ls ++ done) top' frames' ∧ Misfit frames' l e := by
  induction more generalizing ls top frames with
  | nil => exact .inl ⟨top, frames, by simpa using fits⟩
  | cons l more ih =>
    rcases lineFitsOrNot fits l with ⟨top', frames', next⟩ | ⟨e, misfit⟩
    · rcases ih next with ⟨top'', frames'', whole⟩ | ⟨done, k, after, top'', frames'', e, split, before, misfit⟩
      · exact .inl ⟨top'', frames'', by simpa using whole⟩
      · exact .inr ⟨l :: done, k, after, top'', frames'', e, by simp [split], by simpa using before, misfit⟩
    · exact .inr ⟨[], l, more, top, frames, e, rfl, by simpa using fits, misfit⟩

theorem forestEmpty {ls : List Line} (whole : Forest ls []) : ls = [] := by
  cases whole
  rfl

theorem sentenceOrOffence (body : Bytes) :
    (∃ h lines top, Sentence body h lines top ∧ top ≠ []) ∨ ∃ e, Offence body e := by
  rcases headerOrBreak body with ⟨h, rest, header⟩ | ⟨f, breaks⟩
  · obtain ⟨lines, left, read, stop⟩ := spelledOrStuck rest
    rcases linesFitOrNot (.top .none) lines with ⟨top, frames, fits⟩ |
      ⟨done, l, after, top, frames, e, split, fits, misfit⟩
    · rcases stop with rfl | stuck
      · cases fits with
        | top whole =>
          by_cases empty : top = []
          · subst empty
            rw [List.nil_append] at whole
            rw [forestEmpty whole] at read
            cases read with
            | none => exact .inr ⟨_, .empty header⟩
          · exact .inl ⟨h, lines, top, ⟨⟨rest, header, read⟩, whole⟩, empty⟩
        | opened outer opens inside =>
          exact .inr ⟨_, .unclosed header read (.opened outer opens inside)⟩
      · exact .inr ⟨_, .malformed header read fits stuck⟩
    · rw [split] at read
      obtain ⟨mid, front, back⟩ := spelledPrefix read
      cases back with
      | line first others => exact .inr ⟨e, .line header front fits first misfit⟩
  · exact .inr ⟨_, .header breaks⟩

end TraceRelay.Ingest
