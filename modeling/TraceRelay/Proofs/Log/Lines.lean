import TraceRelay.Log.Clock
import TraceRelay.Log.Line
import TraceRelay.Text.Split
/-! A log as lines. What is logged is one line as long as no line feed comes into the text of its message, and then a
log that is cut at its line feeds falls into what was logged. That is so for any times and any escaping of messages
that bring no line feed of their own, such as those of the agent. -/
namespace TraceRelay.Log

/-- There is one line feed, and it comes last. -/
def OneLine (s : String) : Prop := ∃ front, '\n' ∉ front ∧ s.toList = front ++ ['\n']

/-- No line feed is shown where none was. -/
def Feedless (escape : String → String) : Prop := ∀ s, '\n' ∉ s.toList → '\n' ∉ (escape s).toList

/-- The text of a log, each event with the time at which it came. -/
def writtenBy (escape : String → String) (log : List (String × Event)) : String :=
  String.join (log.map fun x => x.2.lineBy escape x.1)

def written (log : List (Nat × Event)) : String := writtenBy harmlessText (log.map fun x => (clock x.1, x.2))

theorem linesApart {ss : List String} (each : ∀ s ∈ ss, OneLine s) :
    Text.splitOn '\n' (String.join ss).toList = ss.map (fun s => s.toList.dropLast) ++ [[]] := by
  induction ss with
  | nil => rfl
  | cons s ss ih =>
    obtain ⟨⟨front, free, chars⟩, others⟩ := List.forall_mem_cons.mp each
    rw [String.join_cons, String.toList_append, chars, List.append_assoc, List.singleton_append,
      Text.splitOnFront free, ih others, List.map_cons, chars, List.dropLast_concat, List.cons_append]

/-! The parts of a line -/

theorem freeAppend {s t : String} (front : '\n' ∉ s.toList) (back : '\n' ∉ t.toList) : '\n' ∉ (s ++ t).toList := by
  rw [String.toList_append, List.mem_append, not_or]
  exact ⟨front, back⟩

theorem lastSegmentSublist (cs : List Char) : List.Sublist (lastSegment cs) cs := by
  fun_induction lastSegment cs with
  | case1 => exact List.nil_sublist _
  | case2 c r _ ih => exact ih.cons_cons c
  | case3 => exact List.nil_sublist _

theorem componentFree {target : String} (free : '\n' ∉ target.toList) : '\n' ∉ (component target).toList := by
  rw [component, String.toList_ofList, List.mem_reverse]
  exact fun member => free (List.mem_reverse.mp ((lastSegmentSublist _).subset member))

theorem levelFree (l : Level) : '\n' ∉ l.name.toList := by
  cases l <;> decide

/-- Nothing but a text without a line feed, outside of all spans. -/
structure Event.Bare (e : Event) : Prop where
  target : '\n' ∉ e.target.toList
  message : '\n' ∉ e.message.toList
  fields : e.fields = []
  spans : e.spans = []

variable {escape : String → String}

theorem messageShown (text : String) :
    Field.shown? escape ⟨"message", .text text⟩ = some (escape text) := by
  have own : "message".startsWith "log." = false := by decide +kernel
  rw [Field.shown?, own]
  rfl

theorem bareText {e : Event} (bare : e.Bare) (time : String) :
    e.lineBy escape time = "CAT_AGENT | " ++ time ++ " | " ++ e.level.name ++ " | " ++ component e.target ++ " | " ++
      escape e.message ++ "\n" := by
  have text : showFields escape [⟨"message", .text e.message⟩] = escape e.message := by
    rw [showFields, List.filterMap_cons, messageShown]
    rfl
  unfold Event.lineBy
  rw [bare.fields, bare.spans, text, List.map_nil, String.join_nil, String.append_empty]

theorem bareLine {e : Event} (bare : e.Bare) (feedless : Feedless escape) {time : String}
    (free : '\n' ∉ time.toList) : OneLine (e.lineBy escape time) := by
  have marks : ∀ mark ∈ ["CAT_AGENT | ", " | "], '\n' ∉ mark.toList := by decide
  simp only [List.forall_mem_cons] at marks
  have feed : "\n".toList = ['\n'] := rfl
  refine ⟨_, ?_, by rw [bareText bare, String.toList_append, feed]⟩
  simp only [String.toList_append, List.mem_append, marks, free, levelFree, componentFree bare.target,
    feedless _ bare.message, or_self, not_false_eq_true]

theorem writtenByLines {log : List (String × Event)} (feedless : Feedless escape)
    (bare : ∀ x ∈ log, '\n' ∉ x.1.toList ∧ x.2.Bare) :
    Text.splitOn '\n' (writtenBy escape log).toList =
      log.map (fun x => (x.2.lineBy escape x.1).toList.dropLast) ++ [[]] := by
  have each : ∀ s ∈ log.map (fun x => x.2.lineBy escape x.1), OneLine s := by
    intro s member
    obtain ⟨x, inside, rfl⟩ := List.mem_map.mp member
    exact bareLine (bare x inside).2 feedless (bare x inside).1
  rw [writtenBy, linesApart each, List.map_map, Function.comp_def]

/-! The escaping and the clock of the agent -/

theorem harmlessFree {c : Char} (free : c ≠ '\n') : '\n' ∉ harmless c := by
  have hidden : Text.isPrintable '\n' ≠ true := by decide
  unfold harmless
  dsimp only
  split
  · rename_i control
    rcases control with same | same | same | same | same <;> rw [same] <;> decide
  · split
    · simp only [List.mem_append, not_or]
      exact ⟨⟨by decide, fun digit => hidden (List.all_eq_true.mp (Text.hexDigitsShown c.toNat) _ digit)⟩, by decide⟩
    · exact fun member => free (List.mem_singleton.mp member).symm

theorem harmlessFeedless : Feedless harmlessText := by
  intro s free
  rw [harmlessText, String.toList_ofList]
  intro member
  obtain ⟨c, inside, feed⟩ := List.mem_flatMap.mp member
  exact harmlessFree (fun same => free (same ▸ inside)) feed

theorem paddedFree (width n : Nat) : '\n' ∉ (padded width n).toList := by
  have zeros : '\n' ∉ List.replicate (width - (Decimal.natChars n).length) '0' := fun member =>
    absurd (List.eq_of_mem_replicate member) (by decide)
  simp only [padded, String.toList_ofList, List.mem_append, not_or]
  exact ⟨zeros, Decimal.natCharsFree (by decide) n⟩

theorem clockFree (micros : Nat) : '\n' ∉ (clock micros).toList := by
  have marks : ∀ mark ∈ ["-", "T", ":", ".", "Z"], '\n' ∉ mark.toList := by decide
  simp only [List.forall_mem_cons] at marks
  simp only [clock, String.toList_append, List.mem_append, paddedFree, marks, or_self, not_false_eq_true]

theorem writtenLines {log : List (Nat × Event)} (bare : ∀ x ∈ log, x.2.Bare) :
    Text.splitOn '\n' (written log).toList = log.map (fun x => (x.2.line (clock x.1)).toList.dropLast) ++ [[]] := by
  have each : ∀ x ∈ log.map (fun x => (clock x.1, x.2)), '\n' ∉ x.1.toList ∧ x.2.Bare := by
    intro x member
    obtain ⟨y, inside, rfl⟩ := List.mem_map.mp member
    exact ⟨clockFree y.1, bare y inside⟩
  simp only [written, writtenByLines harmlessFeedless each, List.map_map, Function.comp_def, Event.line]

end TraceRelay.Log
