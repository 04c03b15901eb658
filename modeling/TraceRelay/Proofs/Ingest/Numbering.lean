import TraceRelay.Proofs.Ingest.Verdict
import TraceRelay.Proofs.MessageId.Counters
import TraceRelay.Proofs.Text.Utf8
/-! Bodies decoded one after the other with the same counters. An id is drawn for an accepted body that brings
none, and nothing else moves a counter, so that the ids of a domain have no gap and a refused body might
as well not have come. -/
namespace TraceRelay.Ingest
open Text (Bytes lossy lossyEmpty)
open MessageIds (Prepared Reached Drawn format drawnNext preparedNext reachedPrepared)

def decodeAll (ids : MessageIds) : List Bytes → List (Except Refusal Tree) × MessageIds
  | [] => ([], ids)
  | body :: bodies =>
    let (result, ids) := decode ids body
    let (results, ids) := decodeAll ids bodies
    (result :: results, ids)

/-- The domain that a body names when it brings no id of its own. -/
def asks? (body : Bytes) : Option String :=
  match Header.read body with
  | .ok (h, _) => if h.messageId = [] then some (lossy h.domain) else none
  | .error _ => none

def given (domain : String) : Bytes × Except Refusal Tree → List String
  | (body, .ok t) => if asks? body = some domain then [t.id] else []
  | (_, .error _) => []

def numbered (domain ipHex : String) (hour : Int64) (last : UInt32) : Nat → List String
  | 0 => []
  | more + 1 => format domain ipHex hour (last + 1) :: numbered domain ipHex hour (last + 1) more

/-- The ids are those behind the last one of the domain, and the counter has moved on by them. -/
structure Serial (ipHex domain : String) (ids : MessageIds) (given : List String) (after : MessageIds) : Prop where
  hour : after.hour = ids.hour
  counter : after.counter domain = ids.counter domain + .ofNat given.length
  numbers : given = numbered domain ipHex ids.hour (ids.counter domain) given.length

variable {home ipHex domain : String} {ids after : MessageIds} {body rest : Bytes} {h : Header}

/-! One body -/

theorem refusedStill {e : Refusal} (refused : (decode ids body).1 = .error e) :
    decode ids body = (.error e, ids) := decodeRefused (parseOffence (decodeBlamed refused)) ids

theorem parsedHeader {p : Parsed} (ok : (parse body).outcome = .ok p) :
    ∃ rest, HeaderText p.header body rest := by
  rcases sentenceOrOffence body with ⟨h, lines, top, sentence, filled⟩ | ⟨e, offence⟩
  · obtain ⟨rest, text, -⟩ := sentence.spelled
    rw [parseSentence sentence (List.getLast?_eq_some_getLast filled)] at ok
    cases ok
    exact ⟨rest, text⟩
  · rw [parseOffence offence] at ok
    cases ok

theorem headerOnce {k : Header} {left : Bytes} (text : HeaderText h body rest) (again : HeaderText k body left) :
    h = k := by
  have same := (headerRead text).symm.trans (headerRead again)
  cases same
  rfl

theorem asksRead (text : HeaderText h body rest) :
    asks? body = if h.messageId = [] then some (lossy h.domain) else none := by
  simp only [asks?, headerRead text]

theorem broughtStill (text : HeaderText h body rest) (own : h.messageId ≠ []) : (decode ids body).2 = ids := by
  cases outcome : (parse body).outcome with
  | error e => rw [decodeRefused outcome]
  | ok p =>
    obtain ⟨left, read⟩ := parsedHeader outcome
    have brought : lossy p.header.messageId ≠ "" := fun empty => own (headerOnce text read ▸ lossyEmpty.mp empty)
    rw [decodeOwn outcome brought]

theorem askedDrawn {t : Tree} (text : HeaderText h body rest) (asked : h.messageId = [])
    (accepted : (decode ids body).1 = .ok t) :
    t.domain = lossy h.domain ∧ (t.id, (decode ids body).2) = ids.next (lossy h.domain) := by
  cases outcome : (parse body).outcome with
  | error e =>
    rw [decodeRefused outcome] at accepted
    cases accepted
  | ok p =>
    obtain ⟨left, read⟩ := parsedHeader outcome
    cases headerOnce text read
    have none : lossy p.header.messageId = "" := lossyEmpty.mpr asked
    simp only [decode, outcome, none, if_true] at accepted ⊢
    cases accepted
    exact ⟨rfl, rfl⟩

/-! All of them -/

theorem numberedAppend (hour : Int64) (last : UInt32) (m n : Nat) :
    numbered domain ipHex hour last (m + n) =
      numbered domain ipHex hour last m ++ numbered domain ipHex hour (last + .ofNat m) n := by
  induction m generalizing last with
  | zero => simp [numbered]
  | succ m ih =>
    have onward : last + 1 + .ofNat m = last + .ofNat (m + 1) := by
      rw [UInt32.ofNat_add, UInt32.add_assoc, UInt32.add_comm 1]
      rfl
    rw [Nat.add_right_comm, numbered, numbered, ih, onward, List.cons_append]

theorem serialStill (ids : MessageIds) : Serial ipHex domain ids [] ids :=
  ⟨rfl, (UInt32.add_zero _).symm, rfl⟩

theorem serialAppend {mid : MessageIds} {xs ys : List String} (first : Serial ipHex domain ids xs mid)
    (second : Serial ipHex domain mid ys after) : Serial ipHex domain ids (xs ++ ys) after where
  hour := second.hour.trans first.hour
  counter := by
    rw [second.counter, first.counter, List.length_append, UInt32.ofNat_add, UInt32.add_assoc]
  numbers := by
    have numbers := second.numbers
    rw [first.hour, first.counter] at numbers
    rw [List.length_append, numberedAppend, ← first.numbers, ← numbers]

theorem serialDrawn (prepared : Prepared home ipHex ids) {id : String} {asked : String}
    (drawn : Drawn ids asked id after) :
    Serial ipHex domain ids (if some asked = some domain then [id] else []) after := by
  have ip := prepared.sameIp
  split
  · rename_i same
    cases same
    refine ⟨drawn.hour, ?_, ?_⟩
    · rw [drawn.counter, if_pos rfl]
      rfl
    · rw [drawn.id, ip]
      rfl
  · rename_i other
    have apart : domain ≠ asked := fun same => other (congrArg some same.symm)
    refine ⟨drawn.hour, ?_, rfl⟩
    rw [drawn.counter, if_neg apart]
    exact (UInt32.add_zero _).symm

theorem serialDecode (prepared : Prepared home ipHex ids) (domain : String) (body : Bytes) :
    Prepared home ipHex (decode ids body).2 ∧
      Serial ipHex domain ids (given domain (body, (decode ids body).1)) (decode ids body).2 := by
  cases result : (decode ids body).1 with
  | error e =>
    rw [refusedStill result]
    exact ⟨prepared, serialStill ids⟩
  | ok t =>
    obtain ⟨h, lines, top, m, sentence, -⟩ := decodeAccepted result
    obtain ⟨rest, text, -⟩ := sentence.spelled
    by_cases asked : h.messageId = []
    · obtain ⟨-, drawn⟩ := askedDrawn text asked result
      have draws := drawnNext prepared (lossy h.domain)
      have later := preparedNext prepared (lossy h.domain)
      rw [← drawn] at draws later
      rw [given, asksRead text, if_pos asked]
      exact ⟨later, serialDrawn prepared draws⟩
    · rw [given, asksRead text, if_neg asked, if_neg (by simp), broughtStill text asked]
      exact ⟨prepared, serialStill ids⟩

theorem serialAll (prepared : Prepared home ipHex ids) (domain : String) (bodies : List Bytes) :
    Serial ipHex domain ids ((bodies.zip (decodeAll ids bodies).1).flatMap (given domain))
      (decodeAll ids bodies).2 := by
  induction bodies generalizing ids with
  | nil => exact serialStill ids
  | cons body bodies ih =>
    obtain ⟨later, first⟩ := serialDecode prepared domain body
    exact serialAppend first (ih later)

theorem decodeAllAppend (ids : MessageIds) (before bodies : List Bytes) :
    decodeAll ids (before ++ bodies) =
      ((decodeAll ids before).1 ++ (decodeAll (decodeAll ids before).2 bodies).1,
        (decodeAll (decodeAll ids before).2 bodies).2) := by
  induction before generalizing ids with
  | nil => rfl
  | cons body before ih => simp only [List.cons_append, decodeAll, ih]

theorem decodeAllLength (ids : MessageIds) (bodies : List Bytes) :
    (decodeAll ids bodies).1.length = bodies.length := by
  induction bodies generalizing ids with
  | nil => rfl
  | cons body bodies ih => simp only [decodeAll, List.length_cons, ih]

theorem decodingAtomic (reached : Reached home ipHex ids) :
    (∀ body e, (decode ids body).1 = .error e → (decode ids body).2 = ids) ∧
    (∀ body h rest, HeaderText h body rest → h.messageId ≠ [] → (decode ids body).2 = ids) ∧
    (∀ body h rest t, HeaderText h body rest → h.messageId = [] → (decode ids body).1 = .ok t →
      t.domain = lossy h.domain ∧ (t.id, (decode ids body).2) = ids.next (lossy h.domain) ∧
        Drawn ids (lossy h.domain) t.id (decode ids body).2) ∧
    (∀ domain bodies, Serial ipHex domain ids ((bodies.zip (decodeAll ids bodies).1).flatMap (given domain))
      (decodeAll ids bodies).2) ∧
    ∀ before body after e, (decode (decodeAll ids before).2 body).1 = .error e →
      ∃ earlier later last, earlier.length = before.length ∧
        decodeAll ids (before ++ body :: after) = (earlier ++ .error e :: later, last) ∧
        decodeAll ids (before ++ after) = (earlier ++ later, last) := by
  have prepared := reachedPrepared reached
  refine ⟨fun body e refused => by rw [refusedStill refused], fun body h rest => broughtStill,
    fun body h rest t text asked accepted => ?_, serialAll prepared, fun before body after e refused => ?_⟩
  · obtain ⟨domain, drawn⟩ := askedDrawn text asked accepted
    have draws := drawnNext prepared (lossy h.domain)
    rw [← drawn] at draws
    exact ⟨domain, drawn, draws⟩
  · refine ⟨_, _, _, decodeAllLength ids before, ?_, decodeAllAppend ids before after⟩
    rw [decodeAllAppend, decodeAll, refusedStill refused]

/-- An open transaction between two bodies without an id, and one that has its own. -/
theorem refusedBodyUnseen :
    let ids : MessageIds := .start "home" "7f000001" 9
    let drawing := Text.utf8 "d\tg\t1\tn\t\t\t\nE\tSQL\tq\t0\t6\t\t"
    let bringing := Text.utf8 "d\tg\t1\tn\tm\t\t\nE\tSQL\tq\t0\t6\t\t"
    let broken := Text.utf8 "d\tg\t1\tn\t\t\t\nt\tURL\ta\t0\t6\t\t"
    let bodies := [drawing, broken, bringing, drawing]
    (decode ids broken).2 = ids ∧ (decode ids bringing).2 = ids ∧
      ("d-7f000001-9-1", (decode ids drawing).2) = ids.next "d" ∧
      Serial "7f000001" "d" ids ["d-7f000001-9-1", "d-7f000001-9-2"] (decodeAll ids bodies).2 ∧
      ∃ earlier later last, earlier.length = 1 ∧
        decodeAll ids bodies = (earlier ++ .error (.neverClosed "URL:a") :: later, last) ∧
        decodeAll ids [drawing, bringing, drawing] = (earlier ++ later, last) := by
  intro ids drawing bringing broken bodies
  have reached : Reached "home" "7f000001" ids := .start 9
  obtain ⟨refused, brought, drawn, serial, removed⟩ := decodingAtomic reached
  have fails : (decode ids broken).1 = .error (.neverClosed "URL:a") := by with_unfolding_all rfl
  have failsLater : (decode (decodeAll ids [drawing]).2 broken).1 = .error (.neverClosed "URL:a") := by
    with_unfolding_all rfl
  let h : Header := ⟨Text.utf8 "d", Text.utf8 "g", Text.utf8 "1", Text.utf8 "n", Text.utf8 "m", [], []⟩
  let line := Text.utf8 "E\tSQL\tq\t0\t6\t\t"
  have own : HeaderText h bringing line := textOfHeader (by with_unfolding_all rfl)
  have asked : HeaderText { h with messageId := [] } drawing line := textOfHeader (by with_unfolding_all rfl)
  let t : Tree := {
    domain := "d", id := "d-7f000001-9-1", threadGroup := "g", threadId := "1", threadName := "n"
    message := .event ⟨"SQL", "q", "0", "", 6⟩ }
  have accepted : (decode ids drawing).1 = .ok t := by with_unfolding_all rfl
  have numbers : (bodies.zip (decodeAll ids bodies).1).flatMap (given "d") =
      ["d-7f000001-9-1", "d-7f000001-9-2"] := by with_unfolding_all rfl
  have runs := serial "d" bodies
  rw [numbers] at runs
  exact ⟨refused broken _ fails, brought bringing h line own (by decide +kernel),
    (drawn drawing _ line t asked rfl accepted).2.1, runs,
    removed [drawing] broken [bringing, drawing] _ failsLater⟩

end TraceRelay.Ingest
