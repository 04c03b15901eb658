import TraceRelay.Proofs.Ingest.RoundTrip
import TraceRelay.Proofs.Pipeline.Dispatch
/-! One failed line marks the tree. Messages from lines that all succeeded have all succeeded, so that a failed
message goes back to a failed line, and a marked tree passes the sampler by. -/
namespace TraceRelay
open Text (Bytes utf8 lossy)
open Ingest

theorem enclosedSuccess {c : Line} (closes : c.status = utf8 success) (o : Line) (inside : List Message) :
    (enclosed o c inside).detail.status = success := by
  have filled : utf8 success ≠ [] := by decide
  have said : (if c.status = [] then o.status else c.status) = utf8 success := by
    rw [closes, if_neg filled]
  exact (congrArg lossy said).trans (Text.lossyUtf8 success)

theorem forestSucceeded {ls : List Line} {ms : List Message} (whole : Forest ls ms)
    (each : ∀ l ∈ ls, l.status = utf8 success) (depth : Nat) :
    ∀ n ∈ Message.walkAll depth ms, n.2.succeeded = true := by
  have statuses := forestDetails (P := fun d => d.status = success) (Q := fun l => l.status = utf8 success)
    (fun l succeeded => (congrArg lossy succeeded).trans (Text.lossyUtf8 success))
    (fun o c inside _ closes => enclosedSuccess closes o inside) whole each depth
  exact fun n member => beq_iff_eq.mpr (statuses n member)

section

variable {ids : MessageIds} {body : Bytes} {t : Tree} (accepted : (decode ids body).1 = .ok t)

include accepted

theorem acceptedFilled {h : Header} {lines : List Line} {top : List Message}
    (sentence : Sentence body h lines top) : top ≠ [] := by
  rintro rfl
  obtain ⟨rest, header, spelled⟩ := sentence.spelled
  rw [forestEmpty sentence.whole] at spelled
  cases spelled with
  | none =>
    rw [decodeRefused (parseOffence (.empty header))] at accepted
    cases accepted

theorem discardableLines {h : Header} {lines : List Line} {top : List Message}
    (sentence : Sentence body h lines top) :
    t.discardable = true ↔ ∀ l ∈ lines, l.status = utf8 "0" := by
  have last := List.getLast?_eq_some_getLast (acceptedFilled accepted sentence)
  rw [decodeSentence sentence last] at accepted
  rw [← Except.ok.inj accepted]
  simp only [Parsed.toTree, List.all_eq_true, unfailedIff]

theorem discardableSucceeded (discardable : t.discardable = true) :
    ∀ n ∈ t.message.walk 0, n.2.succeeded = true := by
  obtain ⟨h, lines, top, m, sentence, last, same⟩ := decodeAccepted accepted
  have each := (discardableLines accepted sentence).mp discardable
  have message : t.message = m := by rw [same]; rfl
  rw [message]
  exact fun n inside => forestSucceeded sentence.whole each 0 n (walkOfMem (List.mem_of_getLast? last) inside)

end

theorem lastingDispatch {t : Tree} (lasting : t.discardable = false) (p : Pipeline) :
    p.keeps t = true ∧ (p.dispatch t).outbox = p.outbox.offer t ∧ (p.dispatch t).sampled = p.sampled := by
  have kept : p.keeps t = true := by simp [Pipeline.keeps, lasting]
  rw [Pipeline.dispatchParts]
  exact ⟨kept, if_pos kept, by simp [Pipeline.asked, lasting]⟩

/-- However an accepted body is read, its lines say whether its tree may be discarded. A message that failed,
wherever it stands, forbids it, and then the tree goes to the outbox whatever the sampler would say. -/
theorem failureKeepsTree {ids : MessageIds} {body : Bytes} {t : Tree} (accepted : (decode ids body).1 = .ok t) :
    (∃ h lines top, Sentence body h lines top) ∧
    (∀ h lines top, Sentence body h lines top →
      (t.discardable = true ↔ ∀ l ∈ lines, l.status = utf8 "0")) ∧
    (∀ n ∈ t.message.walk 0, n.2.succeeded = false → t.discardable = false) ∧
    (t.discardable = false → ∀ p : Pipeline, p.keeps t = true ∧
      (p.dispatch t).outbox = p.outbox.offer t ∧ (p.dispatch t).sampled = p.sampled) := by
  obtain ⟨h, lines, top, -, sentence, -⟩ := decodeAccepted accepted
  refine ⟨⟨h, lines, top, sentence⟩, fun _ _ _ => discardableLines accepted, fun n inside failed => ?_,
    lastingDispatch⟩
  rw [Bool.eq_false_iff]
  intro discardable
  rw [discardableSucceeded accepted discardable n inside] at failed
  cases failed

theorem deepFailureKeepsTree :
    let body := utf8 "d\tg\t1\tn\tm\t\t\nt\tURL\t/a\t0\t5\t\t\nE\tSQL\tq\terr\t6\t\t\nT\tURL\t/a\t0\t5\t9\t\n"
    let failed : Message := .event ⟨"SQL", "q", "err", "", 6⟩
    let t : Tree := {
      domain := "d", id := "m", threadGroup := "g", threadId := "1", threadName := "n", discardable := false
      message := .transaction ⟨"URL", "/a", "0", "", 5⟩ 9 [failed] }
    let p : Pipeline := { routing := { sample := 0.0 }, sampled := 7, ids := .start "home" "7f000001" 1 }
    (decode p.ids body).1 = .ok t ∧ t.discardable = false ∧ (p.dispatch t).sampled = 7 ∧
      (p.dispatch t).outbox.normal.toList.map Tree.id = ["m"] := by
  intro body failed t p
  have accepted : (decode p.ids body).1 = .ok t := by rfl
  have inside : (1, failed) ∈ t.message.walk 0 := by simp [t, failed, Message.walk, Message.walkAll]
  obtain ⟨-, -, marks, offers⟩ := failureKeepsTree accepted
  have lasting := marks (1, failed) inside (by decide)
  obtain ⟨-, outbox, sampled⟩ := offers lasting p
  exact ⟨accepted, lasting, sampled, by rw [outbox]; rfl⟩

end TraceRelay
