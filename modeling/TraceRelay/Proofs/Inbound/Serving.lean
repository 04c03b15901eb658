import TraceRelay.Agent
import TraceRelay.Proofs.Inbound.Framing
import TraceRelay.Proofs.Ingest.Verdict
import TraceRelay.Proofs.MessageId.Unique
import TraceRelay.Proofs.Pipeline.Dispatch
/-! A connection from its first byte to its last, in whatever pieces the bytes come. Requests are served in the
order in which they are spelled; a tree that is sent gets no answer, accepted or refused, and anything else
gets exactly one. The ids in the answers come from the same counters as all other ids, and none of them was
given out before. -/
namespace TraceRelay

namespace Agent
open Text (Bytes lossy utf8)
open Inbound (Request Response requests Spelled Stops headerLength maxBody)
open MessageIds (Desk Issued HexWord issuedIn)

structure Decoding where
  body : Bytes
  outcome : Except Ingest.Refusal Tree

/-- One request served: what goes back, and which bodies are decoded with what outcome. -/
inductive Served (a : Agent) (r : Request) : List Response → List Decoding → Agent → Prop
  | named (command : r.command = 1) (filled : r.body ≠ []) :
      Served a r [⟨.ok, utf8 (a.pipeline.ids.next (lossy r.body)).1⟩] []
        (a.setIds (a.pipeline.ids.next (lossy r.body)).2)
  | unnamed (command : r.command = 1) (empty : r.body = []) : Served a r [⟨.noDomain, []⟩] [] a
  | accepted {t ids} (command : r.command = 2) (decoded : Ingest.decode a.pipeline.ids r.body = (.ok t, ids)) :
      Served a r [] [⟨r.body, .ok t⟩] ((a.setIds ids).send t)
  | refused {e} (command : r.command = 2)
      (decoded : Ingest.decode a.pipeline.ids r.body = (.error e, a.pipeline.ids)) :
      Served a r [] [⟨r.body, .error e⟩] a
  | unknown (other : r.command ≠ 1 ∧ r.command ≠ 2) : Served a r [⟨.unknownCommand, []⟩] [] a

inductive Connection : Agent → List Request → List Response → List Decoding → Agent → Prop
  | done (a : Agent) : Connection a [] [] [] a
  | more {a b c r rs ps qs ds es} (first : Served a r ps ds b) (later : Connection b rs qs es c) :
      Connection a (r :: rs) (ps ++ qs) (ds ++ es) c

variable {a b c : Agent} {r : Request} {rs : List Request} {ps : List Response} {ds : List Decoding}

theorem decodeError {ids after : MessageIds} {body : Bytes} {e : Ingest.Refusal}
    (refused : Ingest.decode ids body = (.error e, after)) (other : MessageIds) :
    Ingest.decode other body = (.error e, other) := by
  cases outcome : (Ingest.parse body).outcome with
  | error f =>
    rw [Ingest.decodeRefused outcome] at refused ⊢
    cases refused
    rfl
  | ok p =>
    have accepted := Ingest.decodeParsed outcome ids
    rw [refused] at accepted
    cases accepted

theorem handleError {body : Bytes} {e : Ingest.Refusal} {ids after : MessageIds}
    (refused : Ingest.decode ids body = (.error e, after)) : a.handle body = (.error e, a) := by
  unfold handle
  rw [decodeError refused a.pipeline.ids]
  rfl

theorem answerServed (a : Agent) (r : Request) :
    ∃ ds, Served a r (a.answer r).1.toList ds (a.answer r).2 := by
  unfold answer Command.ofNumber?
  by_cases one : r.command = 1
  · rw [if_pos one]
    by_cases empty : r.body = []
    · exact ⟨[], by simpa [empty] using .unnamed one empty⟩
    · exact ⟨[], by simpa [empty, createId] using .named one empty⟩
  · rw [if_neg one]
    by_cases two : r.command = 2
    · rw [if_pos two]
      cases decoded : Ingest.decode a.pipeline.ids r.body with
      | mk outcome ids =>
        cases outcome with
        | ok t =>
          refine ⟨[⟨r.body, .ok t⟩], ?_⟩
          simp only [handle, decoded]
          exact .accepted two decoded
        | error e =>
          refine ⟨[⟨r.body, .error e⟩], ?_⟩
          simp only [handleError decoded]
          exact .refused two (decodeError decoded a.pipeline.ids)
    · rw [if_neg two]
      exact ⟨[], .unknown ⟨one, two⟩⟩

theorem answerAllServed (a : Agent) (rs : List Request) :
    ∃ ds, Connection a rs (a.answerAll rs).1 ds (a.answerAll rs).2 := by
  induction rs generalizing a with
  | nil => exact ⟨[], .done a⟩
  | cons r rs ih =>
    obtain ⟨ds, first⟩ := answerServed a r
    obtain ⟨es, later⟩ := ih (a.answer r).2
    exact ⟨ds ++ es, .more first later⟩

def sent (rs : List Request) : List Bytes := (rs.filter (·.command = 2)).map Request.body

theorem servedBodies (served : Served a r ps ds b) : ds.map Decoding.body = sent [r] := by
  unfold sent
  cases served with
  | named command | unnamed command => simp [command]
  | accepted command | refused command => simp [command]
  | unknown other => simp [other.2]

theorem connectionBodies (connection : Connection a rs ps ds b) : ds.map Decoding.body = sent rs := by
  induction connection with
  | done => rfl
  | @more a b c r rs ps qs ds es first later ih =>
    have split : sent (r :: rs) = sent [r] ++ sent rs := by
      rw [sent, sent, sent, ← List.map_append, ← List.filter_append]
      rfl
    rw [List.map_append, servedBodies first, ih, split]

theorem servedCount (served : Served a r ps ds b) :
    ps.length = ([r].filter (·.command ≠ 2)).length := by
  cases served with
  | named command | unnamed command => simp [command]
  | accepted command | refused command => simp [command]
  | unknown other => simp [other.2]

theorem connectionCount (connection : Connection a rs ps ds b) :
    ps.length = (rs.filter (·.command ≠ 2)).length := by
  induction connection with
  | done => rfl
  | @more a b c r rs ps qs ds es first later ih =>
    have split : (r :: rs).filter (·.command ≠ 2) = [r].filter (·.command ≠ 2) ++ rs.filter (·.command ≠ 2) := by
      rw [← List.filter_append]
      rfl
    rw [List.length_append, servedCount first, ih, split, List.length_append]

/-! Ids -/

def created (ps : List Response) : List Bytes := (ps.filter (·.status = .ok)).map Response.payload

/-- The desk has come from `d` to `e` and what was created on the way is among the ids that it gave. -/
structure Gave (d e : Desk) (ps : List Response) : Prop where
  run : ∃ calls, d.run? calls = some e
  among : ∃ newer, e.issued = newer ++ d.issued ∧
    (created ps).reverse.Sublist (newer.map fun i => utf8 i.id)

variable {d e : Desk} {home ipHex : String}

theorem gaveNothing (silent : created ps = []) : Gave d d ps :=
  ⟨⟨[], rfl⟩, [], rfl, by simp [silent]⟩

theorem gaveNext (domain : String) (told : created ps = [] ∨ created ps = [utf8 (d.ids.next domain).1]) :
    Gave d (d.give domain (d.ids.next domain)) ps := by
  refine ⟨⟨[.next domain], rfl⟩, [⟨domain, d.ids.hour, (d.ids.next domain).1⟩], rfl, ?_⟩
  rcases told with none | one
  · simp [none]
  · simp [one]

theorem gaveThen {f : Desk} {qs : List Response} (first : Gave d e ps) (later : Gave e f qs) :
    Gave d f (ps ++ qs) := by
  obtain ⟨⟨calls, run⟩, newer, issued, among⟩ := first
  obtain ⟨⟨more, rest⟩, newest, all, last⟩ := later
  refine ⟨⟨calls ++ more, Desk.runAppend run rest⟩, newest ++ newer, by rw [all, issued, List.append_assoc], ?_⟩
  have parts : (created (ps ++ qs)).reverse = (created qs).reverse ++ (created ps).reverse := by
    rw [created, List.filter_append, List.map_append, List.reverse_append]
    rfl
  rw [parts, List.map_append]
  exact last.append among

theorem servedGave (served : Served a r ps ds b) (held : a.pipeline.ids = d.ids) :
    ∃ e, Gave d e ps ∧ b.pipeline.ids = e.ids := by
  cases served with
  | named =>
    rw [held]
    exact ⟨_, gaveNext (lossy r.body) (.inr rfl), rfl⟩
  | unnamed | refused | unknown => exact ⟨d, gaveNothing rfl, held⟩
  | @accepted t ids command decoded =>
    have same : ((a.setIds ids).send t).pipeline.ids = ids := by
      unfold send
      split
      · rfl
      · rw [Pipeline.dispatchParts]
        rfl
    rw [same]
    rw [held] at decoded
    cases outcome : (Ingest.parse r.body).outcome with
    | error f =>
      rw [Ingest.decodeRefused outcome] at decoded
      cases decoded
    | ok p =>
      by_cases own : lossy p.header.messageId = ""
      · simp only [Ingest.decode, outcome, own, if_true, Prod.mk.injEq] at decoded
        exact ⟨_, gaveNext (lossy p.header.domain) (.inl rfl), decoded.2.symm⟩
      · rw [Ingest.decodeOwn outcome own] at decoded
        cases decoded
        exact ⟨d, gaveNothing rfl, rfl⟩

theorem connectionGave (connection : Connection a rs ps ds b) (held : a.pipeline.ids = d.ids) :
    ∃ e, Gave d e ps ∧ b.pipeline.ids = e.ids := by
  induction connection generalizing d with
  | done => exact ⟨d, gaveNothing rfl, held⟩
  | more first later ih =>
    obtain ⟨e, gave, still⟩ := servedGave first held
    obtain ⟨f, rest, last⟩ := ih still
    exact ⟨f, gaveThen gave rest, last⟩

theorem gaveFresh (hex : HexWord ipHex) (counting : Desk.Counting home ipHex e) (gave : Gave d e ps)
    (few : ∀ domain hour, issuedIn e.issued domain hour ≤ UInt32.size) :
    (created ps).Nodup ∧ ∀ i ∈ d.issued, utf8 i.id ∉ created ps := by
  obtain ⟨newer, issued, among⟩ := gave.among
  have apart : (e.issued.map fun i => utf8 i.id).Nodup := by
    have ids := MessageIds.numberedNodup hex counting.numbered few
    rw [← Function.comp_def, ← List.map_map]
    exact List.Pairwise.map utf8 (fun _ _ other same => other (Text.utf8Injective same)) ids
  rw [issued, List.map_append, List.nodup_append] at apart
  refine ⟨(List.pairwise_reverse.mp (apart.1.sublist among)).imp Ne.symm, fun i old new => ?_⟩
  have inside := among.subset (List.mem_reverse.mpr new)
  exact apart.2.2 _ inside _ (List.mem_map_of_mem old) rfl

theorem servedSmall (hex : HexWord ipHex) (counting : Desk.Counting home ipHex d) (held : a.pipeline.ids = d.ids)
    (fits : r.body.length ≤ maxBody) (served : Served a r ps ds b) : ∀ p ∈ ps, p.Small := by
  have empty : headerLength + ([] : Bytes).length < 2 ^ 32 := by decide
  cases served with
  | named =>
    obtain ⟨number, id⟩ := MessageIds.nextFormat counting.prepared (lossy r.body)
    have chars := MessageIds.formatLength hex (lossy r.body) d.ids.hour number
    have bytes := Text.utf8Length (MessageIds.format (lossy r.body) ipHex d.ids.hour number)
    have read : (lossy r.body).toList.length ≤ r.body.length := by
      rw [lossy, String.toList_ofList]
      exact Text.lossyLength r.body
    refine List.forall_mem_singleton.mpr ?_
    rw [held, id, Response.Small]
    simp only [headerLength, maxBody] at fits ⊢
    omega
  | unnamed => exact List.forall_mem_singleton.mpr empty
  | accepted | refused => exact List.forall_mem_nil _
  | unknown => exact List.forall_mem_singleton.mpr empty

theorem connectionSmall (hex : HexWord ipHex) (counting : Desk.Counting home ipHex d) (held : a.pipeline.ids = d.ids)
    (fit : ∀ r ∈ rs, r.body.length ≤ maxBody) (connection : Connection a rs ps ds b) : ∀ p ∈ ps, p.Small := by
  induction connection generalizing d with
  | done => exact fun _ member => nomatch member
  | more first later ih =>
    obtain ⟨fits, others⟩ := List.forall_mem_cons.mp fit
    obtain ⟨e, gave, still⟩ := servedGave first held
    obtain ⟨calls, run⟩ := gave.run
    exact List.forall_mem_append.mpr
      ⟨servedSmall hex counting held fits first, ih (Desk.countingRun counting run) still others⟩

theorem answerAllAppend (a : Agent) (rs more : List Request) : a.answerAll (rs ++ more) =
    ((a.answerAll rs).1 ++ ((a.answerAll rs).2.answerAll more).1, ((a.answerAll rs).2.answerAll more).2) := by
  induction rs generalizing a with
  | nil => rfl
  | cons r rs ih =>
    simp only [List.cons_append, answerAll, ih, List.append_assoc]

/-- A refused body leaves no trace, wherever it stands. -/
theorem refusedAnswer {ids after : MessageIds} {e : Ingest.Refusal} (command : r.command = 2)
    (refused : Ingest.decode ids r.body = (.error e, after)) (a : Agent) (before later : List Request) :
    a.answerAll (before ++ r :: later) = a.answerAll (before ++ later) := by
  have silent : ∀ b : Agent, b.answer r = (none, b) := by
    intro b
    simp only [answer, Command.ofNumber?, command, handleError refused]
    rfl
  rw [answerAllAppend, answerAllAppend, answerAll, silent]
  rfl

/-- What becomes of a stream that an agent receives. Its ids come from the counters of the desk. -/
structure Conversation (a : Agent) (d : Desk) (bs : Bytes) : Prop where
  read : ∀ rs, requests bs = rs ↔ ∃ rest, Spelled rs bs rest ∧ Stops rest
  longest : ∀ rs rest, Spelled rs bs rest → rs <+: requests bs
  pieces : ∀ pieces, pieces.flatten = bs → a.answerAll (Inbound.arrivals [] pieces) = a.serve bs
  deaf : ∀ rs command total, Spelled rs bs [] → command < 2 ^ 32 → total < 2 ^ 32 →
    maxBody < total - headerLength → ∀ tail,
      a.serve (bs ++ (Record.word32 command ++ Record.word32 total ++ tail)) = a.answerAll rs
  served : ∃ ds, Connection a (requests bs) (a.serve bs).1 ds (a.serve bs).2 ∧
    ds.map Decoding.body = sent (requests bs)
  answered : (a.serve bs).1.length = ((requests bs).filter (·.command ≠ 2)).length
  harmless : ∀ before r later ids after e, requests bs = before ++ r :: later → r.command = 2 →
    Ingest.decode ids r.body = (.error e, after) → a.serve bs = a.answerAll (before ++ later)
  fresh : ∃ e calls, d.run? calls = some e ∧ (a.serve bs).2.pipeline.ids = e.ids ∧
    ((∀ domain hour, issuedIn e.issued domain hour ≤ UInt32.size) →
      (created (a.serve bs).1).Nodup ∧ ∀ i ∈ d.issued, utf8 i.id ∉ created (a.serve bs).1)
  unwrapped : ∀ p ∈ (a.serve bs).1, headerLength + p.payload.length < 2 ^ 32
  received : Inbound.receivedAll ((a.serve bs).1.flatMap Response.encode) =
    ((a.serve bs).1.map Response.asReceived, [])
  written : ∀ rs : List Request, (∀ r ∈ rs, r.command < 2 ^ 32 ∧ r.body.length ≤ maxBody) →
    requests (rs.flatMap Request.encode) = rs ∧ ∀ r ∈ rs, headerLength + r.body.length < 2 ^ 32

theorem everyRequestServed (hex : HexWord ipHex) {hour : Int64} {calls : List MessageIds.Call}
    (run : Desk.run? { ids := .start home ipHex hour } calls = some d) (held : a.pipeline.ids = d.ids)
    (bs : Bytes) : Conversation a d bs := by
  have counting : Desk.Counting home ipHex d := Desk.countingRun (Desk.countingStart hour) run
  obtain ⟨ds, connection⟩ := a.answerAllServed (requests bs)
  obtain ⟨e, gave, ids⟩ := connectionGave connection held
  obtain ⟨more, ran⟩ := gave.run
  have small := connectionSmall hex counting held (Inbound.requestsFit bs) connection
  exact {
    read := fun rs => Inbound.requestsExact rs bs
    longest := fun rs rest spelled => ⟨requests rest, (Inbound.requestsFront spelled).symm⟩
    pieces := fun pieces whole => by rw [serve, Inbound.arrivalsWhole, List.nil_append, whole]
    deaf := fun rs command total spelled command32 total32 huge tail => by
      have stops : Stops (Record.word32 command ++ Record.word32 total ++ tail) := .tooLong command32 total32 huge
      have further := Inbound.spelledFurther spelled (Record.word32 command ++ Record.word32 total ++ tail)
      rw [serve, (Inbound.requestsExact rs _).mpr ⟨_, further, stops⟩]
    served := ⟨ds, connection, connectionBodies connection⟩
    answered := connectionCount connection
    harmless := fun before r later ids after e whole command refused => by
      rw [serve, whole, refusedAnswer command refused]
    fresh := ⟨e, more, ran, ids, gaveFresh hex (Desk.countingRun counting ran) gave⟩
    unwrapped := small
    received := Inbound.receivedBack small
    written := fun rs fit => Inbound.writtenBack fit }

/-- The first request announces less than a header, a refused body stands between two ids, and a request
behind the frame that is too long is not read. -/
theorem oversizedFrameEndsIt :
    let a : Agent := { settings := {}, pipeline := {
      routing := { sample := 0.5 }, ids := .start "home" "7f000001" 5 } }
    let d : Desk := { ids := .start "home" "7f000001" 5 }
    let shop : Request := ⟨1, utf8 "shop"⟩
    let rs : List Request := [shop, ⟨2, utf8 "refused"⟩, ⟨42, []⟩, shop]
    let rest := Record.word32 1 ++ Record.word32 4294967295 ++ shop.encode
    let bs := Record.word32 1 ++ Record.word32 3 ++ [] ++ (rs.flatMap Request.encode ++ rest)
    HexWord "7f000001" ∧ d.run? [] = some d ∧ a.pipeline.ids = d.ids ∧ requests bs = ⟨1, []⟩ :: rs ∧
      (a.serve bs).1 = [⟨.noDomain, []⟩, ⟨.ok, utf8 "shop-7f000001-5-1"⟩, ⟨.unknownCommand, []⟩,
        ⟨.ok, utf8 "shop-7f000001-5-2"⟩] ∧
      Inbound.receivedAll ((a.serve bs).1.flatMap Response.encode) =
        ((a.serve bs).1.map Response.asReceived, []) := by
  intro a d shop rs rest bs
  have hex : HexWord "7f000001" := ⟨rfl, List.all_eq_true.mp rfl⟩
  have run : d.run? [] = some d := rfl
  have conversation : Conversation a d bs := everyRequestServed hex run rfl bs
  have spelled : Spelled (⟨1, []⟩ :: rs) bs rest :=
    .more (.frame (by decide) (by decide) rfl (by decide)) (Inbound.encodedSpelled (by decide +kernel) rest)
  have stops : Stops rest := .tooLong (by decide) (by decide) (by decide)
  have read := (conversation.read _).mpr ⟨rest, spelled, stops⟩
  have answered : (a.serve bs).1 = _ := congrArg (fun rs => (a.answerAll rs).1) read
  refine ⟨hex, run, rfl, read, ?_, conversation.received⟩
  rw [answered]
  decide +kernel

end Agent

end TraceRelay
