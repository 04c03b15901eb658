import Mathlib.Algebra.Group.Nat.Defs
import TraceRelay.Proofs.Record.RoundTrip
import TraceRelay.Inbound.Frame
/-! Frames of a connection, said without the reader. A stream spells requests as long as complete frames follow
one another, and it stops where a header or a body is cut short or too much is announced; what it spells
up to there is what is read, in whatever pieces it comes. Written responses are read back by a client one
by one. -/
namespace TraceRelay.Inbound
open Text (Bytes)
open Record (word32 readWord32? take? readWord32OfWord32 takeFront)

/-- A total below the length of the header announces an empty body. -/
inductive Complete : Request → Bytes → Prop
  | frame {command total : Nat} {body : Bytes} (command32 : command < 2 ^ 32) (total32 : total < 2 ^ 32)
      (announced : body.length = total - headerLength) (fits : body.length ≤ maxBody) :
      Complete ⟨command, body⟩ (word32 command ++ word32 total ++ body)

inductive Spelled : List Request → Bytes → Bytes → Prop
  | done (rest : Bytes) : Spelled [] rest rest
  | more {r rs frame bs rest} (complete : Complete r frame) (later : Spelled rs bs rest) :
      Spelled (r :: rs) (frame ++ bs) rest

inductive Stops : Bytes → Prop
  | header {bs : Bytes} (short : bs.length < headerLength) : Stops bs
  | body {command total : Nat} {bs : Bytes} (command32 : command < 2 ^ 32) (total32 : total < 2 ^ 32)
      (fits : total - headerLength ≤ maxBody) (short : bs.length < total - headerLength) :
      Stops (word32 command ++ word32 total ++ bs)
  | tooLong {command total : Nat} {bs : Bytes} (command32 : command < 2 ^ 32) (total32 : total < 2 ^ 32)
      (huge : maxBody < total - headerLength) : Stops (word32 command ++ word32 total ++ bs)

theorem readHeader {command total : Nat} (command32 : command < 2 ^ 32) (total32 : total < 2 ^ 32)
    (bs : Bytes) : next (word32 command ++ word32 total ++ bs) =
      if maxBody < total - headerLength then .tooLong (total - headerLength)
      else match take? (total - headerLength) bs with
        | some (body, rest) => .request ⟨command, body⟩ rest
        | none => .ended := by
  have first := readWord32OfWord32 command32 (word32 total ++ bs)
  have second := readWord32OfWord32 total32 bs
  rw [List.append_assoc]
  unfold next
  split
  · cases first.symm.trans ‹_›
  · cases first.symm.trans ‹_›
    split
    · cases second.symm.trans ‹_›
    · cases second.symm.trans ‹_›
      rfl

theorem wordSpelled {bs rest : Bytes} {n : Nat} (read : readWord32? bs = some (n, rest)) :
    n < 2 ^ 32 ∧ bs = word32 n ++ rest := by
  unfold readWord32? at read
  split at read
  · rename_i a b c d r
    cases read
    have bounds := And.intro a.toNat_lt (And.intro b.toNat_lt (And.intro c.toNat_lt d.toNat_lt))
    refine ⟨by omega, ?_⟩
    simp only [word32, List.cons_append, List.nil_append, List.cons.injEq, and_true, ← UInt8.toNat_inj,
      UInt8.toNat_ofNat']
    omega
  · cases read

theorem wordShort {bs : Bytes} (unread : readWord32? bs = none) : bs.length < 4 := by
  unfold readWord32? at unread
  split at unread
  · cases unread
  · rename_i other
    rcases bs with _ | ⟨a, _ | ⟨b, _ | ⟨c, _ | ⟨d, r⟩⟩⟩⟩
    case cons.cons.cons.cons => exact (other a b c d r rfl).elim
    all_goals simp

theorem wordLength (n : Nat) : (word32 n).length = 4 := rfl

/-- A stream begins with a header or is shorter than one. -/
theorem headerOrShort (bs : Bytes) : bs.length < headerLength ∨ ∃ command total rest,
    command < 2 ^ 32 ∧ total < 2 ^ 32 ∧ bs = word32 command ++ word32 total ++ rest := by
  cases first : readWord32? bs with
  | none =>
    have short := wordShort first
    exact .inl (by simp only [headerLength]; omega)
  | some pair =>
    obtain ⟨command, more⟩ := pair
    obtain ⟨command32, rfl⟩ := wordSpelled first
    cases second : readWord32? more with
    | none =>
      have short := wordShort second
      refine .inl ?_
      rw [List.length_append, wordLength, headerLength]
      omega
    | some pair =>
      obtain ⟨total, rest⟩ := pair
      obtain ⟨total32, rfl⟩ := wordSpelled second
      exact .inr ⟨command, total, rest, command32, total32, by rw [List.append_assoc]⟩

theorem nextComplete {r : Request} {frame : Bytes} (complete : Complete r frame) (rest : Bytes) :
    next (frame ++ rest) = .request r rest := by
  obtain ⟨command32, total32, announced, fits⟩ := complete
  rw [List.append_assoc, readHeader command32 total32, if_neg (by omega), ← announced, takeFront]

theorem nextStops {bs : Bytes} (stops : Stops bs) : ∀ r rest, next bs ≠ .request r rest := by
  intro r rest same
  cases stops with
  | header short =>
    have length := nextLength same
    omega
  | body command32 total32 fits short =>
    rw [readHeader command32 total32, if_neg (by omega), take?, if_neg (by omega)] at same
    cases same
  | tooLong command32 total32 huge =>
    rw [readHeader command32 total32, if_pos huge] at same
    cases same

theorem completeOrStops (bs : Bytes) :
    (∃ r frame rest, Complete r frame ∧ bs = frame ++ rest) ∨ Stops bs := by
  rcases headerOrShort bs with short | ⟨command, total, rest, command32, total32, rfl⟩
  · exact .inr (.header short)
  · by_cases huge : maxBody < total - headerLength
    · exact .inr (.tooLong command32 total32 huge)
    · by_cases short : rest.length < total - headerLength
      · exact .inr (.body command32 total32 (Nat.not_lt.mp huge) short)
      · have length : (rest.take (total - headerLength)).length = total - headerLength :=
          List.length_take_of_le (Nat.not_lt.mp short)
        have fits : (rest.take (total - headerLength)).length ≤ maxBody := by
          rw [length]
          exact Nat.not_lt.mp huge
        have complete := Complete.frame command32 total32 length fits
        refine .inl ⟨_, _, rest.drop (total - headerLength), complete, ?_⟩
        rw [List.append_assoc _ _ (rest.drop _), List.take_append_drop]

theorem nextFrame {bs rest : Bytes} {r : Request} (found : next bs = .request r rest) :
    ∃ frame, Complete r frame ∧ bs = frame ++ rest := by
  rcases completeOrStops bs with ⟨s, frame, tail, complete, rfl⟩ | stops
  · cases (nextComplete complete tail).symm.trans found
    exact ⟨frame, complete, rfl⟩
  · exact absurd found (nextStops stops r rest)

theorem requestsMore {r : Request} {frame : Bytes} (complete : Complete r frame) (rest : Bytes) :
    requests (frame ++ rest) = r :: requests rest := by
  have first := nextComplete complete rest
  rw [requests]
  split
  · rename_i found
    cases first.symm.trans found
    rfl
  · rename_i other
    exact absurd first (other r rest)

theorem requestsStop {bs : Bytes} (stops : Stops bs) : requests bs = [] := by
  rw [requests]
  split
  · exact absurd ‹_› (nextStops stops _ _)
  · rfl

theorem requestsFront {rs : List Request} {bs rest : Bytes} (spelled : Spelled rs bs rest) :
    requests bs = rs ++ requests rest := by
  induction spelled with
  | done => rfl
  | more complete later ih => rw [requestsMore complete, ih, List.cons_append]

theorem requestsSpelled (bs : Bytes) : ∃ rest, Spelled (requests bs) bs rest ∧ Stops rest := by
  fun_induction requests bs with
  | case1 bs r rest found shorter ih =>
    obtain ⟨frame, complete, rfl⟩ := nextFrame found
    obtain ⟨last, spelled, stops⟩ := ih
    exact ⟨last, .more complete spelled, stops⟩
  | case2 bs other =>
    rcases completeOrStops bs with ⟨r, frame, rest, complete, rfl⟩ | stops
    · exact absurd (nextComplete complete rest) (other r rest)
    · exact ⟨bs, .done bs, stops⟩

theorem spelledFurther {rs : List Request} {bs left : Bytes} (spelled : Spelled rs bs left) (rest : Bytes) :
    Spelled rs (bs ++ rest) (left ++ rest) := by
  induction spelled with
  | done left => exact .done (left ++ rest)
  | more complete later ih =>
    rw [List.append_assoc]
    exact .more complete ih

theorem requestsFit (bs : Bytes) : ∀ r ∈ requests bs, r.body.length ≤ maxBody := by
  obtain ⟨rest, spelled, -⟩ := requestsSpelled bs
  generalize requests bs = rs at spelled
  induction spelled with
  | done => exact fun _ member => nomatch member
  | more complete later ih =>
    obtain ⟨-, -, -, fits⟩ := complete
    exact List.forall_mem_cons.mpr ⟨fits, ih⟩

theorem requestsExact (rs : List Request) (bs : Bytes) :
    requests bs = rs ↔ ∃ rest, Spelled rs bs rest ∧ Stops rest := by
  constructor
  · rintro rfl
    exact requestsSpelled bs
  · rintro ⟨rest, spelled, stops⟩
    rw [requestsFront spelled, requestsStop stops, List.append_nil]

theorem encodedSmall {r : Request} (fits : r.body.length ≤ maxBody) : headerLength + r.body.length < 2 ^ 32 := by
  simp only [headerLength, maxBody] at *
  omega

theorem encodeComplete {r : Request} (command32 : r.command < 2 ^ 32) (fits : r.body.length ≤ maxBody) :
    Complete r r.encode :=
  .frame command32 (encodedSmall fits) (by omega) fits

theorem encodedSpelled {rs : List Request}
    (fit : ∀ r ∈ rs, r.command < 2 ^ 32 ∧ r.body.length ≤ maxBody) (rest : Bytes) :
    Spelled rs (rs.flatMap Request.encode ++ rest) rest := by
  induction rs with
  | nil => exact .done rest
  | cons r rs ih =>
    obtain ⟨⟨command32, fits⟩, others⟩ := List.forall_mem_cons.mp fit
    rw [List.flatMap_cons, List.append_assoc]
    exact .more (encodeComplete command32 fits) (ih others)

theorem writtenBack {rs : List Request} (fit : ∀ r ∈ rs, r.command < 2 ^ 32 ∧ r.body.length ≤ maxBody) :
    requests (rs.flatMap Request.encode) = rs ∧ ∀ r ∈ rs, headerLength + r.body.length < 2 ^ 32 := by
  have spelled := encodedSpelled fit []
  rw [List.append_nil] at spelled
  exact ⟨(requestsExact rs _).mpr ⟨[], spelled, .header (by decide)⟩,
    fun r member => encodedSmall (fit r member).2⟩

/-! A stream in pieces -/

theorem nextShort {bs : Bytes} (short : bs.length < headerLength) : next bs = .ended := by
  unfold next
  split
  · rfl
  · rename_i first
    split
    · rfl
    · rename_i second
      have one := readWord32Length first
      have two := readWord32Length second
      simp only [headerLength] at short
      omega

theorem nextTooLong {bs : Bytes} {length : Nat} (found : next bs = .tooLong length) (more : Bytes) :
    Stops (bs ++ more) := by
  rcases completeOrStops bs with ⟨s, frame, tail, complete, rfl⟩ | stops
  · cases (nextComplete complete tail).symm.trans found
  · cases stops with
    | header short => cases (nextShort short).symm.trans found
    | body command32 total32 fits short =>
      rw [readHeader command32 total32, if_neg (by omega), take?, if_neg (by omega)] at found
      cases found
    | tooLong command32 total32 huge =>
      rw [List.append_assoc]
      exact .tooLong command32 total32 huge

/-- What has come is read as far as it goes before more is taken in. -/
def arrivals (unread : Bytes) (pieces : List Bytes) : List Request :=
  match found : next unread with
  | .request r rest =>
    have := nextLength found
    r :: arrivals rest pieces
  | .tooLong _ => []
  | .ended =>
    match pieces with
    | [] => []
    | piece :: pieces => arrivals (unread ++ piece) pieces
termination_by (pieces.length, unread.length)
decreasing_by
  · exact Prod.Lex.right _ (by simp only [headerLength] at this; omega)
  · exact Prod.Lex.left _ _ (Nat.lt_succ_self _)

theorem arrivalsWhole (unread : Bytes) (pieces : List Bytes) :
    arrivals unread pieces = requests (unread ++ pieces.flatten) := by
  fun_induction arrivals unread pieces with
  | case1 unread pieces r rest found shorter ih =>
    obtain ⟨frame, complete, rfl⟩ := nextFrame found
    rw [ih, List.append_assoc, requestsMore complete]
  | case2 unread pieces length found => exact (requestsStop (nextTooLong found _)).symm
  | case3 unread found =>
    rw [List.flatten_nil, List.append_nil, requests]
    split
    · cases found.symm.trans ‹_›
    · rfl
  | case4 unread found piece pieces ih => rw [ih, List.flatten_cons, List.append_assoc]

/-! What a client reads -/

theorem receivedLength {bs rest : Bytes} {r : Received} (received : received? bs = some (r, rest)) :
    rest.length < bs.length := by
  simp only [received?, bind, Option.bind_eq_some_iff, pure, Option.some.injEq, Prod.mk.injEq] at received
  obtain ⟨⟨status, afterStatus⟩, first, ⟨length, afterLength⟩, second, ⟨payload, afterPayload⟩, third, -, rfl⟩ :=
    received
  have shorter := readWord32Length first
  have again := readWord32Length second
  have last := takeLength third
  dsimp only at again last ⊢
  omega

/-- Frames one by one up to the first that is not complete, and what is left there. -/
def receivedAll (bs : Bytes) : List Received × Bytes :=
  match received : received? bs with
  | some (r, rest) =>
    have := receivedLength received
    let (rs, left) := receivedAll rest
    (r :: rs, left)
  | none => ([], bs)
termination_by bs.length

def Response.asReceived (p : Response) : Received := ⟨p.status.code, headerLength + p.payload.length, p.payload⟩

def Response.Small (p : Response) : Prop := headerLength + p.payload.length < 2 ^ 32

theorem receivedEncoded {p : Response} (small : p.Small) (rest : Bytes) :
    received? (p.encode ++ rest) = some (p.asReceived, rest) := by
  have code : p.status.code < 0x100000000 := by cases p.status <;> decide
  have length : headerLength + p.payload.length - headerLength = p.payload.length := by omega
  simp only [received?, Response.encode, Response.asReceived, List.append_assoc, readWord32OfWord32 code,
    readWord32OfWord32 small, length, takeFront, bind, Option.bind, pure]

theorem receivedBack {ps : List Response} (small : ∀ p ∈ ps, p.Small) :
    receivedAll (ps.flatMap Response.encode) = (ps.map Response.asReceived, []) := by
  induction ps with
  | nil => rw [receivedAll]; rfl
  | cons p ps ih =>
    obtain ⟨first, others⟩ := List.forall_mem_cons.mp small
    have front := receivedEncoded first (ps.flatMap Response.encode)
    rw [List.flatMap_cons, receivedAll]
    split
    · rename_i r rest found
      cases front.symm.trans found
      rw [ih others]
      rfl
    · rename_i missing
      cases front.symm.trans missing

end TraceRelay.Inbound
