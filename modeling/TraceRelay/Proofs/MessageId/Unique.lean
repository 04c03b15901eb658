import TraceRelay.Proofs.MessageId.Counters
/-! No id is given out twice. A call for a domain without a counter lets go of the counters after it has
looked and comes back to add one, and anything may happen in between. Each id carries the number of
ids that its domain had in its hour, and an id can be read back from its end: the number, then the
hour, then the eight digits of the address; what is left is the domain, whatever it looks like. -/
namespace TraceRelay.MessageIds

def hexDigit (c : Char) : Bool := c.isDigit || ('a' ≤ c && c ≤ 'f') || ('A' ≤ c && c ≤ 'F')

structure HexWord (s : String) : Prop where
  length : s.toList.length = 8
  digits : ∀ c ∈ s.toList, hexDigit c = true

theorem cutLast {α : Type} {c : α} (front other : List α) {tail last : List α} (clear : c ∉ tail)
    (plain : c ∉ last) (same : front ++ c :: tail = other ++ c :: last) : front = other ∧ tail = last := by
  rcases List.append_eq_append_iff.mp same with ⟨more, whole, rest⟩ | ⟨more, whole, rest⟩
  · cases more with
    | nil =>
      cases rest
      exact ⟨by simp [whole], rfl⟩
    | cons a more =>
      obtain ⟨-, inside⟩ := List.cons.inj rest
      exact absurd (inside ▸ by simp) clear
  · cases more with
    | nil =>
      cases rest
      exact ⟨by simp [whole], rfl⟩
    | cons a more =>
      obtain ⟨-, inside⟩ := List.cons.inj rest
      exact absurd (inside ▸ by simp) plain

theorem dashAbsent (n : Nat) : '-' ∉ Decimal.natChars n := Decimal.natCharsFree (by decide) n

/-- A dash in front of an hour is told from the sign of the hour by what stands before it. -/
theorem hourCut {front other : List Char} {i j : Int} (plain : front.getLast? ≠ some '-')
    (clear : other.getLast? ≠ some '-')
    (same : front ++ '-' :: Decimal.intChars i = other ++ '-' :: Decimal.intChars j) :
    front = other ∧ i = j := by
  have cut := fun (a b : List Char) (m n : Nat) =>
    cutLast a b (dashAbsent m) (dashAbsent n)
  have moved : ∀ (a : List Char) (n : Nat),
      a ++ '-' :: '-' :: Decimal.natChars n = (a ++ ['-']) ++ '-' :: Decimal.natChars n := by simp
  suffices front = other ∧ Decimal.intChars i = Decimal.intChars j from
    ⟨this.1, Decimal.intCharsInjective this.2⟩
  unfold Decimal.intChars at same ⊢
  split at same <;> rename_i first <;> split at same <;> rename_i second
  · rw [moved, moved] at same
    obtain ⟨fronts, digits⟩ := cut _ _ _ _ same
    rw [if_pos first, if_pos second, digits]
    exact ⟨List.append_cancel_right fronts, rfl⟩
  · rw [moved] at same
    obtain ⟨rfl, -⟩ := cut _ _ _ _ same
    simp at clear
  · rw [moved] at same
    obtain ⟨rfl, -⟩ := cut _ _ _ _ same
    simp at plain
  · obtain ⟨fronts, digits⟩ := cut _ _ _ _ same
    rw [if_neg first, if_neg second, digits]
    exact ⟨fronts, rfl⟩

variable {home ipHex : String}

theorem formatChars (domain ipHex : String) (hour : Int64) (number : UInt32) :
    (format domain ipHex hour number).toList =
      ((domain.toList ++ '-' :: ipHex.toList) ++ '-' :: Decimal.intChars hour.toInt) ++
        '-' :: Decimal.natChars number.toNat := by
  simp [format, front, Decimal.int, Decimal.nat]

theorem hourLength (hour : Int64) : (Decimal.intChars hour.toInt).length ≤ 20 := by
  have low := hour.le_toInt
  have high := hour.toInt_lt
  have digits : (Decimal.natChars hour.toInt.natAbs).length ≤ 19 :=
    (Nat.length_toDigits_le_iff (by decide) (by decide)).mpr (by omega)
  unfold Decimal.intChars
  split
  · exact Nat.succ_le_succ digits
  · exact Nat.le_succ_of_le digits

theorem formatLength (hex : HexWord ipHex) (domain : String) (hour : Int64) (number : UInt32) :
    (format domain ipHex hour number).toList.length ≤ domain.toList.length + 41 := by
  have eight := hex.length
  have hours := hourLength hour
  have below := number.toNat_lt
  have numbers : (Decimal.natChars number.toNat).length ≤ 10 :=
    (Nat.length_toDigits_le_iff (by decide) (by decide)).mpr (by omega)
  rw [formatChars]
  simp only [List.length_append, List.length_cons]
  omega

theorem addressEnds (hex : HexWord ipHex) (domain : List Char) :
    (domain ++ '-' :: ipHex.toList).getLast? ≠ some '-' := by
  obtain ⟨eight, digits⟩ := hex
  intro dash
  cases chars : ipHex.toList with
  | nil => simp [chars] at eight
  | cons c cs =>
    rw [chars, List.getLast?_append, List.getLast?_cons_cons] at dash
    obtain ⟨last, ends⟩ := Option.isSome_iff_exists.mp (List.getLast?_isSome.mpr (List.cons_ne_nil c cs))
    rw [ends] at dash
    have digit := digits last (chars ▸ List.mem_of_getLast? ends)
    cases dash
    exact absurd digit (by decide)

theorem formatInjective (hex : HexWord ipHex) {domain other : String} {hour later : Int64}
    {number next : UInt32} (same : format domain ipHex hour number = format other ipHex later next) :
    domain = other ∧ hour = later ∧ number = next := by
  have chars := congrArg String.toList same
  rw [formatChars, formatChars] at chars
  obtain ⟨fronts, numbers⟩ := cutLast _ _ (dashAbsent _) (dashAbsent _) chars
  obtain ⟨addresses, hours⟩ := hourCut (addressEnds hex _) (addressEnds hex _) fronts
  refine ⟨String.toList_inj.mp (List.append_cancel_right addresses), Int64.toInt_inj.mp hours, ?_⟩
  exact UInt32.toNat_inj.mp (Decimal.natCharsInjective numbers)

structure Issued where
  domain : String
  hour : Int64
  id : String
  deriving DecidableEq, Repr

def issuedIn (issued : List Issued) (domain : String) (hour : Int64) : Nat :=
  issued.countP fun a => a.domain = domain ∧ a.hour = hour

inductive Numbered (ipHex : String) : List Issued → Prop
  | nil : Numbered ipHex []
  | cons {a before} (earlier : Numbered ipHex before)
      (id : a.id = format a.domain ipHex a.hour (.ofNat (issuedIn before a.domain a.hour + 1))) :
      Numbered ipHex (a :: before)

theorem issuedInCons (a : Issued) (before : List Issued) (domain : String) (hour : Int64) :
    issuedIn (a :: before) domain hour =
      issuedIn before domain hour + if a.domain = domain ∧ a.hour = hour then 1 else 0 := by
  simp [issuedIn, List.countP_cons]

theorem numberOf {issued : List Issued} (numbered : Numbered ipHex issued) {a : Issued} (given : a ∈ issued) :
    ∃ n < issuedIn issued a.domain a.hour,
      a.id = format a.domain ipHex a.hour (.ofNat (n + 1)) := by
  induction numbered with
  | nil => cases given
  | @cons b before earlier id ih =>
    rw [issuedInCons]
    rcases List.mem_cons.mp given with rfl | inside
    · exact ⟨issuedIn before a.domain a.hour, by simp, id⟩
    · obtain ⟨n, below, written⟩ := ih inside
      exact ⟨n, by omega, written⟩

theorem numberedApart (hex : HexWord ipHex) {issued : List Issued} (numbered : Numbered ipHex issued)
    {a b : Issued} (one : a ∈ issued) (two : b ∈ issued) (same : a.id = b.id) :
    a.domain = b.domain ∧ a.hour = b.hour := by
  obtain ⟨m, -, first⟩ := numberOf numbered one
  obtain ⟨n, -, second⟩ := numberOf numbered two
  rw [first, second] at same
  obtain ⟨domains, hours, -⟩ := formatInjective hex same
  exact ⟨domains, hours⟩

theorem numberedNodup (hex : HexWord ipHex) {issued : List Issued} (numbered : Numbered ipHex issued)
    (few : ∀ domain hour, issuedIn issued domain hour ≤ UInt32.size) : (issued.map Issued.id).Nodup := by
  induction numbered with
  | nil => exact List.nodup_nil
  | @cons a before earlier id ih =>
    have grows := issuedInCons a before
    refine List.nodup_cons.mpr ⟨fun again => ?_, ih fun domain hour => ?_⟩
    · obtain ⟨b, given, same⟩ := List.mem_map.mp again
      obtain ⟨n, below, written⟩ := numberOf earlier given
      rw [id, written] at same
      obtain ⟨domains, hours, numbers⟩ := formatInjective hex same
      rw [domains, hours] at below
      -- Both numbers are below the point where a counter comes round.
      have bound := few a.domain a.hour
      rw [grows, if_pos ⟨rfl, rfl⟩] at bound
      have values := congrArg UInt32.toNat numbers
      simp only [UInt32.toNat_ofNat'] at values
      have size : UInt32.size = 4294967296 := rfl
      omega
    · have bound := few domain hour
      rw [grows] at bound
      omega

/-- The counters at work: the domains of the calls that found no counter and have yet to come back, and
every id given out so far, the newest first. -/
structure Desk where
  ids : MessageIds
  waiting : List String := []
  issued : List Issued := []
  deriving DecidableEq, Repr

inductive Call
  | next (domain : String)
  | miss (domain : String)
  | comeBack (domain : String)
  | rollover (hour : Int64)

namespace Desk

def give (d : Desk) (domain : String) (drawn : String × MessageIds) : Desk :=
  { d with ids := drawn.2, issued := ⟨domain, d.ids.hour, drawn.1⟩ :: d.issued }

def step? (d : Desk) : Call → Option Desk
  | .next domain => some (d.give domain (d.ids.next domain))
  | .miss domain =>
    if d.ids.nextKnown? domain = none then some { d with waiting := domain :: d.waiting } else none
  | .comeBack domain =>
    if domain ∈ d.waiting then
      some { d.give domain (d.ids.nextNew domain) with waiting := d.waiting.erase domain }
    else none
  | .rollover hour => some { d with ids := (d.ids.rollover hour).2 }

def run? (d : Desk) : List Call → Option Desk
  | [] => some d
  | c :: cs => (d.step? c).bind (run? · cs)

structure Counting (home ipHex : String) (d : Desk) : Prop where
  prepared : Prepared home ipHex d.ids
  away : ∀ domain ∈ d.waiting, domain ≠ home
  counts : ∀ domain, d.ids.counter domain = .ofNat (issuedIn d.issued domain d.ids.hour)
  numbered : Numbered ipHex d.issued
  past : ∀ a ∈ d.issued, a.hour ≤ d.ids.hour

variable {d e : Desk}

theorem runAppend {f : Desk} {cs more : List Call} (run : d.run? cs = some e) (onward : e.run? more = some f) :
    d.run? (cs ++ more) = some f := by
  induction cs generalizing d with
  | nil =>
    cases run
    exact onward
  | cons c cs ih =>
    obtain ⟨g, taken, rest⟩ := Option.bind_eq_some_iff.mp run
    rw [List.cons_append, run?, taken]
    exact ih rest

theorem countingStart (hour : Int64) : Counting home ipHex { ids := .start home ipHex hour } where
  prepared := ⟨rfl, rfl, rfl⟩
  away _ member := nomatch member
  counts _ := counterStart hour
  numbered := .nil
  past _ member := nomatch member

theorem countingGive {domain : String} {drawn : String × MessageIds} (counting : Counting home ipHex d)
    (prepared : Prepared home ipHex drawn.2) (draw : Drawn d.ids domain drawn.1 drawn.2) :
    Counting home ipHex (d.give domain drawn) where
  prepared := prepared
  away := counting.away
  counts other := by
    dsimp only [give]
    rw [draw.counter, draw.hour, counting.counts, counting.counts, issuedInCons]
    by_cases own : other = domain
    · simp [own, UInt32.ofNat_add]
    · simp [own, Ne.symm own]
  numbered := by
    refine .cons counting.numbered ?_
    rw [draw.id, counting.counts, counting.prepared.sameIp, UInt32.ofNat_add]
    rfl
  past a given := by
    dsimp only [give]
    rw [draw.hour]
    rcases List.mem_cons.mp given with rfl | inside
    · exact Int64.le_refl _
    · exact counting.past a inside

theorem countingRollover (counting : Counting home ipHex d) (hour : Int64) :
    Counting home ipHex { d with ids := (d.ids.rollover hour).2 } := by
  cases turned : (d.ids.rollover hour).1 with
  | false =>
    rw [rolloverRefused turned]
    exact counting
  | true =>
    obtain ⟨later, present, restarted⟩ := rolloverLater turned
    refine ⟨preparedRollover counting.prepared hour, counting.away, fun domain => ?_, counting.numbered,
      fun a given => ?_⟩
    · dsimp only
      have fresh : issuedIn d.issued domain hour = 0 := by
        refine List.countP_eq_zero.mpr fun a given => ?_
        have before := Int64.lt_of_le_of_lt (counting.past a given) later
        simpa using fun _ => Int64.ne_of_lt before
      rw [restarted, present, fresh]
      rfl
    · dsimp only
      rw [present]
      exact Int64.le_of_lt (Int64.lt_of_le_of_lt (counting.past a given) later)

theorem countingStep {c : Call} (counting : Counting home ipHex d) (taken : d.step? c = some e) :
    Counting home ipHex e := by
  cases c with
  | next domain =>
    cases taken
    exact countingGive counting (preparedNext counting.prepared domain) (drawnNext counting.prepared domain)
  | miss domain =>
    simp only [step?] at taken
    split at taken <;> cases taken
    rename_i missed
    refine { counting with away := fun other member => ?_ }
    rcases List.mem_cons.mp member with rfl | inside
    · rw [← counting.prepared.sameHome]
      exact missAway missed
    · exact counting.away other inside
  | comeBack domain =>
    simp only [step?] at taken
    split at taken <;> cases taken
    rename_i waits
    have away : domain ≠ d.ids.home := counting.prepared.sameHome ▸ counting.away domain waits
    exact { countingGive counting (preparedNew counting.prepared domain) (drawnNew away) with
      away := fun other member => counting.away other (List.mem_of_mem_erase member) }
  | rollover hour =>
    cases taken
    exact countingRollover counting hour

theorem countingRun {cs : List Call} (counting : Counting home ipHex d) (run : d.run? cs = some e) :
    Counting home ipHex e := by
  induction cs generalizing d with
  | nil =>
    cases run
    exact counting
  | cons c cs ih =>
    obtain ⟨f, taken, rest⟩ := Option.bind_eq_some_iff.mp run
    exact ih (countingStep counting taken) rest

def Later (d e : Desk) : Prop :=
  d.ids.hour ≤ e.ids.hour ∧ ∃ newer, e.issued = newer ++ d.issued ∧ ∀ a ∈ newer, d.ids.hour ≤ a.hour

theorem laterStep {f : Desk} {c : Call} (later : Later d e) (counting : Counting home ipHex e)
    (taken : e.step? c = some f) : Later d f := by
  obtain ⟨hours, newer, more, present⟩ := later
  have given : ∀ domain drawn, Drawn e.ids domain drawn.1 drawn.2 → Later d (e.give domain drawn) := by
    intro domain drawn draw
    refine ⟨draw.hour ▸ hours, ⟨domain, e.ids.hour, drawn.1⟩ :: newer, by simp [give, more], ?_⟩
    exact List.forall_mem_cons.mpr ⟨hours, present⟩
  cases c with
  | next domain =>
    cases taken
    exact given domain _ (drawnNext counting.prepared domain)
  | miss domain =>
    simp only [step?] at taken
    split at taken <;> cases taken
    exact ⟨hours, newer, more, present⟩
  | comeBack domain =>
    simp only [step?] at taken
    split at taken <;> cases taken
    rename_i waits
    exact given domain _ (drawnNew (counting.prepared.sameHome ▸ counting.away domain waits))
  | rollover hour =>
    cases taken
    refine ⟨?_, newer, more, present⟩
    dsimp only
    cases turned : (e.ids.rollover hour).1 with
    | false =>
      rw [rolloverRefused turned]
      exact hours
    | true =>
      obtain ⟨after, moved, -⟩ := rolloverLater turned
      rw [moved]
      exact Int64.le_of_lt (Int64.lt_of_le_of_lt hours after)

theorem laterRun {f : Desk} {cs : List Call} (later : Later d e) (counting : Counting home ipHex e)
    (run : e.run? cs = some f) : Later d f := by
  induction cs generalizing e with
  | nil =>
    cases run
    exact later
  | cons c cs ih =>
    obtain ⟨g, taken, rest⟩ := Option.bind_eq_some_iff.mp run
    exact ih (laterStep later counting taken) (countingStep counting taken) rest

/-- All ids of a run differ as long as no domain is given more than 2^32 of them in one hour. Two domains
never share an id, nor do the two sides of a rollover, however many are given. -/
theorem idsNeverRepeat (hex : HexWord ipHex) {hour : Int64} {calls : List Call}
    (run : run? { ids := .start home ipHex hour } calls = some d) :
    ((∀ domain hour, issuedIn d.issued domain hour ≤ UInt32.size) → (d.issued.map Issued.id).Nodup) ∧
    (∀ a ∈ d.issued, ∀ b ∈ d.issued, a.id = b.id → a.domain = b.domain ∧ a.hour = b.hour) ∧
    ∀ later more e, (d.ids.rollover later).1 = true → d.run? (.rollover later :: more) = some e →
      ∃ newer, e.issued = newer ++ d.issued ∧ ∀ a ∈ newer, ∀ b ∈ d.issued, a.id ≠ b.id := by
  have counting : Counting home ipHex d := countingRun (countingStart hour) run
  refine ⟨numberedNodup hex counting.numbered, fun a one b two => numberedApart hex counting.numbered one two, ?_⟩
  intro later more e turned rest
  have moved := countingRollover counting later
  obtain ⟨above, present, -⟩ := rolloverLater turned
  obtain ⟨-, newer, all, fresh⟩ :=
    laterRun ⟨Int64.le_refl _, [], rfl, fun _ member => nomatch member⟩ moved rest
  refine ⟨newer, all, fun a new b old same => ?_⟩
  have numbered := (countingRun moved rest).numbered
  rw [all] at numbered
  have hours := (numberedApart hex numbered (List.mem_append_left _ new) (List.mem_append_right _ old) same).2
  have one := fresh a new
  dsimp only at one
  rw [present, hours] at one
  exact absurd (Int64.lt_of_le_of_lt (counting.past b old) above) (Int64.not_lt.mpr one)

/-- A call is caught between its two halves by a rollover out of a negative hour, and one domain is
spelled like the first id. -/
theorem splitCallsApart :
    let calls : List Call := [.next "a", .miss "b", .next "home", .rollover 5, .comeBack "b",
      .next "a-7f000001--1-1", .next "home"]
    let issued : List Issued := [⟨"home", 5, "home-7f000001-5-1"⟩,
      ⟨"a-7f000001--1-1", 5, "a-7f000001--1-1-7f000001-5-1"⟩, ⟨"b", 5, "b-7f000001-5-1"⟩,
      ⟨"home", -1, "home-7f000001--1-1"⟩, ⟨"a", -1, "a-7f000001--1-1"⟩]
    HexWord "7f000001" ∧ (∀ domain hour, issuedIn issued domain hour ≤ UInt32.size) ∧
      (∃ d, run? { ids := .start "home" "7f000001" (-1) } calls = some d ∧ d.issued = issued) ∧
      (issued.map Issued.id).Nodup := by
  intro calls issued
  have hex : HexWord "7f000001" := ⟨rfl, List.all_eq_true.mp rfl⟩
  have few : ∀ domain hour, issuedIn issued domain hour ≤ UInt32.size :=
    fun domain hour => Nat.le_trans List.countP_le_length (by decide)
  let ids : MessageIds := {
    home := "home", ipHex := "7f000001", hour := 5, homeFront := "home-7f000001-5-", homeCount := 1
    others := [("a", 0), ("b", 1), ("a-7f000001--1-1", 1)] }
  have run : run? { ids := .start "home" "7f000001" (-1) } calls = some ⟨ids, [], issued⟩ := by
    decide +kernel
  exact ⟨hex, few, ⟨_, run, rfl⟩, (idsNeverRepeat hex run).1 few⟩

end Desk

end TraceRelay.MessageIds
