import Mathlib.Algebra.Group.Nat.Defs
import TraceRelay.Proofs.MessageId.Counters
/-! The home domain goes a way of its own through the counters, and nothing that can be asked tells it from
the others. What a query is answered follows from the queries before it alone: from the greatest hour
among them and from how many ids the domain was given since the hour last grew. -/
namespace TraceRelay.MessageIds

inductive Query
  | next (domain : String)
  | rollover (hour : Int64)
  | now
  deriving DecidableEq, Repr

inductive Reply
  | id (id : String)
  | turned (later : Bool)
  | hour (hour : Int64)
  deriving DecidableEq, Repr

def query (ids : MessageIds) : Query → Reply × MessageIds
  | .next domain => (.id (ids.next domain).1, (ids.next domain).2)
  | .rollover hour => (.turned (ids.rollover hour).1, (ids.rollover hour).2)
  | .now => (.hour ids.hour, ids)

def replies (ids : MessageIds) : List Query → List Reply
  | [] => []
  | q :: qs => (ids.query q).1 :: (ids.query q).2.replies qs

/-! A past has its newest query first. -/

def Query.hour? : Query → Option Int64
  | .rollover hour => some hour
  | _ => none

def peak (start : Int64) (past : List Query) : Int64 := (past.filterMap Query.hour?).foldr max start

def raises (start : Int64) (past : List Query) (q : Query) : Bool :=
  q.hour?.any fun hour => peak start past < hour

/-- The queries since the hour last grew. -/
def recent (start : Int64) : List Query → List Query
  | [] => []
  | q :: past => if raises start past q then [] else q :: recent start past

def expected (ipHex : String) (start : Int64) (past : List Query) : Query → Reply
  | .next domain =>
    let given := (recent start past).count (.next domain)
    .id (domain ++ "-" ++ ipHex ++ "-" ++ Decimal.int (peak start past).toInt ++ "-" ++
      Decimal.nat ((given + 1) % 2 ^ 32))
  | .rollover hour => .turned (peak start past < hour)
  | .now => .hour (peak start past)

def reference (ipHex : String) (start : Int64) : List Query → List Query → List Reply
  | _, [] => []
  | past, q :: qs => expected ipHex start past q :: reference ipHex start (q :: past) qs

variable {home ipHex : String} {start : Int64} {ids : MessageIds} {past : List Query}

structure Follows (start : Int64) (past : List Query) (ids : MessageIds) : Prop where
  hour : ids.hour = peak start past
  counter : ∀ domain, ids.counter domain = .ofNat ((recent start past).count (.next domain))

theorem followsStart : Follows start [] (.start home ipHex start) := ⟨rfl, fun _ => counterStart start⟩

theorem rolloverTurned (ids : MessageIds) (hour : Int64) : (ids.rollover hour).1 = decide (ids.hour < hour) := by
  unfold rollover
  split
  · exact (decide_eq_false (Int64.not_lt.mpr ‹_›)).symm
  · exact (decide_eq_true (Int64.not_le.mp ‹_›)).symm

theorem expectedNext (follows : Follows start past ids) (domain : String) :
    expected ipHex start past (.next domain) =
      .id (format domain ipHex ids.hour (ids.counter domain + 1)) := by
  have number : (ids.counter domain + 1).toNat =
      ((recent start past).count (.next domain) + 1) % 2 ^ 32 := by
    rw [follows.counter, UInt32.toNat_add, UInt32.toNat_ofNat']
    simp
  simp only [expected, format, front, number, follows.hour]

/-- A query that does not raise the hour joins the recent ones. -/
theorem recentGrows {q : Query} (level : raises start past q = false) :
    recent start (q :: past) = q :: recent start past := by
  rw [recent, level]
  rfl

theorem followsNext (follows : Follows start past ids) {domain id : String} {after : MessageIds}
    (drawn : Drawn ids domain id after) : Follows start (.next domain :: past) after := by
  have same : peak start (.next domain :: past) = peak start past := rfl
  refine ⟨by rw [drawn.hour, follows.hour, same], fun other => ?_⟩
  rw [drawn.counter, recentGrows rfl, List.count_cons]
  by_cases same : other = domain
  · subst same
    rw [if_pos rfl, follows.counter, beq_self_eq_true, if_pos rfl, UInt32.ofNat_add]
    rfl
  · have apart : (Query.next domain == Query.next other) = false := by
      simpa using fun equal => same equal.symm
    rw [if_neg same, follows.counter, apart]
    rfl

theorem followsRollover (follows : Follows start past ids) (hour : Int64) :
    Follows start (.rollover hour :: past) (ids.rollover hour).2 := by
  have turns := rolloverTurned ids hour
  have raised : raises start past (.rollover hour) = (ids.rollover hour).1 := by
    rw [turns, follows.hour]
    rfl
  have top : peak start (.rollover hour :: past) = max hour ids.hour := by rw [follows.hour]; rfl
  cases turned : (ids.rollover hour).1 with
  | false =>
    rw [turned] at raised turns
    have past : hour ≤ ids.hour := Int64.not_lt.mp (of_decide_eq_false turns.symm)
    rw [rolloverRefused turned]
    refine ⟨?_, fun domain => ?_⟩
    · rw [top]
      exact (if_pos past).symm
    · rw [recentGrows raised, List.count_cons_of_ne (by simp), follows.counter]
  | true =>
    rw [turned] at raised
    obtain ⟨later, moved, restarted⟩ := rolloverLater turned
    refine ⟨?_, fun domain => ?_⟩
    · rw [top, moved]
      exact (if_neg (Int64.not_le.mpr later)).symm
    · rw [restarted, recent, raised]
      rfl

theorem followsQuery (prepared : Prepared home ipHex ids) (follows : Follows start past ids) (q : Query) :
    (ids.query q).1 = expected ipHex start past q ∧ Prepared home ipHex (ids.query q).2 ∧
      Follows start (q :: past) (ids.query q).2 := by
  cases q with
  | next domain =>
    have drawn := drawnNext prepared domain
    refine ⟨?_, preparedNext prepared domain, followsNext follows drawn⟩
    rw [expectedNext follows, ← prepared.sameIp, ← drawn.id]
    rfl
  | rollover hour =>
    refine ⟨?_, preparedRollover prepared hour, followsRollover follows hour⟩
    rw [expected, ← follows.hour, ← rolloverTurned]
    rfl
  | now => exact ⟨congrArg Reply.hour follows.hour, prepared, ⟨follows.hour, follows.counter⟩⟩

theorem followsReplies (prepared : Prepared home ipHex ids) (follows : Follows start past ids)
    (qs : List Query) : ids.replies qs = reference ipHex start past qs := by
  induction qs generalizing ids past with
  | nil => rfl
  | cons q qs ih =>
    obtain ⟨same, still, onward⟩ := followsQuery prepared follows q
    rw [replies, reference, same, ih still onward]

theorem homeUnobservable (ipHex : String) (start : Int64) (qs : List Query) :
    (∀ home, (MessageIds.start home ipHex start).replies qs = reference ipHex start [] qs) ∧
    (∀ home other, (MessageIds.start home ipHex start).replies qs =
      (MessageIds.start other ipHex start).replies qs) ∧
    ∀ ids hour, (MessageIds.rollover ids hour).1 = false ↔
      hour ≤ ids.hour ∧ (ids.rollover hour).2 = ids := by
  have same : ∀ home, (MessageIds.start home ipHex start).replies qs = reference ipHex start [] qs := by
    intro home
    have prepared : Prepared home ipHex (.start home ipHex start) := ⟨rfl, rfl, rfl⟩
    exact followsReplies prepared followsStart qs
  refine ⟨same, fun home other => (same home).trans (same other).symm, fun ids hour => ⟨fun refused => ?_, ?_⟩⟩
  · have turns := rolloverTurned ids hour
    rw [refused] at turns
    exact ⟨Int64.not_lt.mp (of_decide_eq_false turns.symm), rolloverRefused refused⟩
  · rintro ⟨past, -⟩
    rw [rolloverTurned]
    exact decide_eq_false (Int64.not_lt.mpr past)

/-- The other domain is first seen before the hour grows, the home domain after that. -/
example : (MessageIds.start "home" "7f000001" 10).replies
    [.next "other", .rollover 10, .next "other", .rollover 12, .rollover 11, .next "home", .next "other", .now] =
    [.id "other-7f000001-10-1", .turned false, .id "other-7f000001-10-2", .turned true, .turned false,
      .id "home-7f000001-12-1", .id "other-7f000001-12-1", .hour 12] := by decide +kernel

end TraceRelay.MessageIds
