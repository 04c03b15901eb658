import Mathlib.Order.Bounds.Defs
import TraceRelay.HourTimer
import TraceRelay.Proofs.MessageId.Uniform
import TraceRelay.Proofs.MessageId.Unique
/-! The clock and the hour of the ids. A sleep is meant to end one millisecond into the next hour, wherever in the
present one it is taken up again. The clock may be read early, late or gone back: the hour of the ids is the greatest
that was ever read, and the counters start again where a reading is above all before it and nowhere else. -/
namespace TraceRelay.HourTimer
open MessageIds (Desk Call issuedIn rolloverLater rolloverRefused rolloverTurned drawnNext)

/-! Sleeping -/

/-- The instant at which a sleep that begins now is meant to end. -/
def target (now : Int64) : Int := now.toInt + untilNextHour now

/-- The first full hour after an instant. -/
def Ahead (instant boundary : Int) : Prop :=
  IsLeast {b : Int | instant < b ∧ millisPerHour.toInt ∣ b} boundary

variable {now later : Int64} {boundary : Int}

theorem aheadSome (instant : Int) : Ahead instant (instant - instant % 3600000 + 3600000) := by
  have period : millisPerHour.toInt = 3600000 := rfl
  refine ⟨⟨by omega, ?_⟩, ?_⟩
  · rw [period]
    omega
  · rintro b ⟨above, k, rfl⟩
    rw [period] at above ⊢
    omega

theorem aheadUnique {instant other : Int} (ahead : Ahead instant boundary) (again : Ahead instant other) :
    boundary = other := Int.le_antisymm (ahead.2 again.1) (again.2 ahead.1)

theorem targetAhead (ahead : Ahead now.toInt boundary) : target now = boundary + 1 := by
  have period : millisPerHour.toInt = 3600000 := rfl
  rw [aheadUnique ahead (aheadSome _), target, untilNextHour, period]
  omega

/-- Between an instant and the next full hour there is none. -/
theorem aheadLater {instant : Int} (ahead : Ahead now.toInt boundary) (since : now.toInt ≤ instant)
    (before : instant < boundary) : Ahead instant boundary :=
  ⟨⟨before, ahead.1.2⟩, fun _ found => ahead.2 ⟨Int.lt_of_le_of_lt since found.1, found.2⟩⟩

theorem hourToInt (since : 0 ≤ now) : (hourAt now).toInt = now.toInt / 3600000 := by
  rw [hourAt, Int64.toInt_div_of_ne_right _ _ (by decide)]
  exact Int.tdiv_eq_ediv_of_nonneg (Int64.le_iff_toInt_le.mp since)

/-- Read in the hour behind the boundary, the clock shows the next hour. -/
theorem hourAhead (since : 0 ≤ now) (ahead : Ahead now.toInt boundary) {reading : Int64}
    (reached : boundary ≤ reading.toInt) (inside : reading.toInt < boundary + millisPerHour.toInt) :
    (hourAt reading).toInt = (hourAt now).toInt + 1 := by
  have period : millisPerHour.toInt = 3600000 := rfl
  have start : 0 ≤ now.toInt := Int64.le_iff_toInt_le.mp since
  have place := aheadUnique ahead (aheadSome _)
  have past : 0 ≤ reading := Int64.le_iff_toInt_le.mpr (by rw [Int64.toInt_zero]; omega)
  rw [hourToInt since, hourToInt past]
  omega

/-! Waking -/

/-- What the counters live through: the timer reads the clock, and ids are asked for, by calls that may be caught between
their two halves. -/
inductive Turn
  | woke (now : Int64)
  | next (domain : String)
  | miss (domain : String)
  | comeBack (domain : String)

def Turn.call : Turn → Call
  | .woke now => .rollover (hourAt now)
  | .next domain => .next domain
  | .miss domain => .miss domain
  | .comeBack domain => .comeBack domain

def Turn.hour? : Turn → Option Int64
  | .woke now => some (hourAt now)
  | _ => none

def hoursRead (turns : List Turn) : List Int64 := turns.filterMap Turn.hour?

/-- The greatest of the hour at the start and those read since. -/
def Newest (start : Int64) (hours : List Int64) (hour : Int64) : Prop := IsGreatest {h | h ∈ start :: hours} hour

variable {home ipHex : String} {start hour : Int64} {hours : List Int64} {ids : MessageIds} {d e : Desk}

theorem newestStart (start : Int64) : Newest start [] start := by
  refine ⟨List.mem_singleton.mpr rfl, fun h member => ?_⟩
  rw [List.mem_singleton.mp member]
  exact Int64.le_refl start

theorem newestBelow (newest : Newest start hours hour) (read : Int64) :
    hour < read ↔ ∀ h ∈ start :: hours, h < read :=
  ⟨fun below _ member => Int64.lt_of_le_of_lt (newest.2 member) below, fun all => all hour newest.1⟩

theorem wakeTurned (newest : Newest start hours ids.hour) (now : Int64) :
    (wake ids now).1 = true ↔ ∀ h ∈ start :: hours, h < hourAt now := by
  rw [← newestBelow newest, wake, rolloverTurned, decide_eq_true_eq]

theorem wakeNewest (newest : Newest start hours ids.hour) (now : Int64) :
    Newest start (hours ++ [hourAt now]) (wake ids now).2.hour := by
  have members : ∀ h, h ∈ start :: (hours ++ [hourAt now]) ↔ h ∈ start :: hours ∨ h = hourAt now := by
    intro h
    rw [← List.cons_append, List.mem_append, List.mem_singleton]
  cases turned : (wake ids now).1 with
  | false =>
    have past := Int64.not_lt.mp (of_decide_eq_false ((rolloverTurned ids (hourAt now)).symm.trans turned))
    rw [wake, rolloverRefused turned]
    refine ⟨(members _).mpr (.inl newest.1), fun h member => ?_⟩
    rcases (members h).mp member with old | rfl
    · exact newest.2 old
    · exact past
  | true =>
    obtain ⟨later, moved, -⟩ := rolloverLater turned
    rw [wake, moved]
    refine ⟨(members _).mpr (.inr rfl), fun h member => ?_⟩
    rcases (members h).mp member with old | rfl
    · exact Int64.le_trans (newest.2 old) (Int64.le_of_lt later)
    · exact Int64.le_refl _

theorem hourStill {t : Turn} (counting : d.Counting home ipHex) (taken : d.step? t.call = some e)
    (unread : t.hour? = none) : e.ids.hour = d.ids.hour := by
  cases t with
  | woke now => cases unread
  | next domain =>
    cases taken
    exact (drawnNext counting.prepared domain).hour
  | miss domain =>
    simp only [Turn.call, Desk.step?] at taken
    split at taken <;> cases taken
    rfl
  | comeBack domain =>
    simp only [Turn.call, Desk.step?] at taken
    split at taken <;> cases taken
    rfl

theorem newestStep {t : Turn} (counting : d.Counting home ipHex) (newest : Newest start hours d.ids.hour)
    (taken : d.step? t.call = some e) : Newest start (hours ++ t.hour?.toList) e.ids.hour := by
  cases read : t.hour? with
  | none =>
    rw [hourStill counting taken read, Option.toList_none, List.append_nil]
    exact newest
  | some hour =>
    cases t <;> cases read
    cases taken
    exact wakeNewest newest _

theorem newestRun {turns : List Turn} (counting : d.Counting home ipHex) (newest : Newest start hours d.ids.hour)
    (ran : d.run? (turns.map Turn.call) = some e) : Newest start (hours ++ hoursRead turns) e.ids.hour := by
  induction turns generalizing d hours with
  | nil =>
    cases ran
    rw [hoursRead, List.filterMap_nil, List.append_nil]
    exact newest
  | cons t turns ih =>
    obtain ⟨f, taken, rest⟩ := Option.bind_eq_some_iff.mp ran
    have onward := ih (Desk.countingStep counting taken) (newestStep counting newest taken) rest
    have split : hoursRead (t :: turns) = t.hour?.toList ++ hoursRead turns := by
      rw [hoursRead, List.filterMap_cons]
      cases t.hour? <;> rfl
    rw [split, ← List.append_assoc]
    exact onward

/-- A sleep ends in the next hour, however often it is begun anew before; and of whatever is read when it ends, each hour
that is new and greater is entered once, while between two of them the counters only count. -/
theorem hoursEnteredOnce (home ipHex : String) (start : Int64) :
    (∀ now, 0 ≤ now → ∃ boundary, Ahead now.toInt boundary ∧ target now = boundary + 1 ∧
      target now / millisPerHour.toInt = (hourAt now).toInt + 1 ∧
      (∀ reading : Int64, boundary ≤ reading.toInt → reading.toInt < boundary + millisPerHour.toInt →
        (hourAt reading).toInt = (hourAt now).toInt + 1) ∧
      ∀ later, now ≤ later → later.toInt < boundary → target later = target now) ∧
    ∀ turns d, Desk.run? { ids := .start home ipHex start } (turns.map Turn.call) = some d →
      Newest start (hoursRead turns) d.ids.hour ∧
      (∀ domain, d.ids.counter domain = .ofNat (issuedIn d.issued domain d.ids.hour)) ∧
      ∀ now, Newest start (hoursRead turns ++ [hourAt now]) (wake d.ids now).2.hour ∧
        ((wake d.ids now).1 = true ↔ ∀ h ∈ start :: hoursRead turns, h < hourAt now) ∧
        ((wake d.ids now).1 = true → ∀ domain, (wake d.ids now).2.counter domain = 0) ∧
        ((wake d.ids now).1 = false → (wake d.ids now).2 = d.ids) := by
  constructor
  · intro now since
    have ahead := aheadSome now.toInt
    refine ⟨_, ahead, targetAhead ahead, ?_, fun reading => hourAhead since ahead, fun later after before => ?_⟩
    · have period : millisPerHour.toInt = 3600000 := rfl
      rw [targetAhead ahead, hourToInt since, period]
      omega
    · rw [targetAhead ahead, targetAhead (aheadLater ahead (Int64.le_iff_toInt_le.mp after) before)]
  · intro turns d ran
    have fresh : Desk.Counting home ipHex { ids := .start home ipHex start } := Desk.countingStart start
    have newest := newestRun fresh (newestStart start) ran
    rw [List.nil_append] at newest
    refine ⟨newest, (Desk.countingRun fresh ran).counts, fun now => ?_⟩
    exact ⟨wakeNewest newest now, wakeTurned newest now, fun turned => (rolloverLater turned).2.2, rolloverRefused⟩

/-- Read too early, then hours too late, then gone back. -/
theorem clockGoneBack :
    let turns : List Turn := [.next "home", .miss "b", .woke 39599999, .next "home", .woke 48000000, .comeBack "b",
      .woke 39700000, .next "home"]
    (∃ d, Desk.run? { ids := .start "home" "7f000001" 10 } (turns.map Turn.call) = some d ∧
      Newest 10 [10, 13, 11] d.ids.hour ∧ d.ids.counter "home" = 1 ∧ (wake d.ids 50399999).2 = d.ids ∧
      Newest 10 [10, 13, 11, 14] (wake d.ids 50400000).2.hour ∧
      ∀ domain, (wake d.ids 50400000).2.counter domain = 0) ∧
    (0 : Int64) ≤ 7199998 ∧ target 7199998 = 7200001 ∧ (hourAt 7200001).toInt = (hourAt 7199998).toInt + 1 ∧
      target 7199999 = target 7199998 := by
  intro turns
  obtain ⟨sleeps, wakes⟩ := hoursEnteredOnce "home" "7f000001" 10
  constructor
  · let ids : MessageIds := {
      home := "home", ipHex := "7f000001", hour := 13, homeFront := "home-7f000001-13-", homeCount := 1
      others := [("b", 1)] }
    let issued : List MessageIds.Issued := [⟨"home", 13, "home-7f000001-13-1"⟩, ⟨"b", 13, "b-7f000001-13-1"⟩,
      ⟨"home", 10, "home-7f000001-10-2"⟩, ⟨"home", 10, "home-7f000001-10-1"⟩]
    have ran : Desk.run? { ids := .start "home" "7f000001" 10 } (turns.map Turn.call) = some ⟨ids, [], issued⟩ := by
      decide +kernel
    have read : hoursRead turns = [10, 13, 11] := by decide +kernel
    obtain ⟨newest, counts, woken⟩ := wakes turns _ ran
    rw [read] at newest woken
    have level := (woken 50399999).2.2.2 (by decide +kernel)
    obtain ⟨next, turned, fresh, -⟩ := woken 50400000
    have latest : ∀ h ∈ [10, 10, 13, 11], h < hourAt 50400000 := by
      simp only [List.forall_mem_cons, List.not_mem_nil, false_implies, implies_true, and_true]
      decide +kernel
    exact ⟨_, ran, newest, counts "home", level, next, fresh (turned.mpr latest)⟩
  · have since : (0 : Int64) ≤ 7199998 := by decide
    obtain ⟨boundary, -, ends, -, shows, again⟩ := sleeps 7199998 since
    have aim : target 7199998 = 7200001 := by decide
    have place : boundary = 7200000 := by omega
    subst place
    exact ⟨since, aim, shows 7200001 (by decide) (by decide), again 7199999 (by decide) (by decide)⟩

end TraceRelay.HourTimer
