import TraceRelay.Proofs.Outbound.Steps
/-! How long a connection lasts when every dial succeeds at once. The flushes of a worker fall into runs, one
for each connection. A run goes on while its connection is young, and the first flush after that starts the
next one. A flush with nothing to write touches no connection. -/
namespace TraceRelay.Outbound

namespace Worker

variable {w v : Worker} {now : Nat} {e : Event}

/-- The batch that a step flushes. -/
def flushing (w : Worker) : Event → Option (List Tree)
  | .received t | .drained t =>
    if batchCapacity ≤ w.batch.length + 1 then some (w.batch ++ [t]) else none
  | .tick | .nothingQueued => some w.batch
  | .cancelled shutdown => if w.phase = .receiving ∧ !shutdown then some w.batch else none
  | .closed shutdown => if shutdown then none else some w.batch
  | .refused => if w.phase = .drainDialing then some w.batch else none
  | .dialed | .waited => none

/-- A dial is answered in the instant it is made. -/
def answered (w : Worker) (now : Nat) : Worker := (w.step? now .dialed).getD w

/-- The phase in which a flush dials and the one in which it goes on. -/
inductive Errand : Phase → Phase → Prop
  | receive (delay : Nat) : Errand (.dialing delay) .receiving
  | drain : Errand .drainDialing .draining
  | leave : Errand .lastDialing .finished

theorem errandStill {dial done : Phase} (errand : Errand dial done) : dials done = false := by
  cases errand <;> rfl

theorem answeredStill (still : dials w.phase = false) : w.answered now = w := by
  unfold answered
  cases step : w.step? now .dialed with
  | none => rfl
  | some v =>
    cases stepStepped step with
    | dialed phase | drainDialed phase | lastDialed phase => rw [phase] at still; cases still

theorem answeredDial {dial done : Phase} (errand : Errand dial done) (phase : w.phase = dial) :
    w.answered now = { (w.connect now).write with phase := done } := by
  cases errand <;> simp [answered, step?, phase]

/-- What a flush with something to write does to the connections there are, once its dial is answered. -/
inductive Visited (link : Option Nat) (connections : List (List Tree)) (now : Nat) (batch : List Tree)
    (v : Worker) : Prop
  | reused {since c cs} (linked : link = some since) (young : now < since + connectionMaxAge)
      (before : connections = c :: cs) (established : v.established = some since)
      (after : v.connections = (c ++ batch) :: cs)
  | replaced (aged : ∀ since, link = some since → since + connectionMaxAge ≤ now)
      (established : v.established = some now) (after : v.connections = batch :: connections)

theorem freshIff : w.fresh now = true ↔
    ∃ since, w.established = some since ∧ now < since + connectionMaxAge := by
  cases link : w.established with
  | none => simp [fresh, link]
  | some since =>
    have positive : 0 < connectionMaxAge := by decide
    simp only [fresh, link, decide_eq_true_eq, Option.some.injEq, exists_eq_left']
    omega

theorem flushVisited {dial done : Phase} (linked : w.established ≠ none → w.connections ≠ [])
    (errand : Errand dial done) (filled : w.batch ≠ []) :
    Visited w.established w.connections now w.batch ((w.flush now dial done).answered now) := by
  have flushed := flushFlushed w now dial done
  generalize w.flush now dial done = v at flushed
  cases flushed with
  | empty batch => exact absurd batch filled
  | written _ fresh =>
    rw [answeredStill (errandStill errand)]
    obtain ⟨since, link, young⟩ := freshIff.mp fresh
    obtain ⟨c, cs, before⟩ := List.exists_cons_of_ne_nil (freshLinked linked fresh)
    exact .reused link young before (by simp [write, before, link]) (by simp [write, before])
  | dials _ stale =>
    rw [answeredDial errand rfl]
    refine .replaced (fun since link => Nat.le_of_not_lt fun young => ?_) rfl rfl
    rw [freshIff.mpr ⟨since, link, young⟩] at stale
    cases stale

/-- A worker with that batch and with the connections of `w`. -/
structure Alike (w u : Worker) (batch : List Tree) : Prop where
  batch : u.batch = batch
  established : u.established = w.established
  connections : u.connections = w.connections

theorem addFlushes {t : Tree} {batch : List Tree} {dial done : Phase}
    (flushes : (if batchCapacity ≤ w.batch.length + 1 then some (w.batch ++ [t]) else none) = some batch) :
    ∃ u, Alike w u batch ∧ w.add t now dial done = u.flush now dial done := by
  obtain ⟨full, ⟨⟩⟩ := Option.ite_none_right_eq_some.mp flushes
  refine ⟨{ w with batch := w.batch ++ [t] }, ⟨rfl, rfl, rfl⟩, ?_⟩
  simp [add, full]

theorem addGathers {t : Tree} {dial done : Phase}
    (keeps : (if batchCapacity ≤ w.batch.length + 1 then some (w.batch ++ [t]) else none) = none) :
    w.add t now dial done = { w with batch := w.batch ++ [t], phase := done } := by
  have few : ¬ batchCapacity ≤ w.batch.length + 1 := by simpa using keeps
  simp [add, few]

theorem stepFlushes {batch : List Tree} (step : w.step? now e = some v) (flushes : w.flushing e = some batch) :
    ∃ u dial done, Errand dial done ∧ Alike w u batch ∧ v = u.flush now dial done := by
  have whole : Alike w w w.batch := ⟨rfl, rfl, rfl⟩
  cases stepStepped step with
  | received =>
    obtain ⟨u, alike, same⟩ := addFlushes flushes
    exact ⟨u, _, _, .receive _, alike, same⟩
  | drained =>
    obtain ⟨u, alike, same⟩ := addFlushes flushes
    exact ⟨u, _, _, .drain, alike, same⟩
  | tick =>
    cases flushes
    exact ⟨w, _, _, .receive _, whole, rfl⟩
  | nothingQueued =>
    cases flushes
    exact ⟨w, _, _, .leave, whole, rfl⟩
  | @cancelled shutdown phase =>
    cases shutdown with
    | true => simp [flushing] at flushes
    | false =>
      cases (if_pos ⟨phase, rfl⟩).symm.trans flushes
      exact ⟨{ w with stopSeen := true }, _, _, .leave, ⟨rfl, rfl, rfl⟩, rfl⟩
  | @closed shutdown =>
    cases shutdown with
    | true => cases flushes
    | false =>
      cases flushes
      exact ⟨w, _, _, .leave, whole, rfl⟩
  | drainRefused phase =>
    cases (if_pos phase).symm.trans flushes
    exact ⟨w, _, _, .leave, whole, rfl⟩
  | interrupted phase | refused phase | lastRefused phase => simp [flushing, phase] at flushes
  | dialed | drainDialed | lastDialed | waited => cases flushes

theorem stepKeeps (step : w.step? now e = some v) (still : dials w.phase = false)
    (keeps : w.flushing e = none) : Alike w v v.batch ∧ dials v.phase = false := by
  cases stepStepped step with
  | received | drained =>
    rw [addGathers keeps]
    exact ⟨⟨rfl, rfl, rfl⟩, rfl⟩
  | tick | nothingQueued => cases keeps
  | @cancelled shutdown phase =>
    cases shutdown with
    | true => exact ⟨⟨rfl, rfl, rfl⟩, rfl⟩
    | false => simp [flushing, phase] at keeps
  | @closed shutdown =>
    cases shutdown with
    | true => exact ⟨⟨rfl, rfl, rfl⟩, rfl⟩
    | false => cases keeps
  | interrupted phase | dialed phase | drainDialed phase | lastDialed phase | refused phase
  | drainRefused phase | lastRefused phase | waited phase =>
    rw [phase] at still
    cases still

theorem flushAnswered {dial done : Phase} (errand : Errand dial done) (w : Worker) (now : Nat) :
    ((w.flush now dial done).answered now).phase = done := by
  have flushed := flushFlushed w now dial done
  generalize w.flush now dial done = v at flushed
  cases flushed with
  | empty | written => rw [answeredStill (errandStill errand)]
  | dials => rw [answeredDial errand rfl]

theorem stepAnswered (step : w.step? now e = some v) (still : dials w.phase = false) :
    dials (v.answered now).phase = false := by
  cases flushes : w.flushing e with
  | none =>
    obtain ⟨-, still⟩ := stepKeeps step still flushes
    rw [answeredStill still]
    exact still
  | some batch =>
    obtain ⟨u, dial, done, errand, -, rfl⟩ := stepFlushes step flushes
    rw [flushAnswered errand]
    exact errandStill errand

theorem soundAnswered (sound : Sound w) : Sound (w.answered now) := by
  unfold answered
  cases step : w.step? now .dialed with
  | none => exact sound
  | some v => exact soundStep sound step

theorem stepVisited {batch : List Tree} (sound : Sound w) (step : w.step? now e = some v)
    (flushes : w.flushing e = some batch) (filled : batch ≠ []) :
    Visited w.established w.connections now batch (v.answered now) := by
  obtain ⟨u, dial, done, errand, ⟨rfl, established, connections⟩, rfl⟩ := stepFlushes step flushes
  rw [← established, ← connections]
  exact flushVisited (established ▸ connections ▸ sound.linked) errand filled

theorem stepIdle (step : w.step? now e = some v) (flushes : w.flushing e = some []) :
    dials v.phase = false ∧ Alike w v [] := by
  obtain ⟨u, dial, done, errand, alike, rfl⟩ := stepFlushes step flushes
  rw [flush, alike.batch, if_pos List.isEmpty_nil]
  exact ⟨errandStill errand, rfl, alike.established, alike.connections⟩

end Worker

open Worker (Sound Visited Alike dials)

structure Flush where
  time : Nat
  batch : List Tree

/-- A worker from its start on, with the flushes it made. Every dial is answered in the instant it is made,
and nothing is asked of the clock. -/
inductive Prompt : List Flush → Worker → Prop
  | start : Prompt [] {}
  | step {log w n e v} (before : Prompt log w) (step : w.step? n e = some v) :
      Prompt (log ++ ((w.flushing e).map (Flush.mk n)).toList) (v.answered n)

/-- The flushes over one connection, which was made for the first of them. -/
structure Lifetime where
  first : Flush
  later : List Flush := []

namespace Lifetime

def flushes (l : Lifetime) : List Flush := l.first :: l.later

def carried (l : Lifetime) : List Tree := l.flushes.flatMap Flush.batch

end Lifetime

/-- The flushes that had something to write, as runs over one connection each, the newest first. -/
structure Lived (log : List Flush) (w : Worker) (lives : List Lifetime) : Prop where
  flushes : lives.reverse.flatMap Lifetime.flushes = log.filter fun f => !f.batch.isEmpty
  carried : w.connections = lives.map Lifetime.carried
  since : w.established = lives.head?.map (·.first.time)
  young : ∀ l ∈ lives, ∀ f ∈ l.later, f.time < l.first.time + connectionMaxAge
  aged : lives.Pairwise fun newer older => older.first.time + connectionMaxAge ≤ newer.first.time

variable {log : List Flush} {w v : Worker} {now : Nat} {lives : List Lifetime}

theorem promptSound (prompt : Prompt log w) : Sound w ∧ dials w.phase = false := by
  induction prompt with
  | start => exact ⟨Worker.soundStart, rfl⟩
  | step _ step ih =>
    exact ⟨Worker.soundAnswered (Worker.soundStep ih.1 step), Worker.stepAnswered step ih.2⟩

theorem Lived.kept {batch : List Tree} (lived : Lived log w lives) (alike : Alike w v batch) :
    Lived log v lives :=
  { lived with
    carried := alike.connections.trans lived.carried
    since := alike.established.trans lived.since }

theorem Lived.idle (lived : Lived log w lives) (now : Nat) : Lived (log ++ [⟨now, []⟩]) w lives :=
  { lived with flushes := by rw [lived.flushes, List.filter_append]; simp }

theorem writtenLogged {f : Flush} (filled : f.batch ≠ []) :
    (log ++ [f]).filter (fun f => !f.batch.isEmpty) = log.filter (fun f => !f.batch.isEmpty) ++ [f] := by
  simp [List.filter_append, filled]

/-- One more flush over the newest connection. -/
theorem Lived.longer {f : Flush} {l : Lifetime} {ls : List Lifetime} (lived : Lived log w (l :: ls))
    (filled : f.batch ≠ []) (recent : f.time < l.first.time + connectionMaxAge)
    (established : v.established = w.established)
    (connections : v.connections = (l.carried ++ f.batch) :: ls.map Lifetime.carried) :
    Lived (log ++ [f]) v ({ l with later := l.later ++ [f] } :: ls) where
  flushes := by
    rw [writtenLogged filled, ← lived.flushes]
    simp [Lifetime.flushes]
  carried := by
    rw [connections]
    simp [Lifetime.carried, Lifetime.flushes]
  since := established.trans lived.since
  young := by
    intro one member g later
    rcases List.mem_cons.mp member with rfl | member
    · rcases List.mem_append.mp later with earlier | last
      · exact lived.young l List.mem_cons_self g earlier
      · rwa [List.mem_singleton.mp last]
    · exact lived.young one (List.mem_cons_of_mem l member) g later
  aged := List.pairwise_cons.mpr (List.pairwise_cons.mp lived.aged)

/-- The first flush over a new connection. -/
theorem Lived.renewed {f : Flush} (lived : Lived log w lives) (filled : f.batch ≠ [])
    (aged : ∀ since, w.established = some since → since + connectionMaxAge ≤ f.time)
    (established : v.established = some f.time) (connections : v.connections = f.batch :: w.connections) :
    Lived (log ++ [f]) v ({ first := f } :: lives) where
  flushes := by
    rw [writtenLogged filled, ← lived.flushes]
    simp [Lifetime.flushes]
  carried := by
    rw [connections, lived.carried]
    simp [Lifetime.carried, Lifetime.flushes]
  since := established
  young := by
    intro one member g later
    rcases List.mem_cons.mp member with rfl | member
    · cases later
    · exact lived.young one member g later
  aged := by
    refine List.pairwise_cons.mpr ⟨fun older member => ?_, lived.aged⟩
    cases lives with
    | nil => cases member
    | cons newest ls =>
      have last := aged newest.first.time lived.since
      rcases List.mem_cons.mp member with rfl | member
      · exact last
      · calc older.first.time + connectionMaxAge
          _ ≤ newest.first.time := (List.pairwise_cons.mp lived.aged).1 older member
          _ ≤ newest.first.time + connectionMaxAge := Nat.le_add_right _ _
          _ ≤ f.time := last

theorem Lived.visited {batch : List Tree} (lived : Lived log w lives) (filled : batch ≠ [])
    (visited : Visited w.established w.connections now batch v) :
    ∃ lives, Lived (log ++ [⟨now, batch⟩]) v lives := by
  cases visited with
  | reused linked recent before established after =>
    cases lives with
    | nil => cases before.symm.trans lived.carried
    | cons l ls =>
      cases linked.symm.trans lived.since
      obtain ⟨rfl, rfl⟩ := List.cons.inj (before.symm.trans lived.carried)
      exact ⟨_, lived.longer filled recent (established.trans linked.symm) after⟩
  | replaced stale established after => exact ⟨_, lived.renewed filled stale established after⟩

theorem promptLived (prompt : Prompt log w) : ∃ lives, Lived log w lives := by
  induction prompt with
  | start => exact ⟨[], rfl, rfl, rfl, fun _ => nofun, .nil⟩
  | @step log w now e v before step ih =>
    obtain ⟨lives, lived⟩ := ih
    obtain ⟨sound, still⟩ := promptSound before
    cases flushes : w.flushing e with
    | none =>
      obtain ⟨alike, still⟩ := Worker.stepKeeps step still flushes
      rw [Worker.answeredStill still]
      exact ⟨lives, by simpa using lived.kept alike⟩
    | some batch =>
      by_cases filled : batch = []
      · subst filled
        obtain ⟨still, alike⟩ := Worker.stepIdle step flushes
        rw [Worker.answeredStill still]
        exact ⟨lives, (lived.kept alike).idle now⟩
      · exact lived.visited filled (Worker.stepVisited sound step flushes filled)

/-- What every flush does to the connections, and what that comes to since the worker's start. -/
structure Renewed (log : List Flush) (w : Worker) : Prop where
  lived : ∃ lives, Lived log w lives
  visited : ∀ now e v batch, w.step? now e = some v → w.flushing e = some batch → batch ≠ [] →
    Visited w.established w.connections now batch (v.answered now)
  kept : ∀ now e v, w.step? now e = some v → w.flushing e = none →
    v.established = w.established ∧ v.connections = w.connections ∧ dials v.phase = false

/-- A flush with nothing to write is the same at any time, whatever happened to the worker before. -/
theorem connectionsRenewed (prompt : Prompt log w) : Renewed log w ∧
    ∀ (u v : Worker) now e, u.step? now e = some v → u.flushing e = some [] →
      v.established = u.established ∧ v.connections = u.connections ∧ dials v.phase = false := by
  obtain ⟨sound, still⟩ := promptSound prompt
  refine ⟨⟨promptLived prompt, fun _ _ _ _ => Worker.stepVisited sound, ?_⟩, ?_⟩
  · intro now e v step keeps
    obtain ⟨alike, next⟩ := Worker.stepKeeps step still keeps
    exact ⟨alike.established, alike.connections, next⟩
  · intro u v now e step flushes
    obtain ⟨next, alike⟩ := Worker.stepIdle step flushes
    exact ⟨alike.established, alike.connections, next⟩

/-- The last instant at which the first connection serves, and the first at which it does not. -/
theorem tenMinutesServed :
    let t : Tree := { domain := "d", id := "1", message := .event ⟨"Sys", "e", "0", "", 1⟩ }
    let log : List Flush := [⟨0, [t]⟩, ⟨599999, [t]⟩, ⟨600000, []⟩, ⟨600000, [t, t]⟩]
    let worker : Worker := { established := some 600000, connections := [[t, t], [t, t]] }
    Prompt log worker ∧ Renewed log worker := by
  intro t log worker
  let first (more : List Tree) (batch : List Tree) : Worker :=
    { batch := batch, established := some 0, connections := [t :: more] }
  have received : Prompt _ { batch := [t] } := .step (n := 0) (e := .received t) .start rfl
  have dialed : Prompt _ (first [] []) := .step (n := 0) (e := .tick) received rfl
  have again : Prompt _ (first [] [t]) := .step (n := 7) (e := .received t) dialed rfl
  have reused : Prompt _ (first [t] []) := .step (n := 599999) (e := .tick) again rfl
  have idle : Prompt _ (first [t] []) := .step (n := 600000) (e := .tick) reused rfl
  have two : Prompt _ (first [t] [t]) := .step (n := 600000) (e := .received t) idle rfl
  have three : Prompt _ (first [t] [t, t]) := .step (n := 600000) (e := .received t) two rfl
  have prompt : Prompt log worker := .step (n := 600000) (e := .tick) three rfl
  exact ⟨prompt, (connectionsRenewed prompt).1⟩

end TraceRelay.Outbound
