import TraceRelay.Outbound.Worker
/-! What a worker can do next, guards included, and what that does to the trees it holds. Whatever the step,
the trees written so far followed by the batch grow by exactly the tree that the step takes. -/
namespace TraceRelay.Outbound.Worker

inductive Flushed (w : Worker) (now : Nat) (dial done : Phase) : Worker → Prop
  | empty (batch : w.batch = []) : Flushed w now dial done { w with phase := done }
  | written (batch : w.batch ≠ []) (fresh : w.fresh now = true) :
      Flushed w now dial done { w.write with phase := done }
  | dials (batch : w.batch ≠ []) (stale : w.fresh now = false) :
      Flushed w now dial done { w with established := none, phase := dial }

theorem flushFlushed (w : Worker) (now : Nat) (dial done : Phase) :
    Flushed w now dial done (w.flush now dial done) := by
  unfold flush
  split
  · exact .empty (List.isEmpty_iff.mp ‹_›)
  · rename_i filled
    have batch : w.batch ≠ [] := fun empty => filled (List.isEmpty_iff.mpr empty)
    split
    · exact .written batch ‹_›
    · exact .dials batch (Bool.not_eq_true _ ▸ ‹_›)

theorem flushTurns (w : Worker) (now : Nat) (dial done : Phase) :
    (w.flush now dial done).phase = dial ∨ (w.flush now dial done).phase = done := by
  have flushed := flushFlushed w now dial done
  generalize w.flush now dial done = v at flushed
  cases flushed with
  | empty | written => exact .inr rfl
  | dials => exact .inl rfl

theorem addTurns (w : Worker) (t : Tree) (now : Nat) (dial done : Phase) :
    (w.add t now dial done).phase = dial ∨ (w.add t now dial done).phase = done := by
  unfold add
  dsimp only
  split
  · exact flushTurns _ now dial done
  · exact .inr rfl

inductive Stepped (w : Worker) (now : Nat) : Event → Worker → Prop
  | received {t} (phase : w.phase = .receiving) (unaware : w.stopSeen = false) :
      Stepped w now (.received t) (w.add t now (.dialing firstDelay) .receiving)
  | tick (phase : w.phase = .receiving) (unaware : w.stopSeen = false) :
      Stepped w now .tick (w.flush now (.dialing firstDelay) .receiving)
  | cancelled {shutdown} (phase : w.phase = .receiving) :
      Stepped w now (.cancelled shutdown) ({ w with stopSeen := true }.leave shutdown now)
  | interrupted {shutdown delay} (phase : w.phase = .waiting delay) :
      Stepped w now (.cancelled shutdown) { w with stopSeen := true, phase := .receiving }
  | closed {shutdown} (phase : w.phase = .receiving) (unaware : w.stopSeen = false) :
      Stepped w now (.closed shutdown) (w.leave shutdown now)
  | drained {t} (phase : w.phase = .draining) :
      Stepped w now (.drained t) (w.add t now .drainDialing .draining)
  | nothingQueued (phase : w.phase = .draining) : Stepped w now .nothingQueued (w.lastFlush now)
  | dialed {delay} (phase : w.phase = .dialing delay) :
      Stepped w now .dialed { (w.connect now).write with phase := .receiving }
  | drainDialed (phase : w.phase = .drainDialing) :
      Stepped w now .dialed { (w.connect now).write with phase := .draining }
  | lastDialed (phase : w.phase = .lastDialing) :
      Stepped w now .dialed { (w.connect now).write with phase := .finished }
  | refused {delay} (phase : w.phase = .dialing delay) :
      Stepped w now .refused { w with phase := .waiting delay }
  | drainRefused (phase : w.phase = .drainDialing) : Stepped w now .refused (w.lastFlush now)
  | lastRefused (phase : w.phase = .lastDialing) : Stepped w now .refused { w with phase := .finished }
  | waited {delay} (phase : w.phase = .waiting delay) :
      Stepped w now .waited { w with phase := .dialing (nextDelay delay) }

theorem allowed {c : Prop} [Decidable c] {w v : Worker} (step : (if c then some w else none) = some v) :
    c ∧ w = v := by
  split at step
  · exact ⟨‹c›, Option.some.inj step⟩
  · cases step

variable {w v : Worker} {now : Nat} {e : Event}

theorem stepStepped (step : w.step? now e = some v) : Stepped w now e v := by
  cases e with
  | received t =>
    obtain ⟨⟨phase, unaware⟩, rfl⟩ := allowed step
    exact .received phase (by simpa using unaware)
  | tick =>
    obtain ⟨⟨phase, unaware⟩, rfl⟩ := allowed step
    exact .tick phase (by simpa using unaware)
  | cancelled shutdown =>
    simp only [step?] at step
    split at step <;> cases step
    · exact .cancelled ‹_›
    · exact .interrupted ‹_›
  | closed shutdown =>
    obtain ⟨⟨phase, unaware⟩, rfl⟩ := allowed step
    exact .closed phase (by simpa using unaware)
  | drained t =>
    obtain ⟨phase, rfl⟩ := allowed step
    exact .drained phase
  | nothingQueued =>
    obtain ⟨phase, rfl⟩ := allowed step
    exact .nothingQueued phase
  | dialed =>
    simp only [step?] at step
    split at step <;> cases step
    · exact .dialed ‹_›
    · exact .drainDialed ‹_›
    · exact .lastDialed ‹_›
  | refused =>
    simp only [step?] at step
    split at step <;> cases step
    · exact .refused ‹_›
    · exact .drainRefused ‹_›
    · exact .lastRefused ‹_›
  | waited =>
    simp only [step?] at step
    split at step <;> cases step
    exact .waited ‹_›

/-- The phases by themselves. Where a flush decides, either of its two phases may come. -/
inductive Leads : Phase → Event → Phase → Prop
  | received {t p} (onward : p = .dialing firstDelay ∨ p = .receiving) : Leads .receiving (.received t) p
  | tick {p} (onward : p = .dialing firstDelay ∨ p = .receiving) : Leads .receiving .tick p
  | shutDown : Leads .receiving (.cancelled true) .draining
  | stopped {p} (onward : p = .lastDialing ∨ p = .finished) : Leads .receiving (.cancelled false) p
  | interrupted {shutdown delay} : Leads (.waiting delay) (.cancelled shutdown) .receiving
  | shutClosed : Leads .receiving (.closed true) .draining
  | closed {p} (onward : p = .lastDialing ∨ p = .finished) : Leads .receiving (.closed false) p
  | drained {t p} (onward : p = .drainDialing ∨ p = .draining) : Leads .draining (.drained t) p
  | nothingQueued {p} (onward : p = .lastDialing ∨ p = .finished) : Leads .draining .nothingQueued p
  | dialed {delay} : Leads (.dialing delay) .dialed .receiving
  | drainDialed : Leads .drainDialing .dialed .draining
  | lastDialed : Leads .lastDialing .dialed .finished
  | refused {delay} : Leads (.dialing delay) .refused (.waiting delay)
  | drainRefused {p} (onward : p = .lastDialing ∨ p = .finished) : Leads .drainDialing .refused p
  | lastRefused : Leads .lastDialing .refused .finished
  | waited {delay} : Leads (.waiting delay) .waited (.dialing (nextDelay delay))

theorem stepLeads (step : w.step? now e = some v) : Leads w.phase e v.phase := by
  cases stepStepped step with
  | received phase => exact phase ▸ .received (addTurns w _ now _ _)
  | tick phase => exact phase ▸ .tick (flushTurns w now _ _)
  | @cancelled shutdown phase =>
    cases shutdown with
    | true => exact phase ▸ .shutDown
    | false => exact phase ▸ .stopped (flushTurns _ now _ _)
  | interrupted phase => exact phase ▸ .interrupted
  | @closed shutdown phase =>
    cases shutdown with
    | true => exact phase ▸ .shutClosed
    | false => exact phase ▸ .closed (flushTurns w now _ _)
  | drained phase => exact phase ▸ .drained (addTurns w _ now _ _)
  | nothingQueued phase => exact phase ▸ .nothingQueued (flushTurns w now _ _)
  | dialed phase => exact phase ▸ .dialed
  | drainDialed phase => exact phase ▸ .drainDialed
  | lastDialed phase => exact phase ▸ .lastDialed
  | refused phase => exact phase ▸ .refused
  | drainRefused phase => exact phase ▸ .drainRefused (flushTurns w now _ _)
  | lastRefused phase => exact phase ▸ .lastRefused
  | waited phase => exact phase ▸ .waited

def carried (w : Worker) : List Tree := w.written ++ w.batch

theorem writtenConnect (w : Worker) (now : Nat) : (w.connect now).written = w.written := by
  simp [connect, written]

theorem writtenWrite (linked : w.connections ≠ []) : w.write.written = w.written ++ w.batch := by
  unfold write
  cases connections : w.connections with
  | nil => exact absurd connections linked
  | cons c cs => simp [written, connections]

theorem batchWrite (linked : w.connections ≠ []) : w.write.batch = [] := by
  unfold write
  cases connections : w.connections with
  | nil => exact absurd connections linked
  | cons c cs => rfl

theorem carriedWrite (w : Worker) : w.write.carried = w.carried := by
  cases connections : w.connections with
  | nil => simp [write, connections]
  | cons c cs =>
    have linked : w.connections ≠ [] := by simp [connections]
    rw [carried, writtenWrite linked, batchWrite linked, List.append_nil, carried]

theorem carriedConnected (w : Worker) (now : Nat) : (w.connect now).write.carried = w.carried := by
  rw [carriedWrite, carried, writtenConnect]
  rfl

theorem carriedFlush (w : Worker) (now : Nat) (dial done : Phase) :
    (w.flush now dial done).carried = w.carried := by
  have flushed := flushFlushed w now dial done
  generalize w.flush now dial done = v at flushed
  cases flushed with
  | empty => rfl
  | written => exact carriedWrite w
  | dials => rfl

theorem carriedAdd (w : Worker) (t : Tree) (now : Nat) (dial done : Phase) :
    (w.add t now dial done).carried = w.carried ++ [t] := by
  have longer : { w with batch := w.batch ++ [t] }.carried = w.carried ++ [t] := by
    simp [carried, written]
  unfold add
  dsimp only
  split
  · rw [carriedFlush, longer]
  · exact longer

theorem carriedLeave (w : Worker) (shutdown : Bool) (now : Nat) :
    (w.leave shutdown now).carried = w.carried := by
  unfold leave
  split
  · rfl
  · exact carriedFlush w now _ _

theorem carriedStep (step : w.step? now e = some v) : v.carried = w.carried ++ e.taken := by
  cases stepStepped step with
  | received | drained => exact carriedAdd w _ now _ _
  | tick | nothingQueued | drainRefused => exact (carriedFlush w now _ _).trans (List.append_nil _).symm
  | cancelled => exact (carriedLeave { w with stopSeen := true } _ now).trans (List.append_nil _).symm
  | closed => exact (carriedLeave w _ now).trans (List.append_nil _).symm
  | dialed | drainDialed | lastDialed => exact (carriedConnected w now).trans (List.append_nil _).symm
  | interrupted | refused | lastRefused | waited => exact (List.append_nil _).symm

def dials : Phase → Bool
  | .dialing _ | .waiting _ | .drainDialing | .lastDialing => true
  | _ => false

structure Sound (w : Worker) : Prop where
  linked : w.established ≠ none → w.connections ≠ []
  dialing : dials w.phase = true → w.established = none ∧ w.batch ≠ []

theorem freshLinked (linked : w.established ≠ none → w.connections ≠ []) (fresh : w.fresh now = true) :
    w.connections ≠ [] := by
  refine linked fun none => ?_
  simp [Worker.fresh, none] at fresh

theorem soundStart : Sound {} := ⟨fun none => absurd rfl none, fun dialing => nomatch dialing⟩

theorem soundWrite {done : Phase} (linked : w.connections ≠ []) (still : dials done = false) :
    Sound { w.write with phase := done } := by
  refine ⟨fun _ => ?_, fun dialing => ?_⟩
  · unfold write
    cases connections : w.connections with
    | nil => exact absurd connections linked
    | cons c cs => simp
  · rw [still] at dialing
    cases dialing

theorem soundFlush {dial done : Phase} (linked : w.established ≠ none → w.connections ≠ [])
    (still : dials done = false) : Sound (w.flush now dial done) := by
  have flushed := flushFlushed w now dial done
  generalize w.flush now dial done = v at flushed
  cases flushed with
  | empty => exact ⟨linked, fun dialing => by simp [still] at dialing⟩
  | written batch fresh => exact soundWrite (freshLinked linked fresh) still
  | dials batch => exact ⟨fun none => absurd rfl none, fun _ => ⟨rfl, batch⟩⟩

theorem soundAdd {t : Tree} {dial done : Phase} (sound : Sound w) (still : dials done = false) :
    Sound (w.add t now dial done) := by
  unfold add
  dsimp only
  split
  · exact soundFlush sound.linked still
  · exact ⟨sound.linked, fun dialing => by simp [still] at dialing⟩

theorem soundLeave {shutdown : Bool} (linked : w.established ≠ none → w.connections ≠ []) :
    Sound (w.leave shutdown now) := by
  unfold leave
  split
  · exact ⟨linked, fun dialing => nomatch dialing⟩
  · exact soundFlush linked rfl

theorem soundStep (sound : Sound w) (step : w.step? now e = some v) : Sound v := by
  have connected : (w.connect now).connections ≠ [] := by simp [connect]
  cases stepStepped step with
  | received | drained => exact soundAdd sound rfl
  | tick | nothingQueued | drainRefused => exact soundFlush sound.linked rfl
  | cancelled | closed => exact soundLeave sound.linked
  | dialed | drainDialed | lastDialed => exact soundWrite connected rfl
  | interrupted | lastRefused => exact ⟨sound.linked, fun dialing => nomatch dialing⟩
  | refused phase | waited phase =>
    exact ⟨sound.linked, fun _ => sound.dialing (by rw [phase]; rfl)⟩

/-- What a step does to the connections: a write goes over the newest one while it is young enough, an aged
one is given up, and a new one comes with something to write. -/
inductive Wired (w : Worker) (now : Nat) (v : Worker) : Prop
  | same (established : v.established = w.established) (connections : v.connections = w.connections)
  | wrote {c cs} (more : List Tree) (fresh : w.fresh now = true) (before : w.connections = c :: cs)
      (established : v.established = w.established) (connections : v.connections = (c ++ more) :: cs)
  | gaveUp (stale : w.fresh now = false) (established : v.established = none)
      (connections : v.connections = w.connections)
  | connected {more} (unlinked : w.established = none) (filled : more ≠ [])
      (established : v.established = some now) (connections : v.connections = more :: w.connections)

theorem wiredFlush (linked : w.established ≠ none → w.connections ≠ []) (dial done : Phase) :
    Wired w now (w.flush now dial done) := by
  have flushed := flushFlushed w now dial done
  generalize w.flush now dial done = v at flushed
  cases flushed with
  | empty => exact .same rfl rfl
  | written _ fresh =>
    obtain ⟨c, cs, before⟩ := List.exists_cons_of_ne_nil (freshLinked linked fresh)
    refine .wrote w.batch fresh before ?_ ?_ <;> simp [write, before]
  | dials _ stale => exact .gaveUp stale rfl rfl

theorem wiredFrom {u : Worker} (wired : Wired u now v) (established : u.established = w.established)
    (connections : u.connections = w.connections) : Wired w now v := by
  have fresh : u.fresh now = w.fresh now := by simp only [Worker.fresh, established]
  cases wired with
  | same link all => exact .same (link.trans established) (all.trans connections)
  | wrote more young before link all =>
    exact .wrote more (fresh ▸ young) (connections ▸ before) (link.trans established) all
  | gaveUp stale link all => exact .gaveUp (fresh ▸ stale) link (all.trans connections)
  | connected unlinked filled link all =>
    exact .connected (established ▸ unlinked) filled link (connections ▸ all)

theorem wiredAdd (linked : w.established ≠ none → w.connections ≠ []) (t : Tree) (dial done : Phase) :
    Wired w now (w.add t now dial done) := by
  unfold add
  dsimp only
  split
  · exact wiredFrom (wiredFlush (w := { w with batch := w.batch ++ [t] }) linked dial done) rfl rfl
  · exact .same rfl rfl

theorem wiredLeave (linked : w.established ≠ none → w.connections ≠ []) (shutdown : Bool) :
    Wired w now (w.leave shutdown now) := by
  cases shutdown with
  | true => exact .same rfl rfl
  | false => exact wiredFlush linked _ _

theorem wiredConnected (w : Worker) (now : Nat) (done : Phase) (unlinked : w.established = none)
    (filled : w.batch ≠ []) : Wired w now { (w.connect now).write with phase := done } :=
  .connected unlinked filled rfl rfl

theorem wiredStep (sound : Sound w) (step : w.step? now e = some v) : Wired w now v := by
  cases stepStepped step with
  | received | drained => exact wiredAdd sound.linked _ _ _
  | tick | nothingQueued | drainRefused => exact wiredFlush sound.linked _ _
  | cancelled => exact wiredFrom (wiredLeave (w := { w with stopSeen := true }) sound.linked _) rfl rfl
  | closed => exact wiredLeave sound.linked _
  | dialed phase | drainDialed phase | lastDialed phase =>
    obtain ⟨unlinked, filled⟩ := sound.dialing (by rw [phase]; rfl)
    exact wiredConnected w now _ unlinked filled
  | interrupted | refused | lastRefused | waited => exact .same rfl rfl

theorem writtenStep (sound : Sound w) (step : w.step? now e = some v) :
    ∃ more, v.written = w.written ++ more := by
  cases wiredStep sound step with
  | same _ connections | gaveUp _ _ connections => exact ⟨[], by simp [written, connections]⟩
  | @wrote c cs more _ before _ connections => exact ⟨more, by simp [written, before, connections]⟩
  | @connected more _ _ _ connections => exact ⟨more, by simp [written, connections]⟩

end TraceRelay.Outbound.Worker
