import TraceRelay.Proofs.Outbound.Custody
/-! A worker left alone with its lane. Its surroundings say which event comes next. When they do not send it
into a pause, every step lowers what is still to be done, and the worker ends. -/
namespace TraceRelay.Outbound

def Phase.weight : Phase → Nat
  | .finished => 0
  | .lastDialing => 1
  | .draining => 2
  | .drainDialing => 3
  | .receiving => 4
  | .dialing _ => 5
  | .waiting _ => 6

namespace Worker

variable {w v : Worker} {now : Nat} {e : Event}

end Worker

namespace Delivery
open Worker (Sound Leaving)

variable {s : Surroundings} {d e : Delivery} {now : Nat} {clock : Nat → Nat}

/-- A worker that is not sent into a pause: it is past its loop or its dials are answered. -/
structure Calm (s : Surroundings) (d : Delivery) : Prop where
  sound : Sound d.worker
  aware : d.worker.stopSeen = true → s.cancelled = true
  unpaused : ∀ delay, d.worker.phase ≠ .waiting delay
  answered : s.reachable = true ∨ ∀ delay, d.worker.phase ≠ .dialing delay

/-- Two for each tree on the lane, which may cost a step of its own and a dial. -/
def remaining (d : Delivery) : Nat := 2 * d.lane.size + d.worker.phase.weight

theorem moves (ends : s.cancelled = true ∨ s.lasting = false) (calm : Calm s d)
    (busy : d.worker.phase ≠ .finished) (now : Nat) : ∃ e, d.step? s now = some e := by
  have unaware : s.cancelled = false → d.worker.stopSeen = false := fun live => by
    cases seen : d.worker.stopSeen with
    | false => rfl
    | true => cases live.symm.trans (calm.aware seen)
  cases phase : d.worker.phase with
  | receiving =>
    cases stopped : s.cancelled with
    | true => exact ⟨_, by simp [step?, event?, phase, stopped, Worker.step?]; rfl⟩
    | false =>
      have lasting : s.lasting = false := ends.resolve_left (by simp [stopped])
      cases popped : d.lane.pop? with
      | none =>
        exact ⟨_, by simp [step?, event?, phase, stopped, popped, lasting, unaware stopped, Worker.step?]; rfl⟩
      | some pair =>
        exact ⟨_, by simp [step?, event?, phase, stopped, popped, unaware stopped, Worker.step?]; rfl⟩
  | draining =>
    cases popped : d.lane.pop? with
    | none => exact ⟨_, by simp [step?, event?, phase, popped, Worker.step?]; rfl⟩
    | some pair => exact ⟨_, by simp [step?, event?, phase, popped, Worker.step?]; rfl⟩
  | waiting delay => exact absurd phase (calm.unpaused delay)
  | dialing | drainDialing | lastDialing =>
    cases reachable : s.reachable <;>
      exact ⟨_, by simp [step?, event?, phase, reachable, Worker.step?]; rfl⟩
  | finished => exact absurd phase busy

def after (s : Surroundings) (clock : Nat → Nat) (d : Delivery) : Nat → Delivery
  | 0 => d
  | n + 1 => ((d.after s clock n).step? s (clock n)).getD (d.after s clock n)

end Delivery

end TraceRelay.Outbound
