import TraceRelay.Proofs.Outbound.Reuse
/-! What a worker has done when it ends. What it has written, holds and leaves on the lane is exact for every
length of the lane. -/
namespace TraceRelay.Outbound

namespace Delivery
open Worker (Sound Leaving)

variable {s : Surroundings} {d e : Delivery} {now : Nat} {clock : Nat → Nat}

structure Untouched (lane : Queue Tree) (d : Delivery) : Prop where
  lane : d.lane = lane
  connections : d.worker.connections = []
  batch : d.worker.batch = []
  phase : d.worker.phase = .receiving ∨ d.worker.phase = .finished

end Delivery

end TraceRelay.Outbound
