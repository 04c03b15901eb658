import TraceRelay.Aggregate.Totals
import TraceRelay.MessageId
/-! Totals by domain, then by type and name. Flushing empties the table and turns each domain into one
tree of the agent with a summary for every type and name. -/
namespace TraceRelay.Aggregate

abbrev Table (α : Type) := Keyed String (Keyed (String × String) α)

variable {α : Type} [Totals α]

def Table.add (t : Table α) (o : Observation) : Table α :=
  Keyed.upsert o.domain (fun entries =>
    Keyed.upsert (o.type, o.name) (fun totals => Totals.add (totals.getD Totals.none) o)
      (entries.getD [])) t

structure Stamp where
  now : Int64
  process : String

def summaryOf (stamp : Stamp) (e : (String × String) × α) : Message :=
  Totals.summary (α := α)
    ⟨e.1.1, e.1.2, success, String.ofList (Totals.encode e.2), stamp.now⟩

def summaryRoot (stamp : Stamp) (entries : Keyed (String × String) α) : Message :=
  .transaction ⟨"System", (Totals.kind α).title, success, "", stamp.now⟩ 0
    (entries.map (summaryOf stamp))

def Table.flush (stamp : Stamp) (ids : MessageIds) : Table α → List Tree × MessageIds
  | [] => ([], ids)
  | (domain, entries) :: rest =>
    let (id, ids) := ids.next domain
    let (trees, ids) := Table.flush stamp ids rest
    (Tree.ofAgent domain id stamp.process (summaryRoot stamp entries) :: trees, ids)

end TraceRelay.Aggregate
