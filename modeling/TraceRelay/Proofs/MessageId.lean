import TraceRelay.MessageId
/-! Runs of the id counters: ids drawn, for domains that have a counter and for new ones, and hours
entered, in any order. The prepared front part is at all times the one of the present hour. -/
namespace TraceRelay.MessageIds

inductive Reached (home ipHex : String) : MessageIds → Prop
  | start (hour : Int64) : Reached home ipHex (.start home ipHex hour)
  | known {ids domain id ids'} (before : Reached home ipHex ids)
      (drawn : ids.nextKnown? domain = some (id, ids')) : Reached home ipHex ids'
  | new {ids} (domain : String) (before : Reached home ipHex ids) : Reached home ipHex (ids.nextNew domain).2
  | rollover {ids} (hour : Int64) (before : Reached home ipHex ids) :
      Reached home ipHex (ids.rollover hour).2

variable {home ipHex : String} {ids : MessageIds}

structure Prepared (home ipHex : String) (ids : MessageIds) : Prop where
  sameHome : ids.home = home
  sameIp : ids.ipHex = ipHex
  front : ids.homeFront = front home ipHex ids.hour

theorem preparedKnown {domain id : String} {ids' : MessageIds} (prepared : Prepared home ipHex ids)
    (drawn : ids.nextKnown? domain = some (id, ids')) : Prepared home ipHex ids' := by
  unfold nextKnown? at drawn
  split at drawn
  · cases Option.some.inj drawn
    exact ⟨prepared.sameHome, prepared.sameIp, prepared.front⟩
  · obtain ⟨count, -, pair⟩ := Option.map_eq_some_iff.mp drawn
    cases pair
    exact ⟨prepared.sameHome, prepared.sameIp, prepared.front⟩

theorem preparedNew (prepared : Prepared home ipHex ids) (domain : String) :
    Prepared home ipHex (ids.nextNew domain).2 :=
  ⟨prepared.sameHome, prepared.sameIp, prepared.front⟩

theorem preparedNext (prepared : Prepared home ipHex ids) (domain : String) :
    Prepared home ipHex (ids.next domain).2 := by
  unfold next
  cases drawn : ids.nextKnown? domain with
  | none => exact preparedNew prepared domain
  | some pair => exact preparedKnown prepared drawn

theorem preparedRollover (prepared : Prepared home ipHex ids) (hour : Int64) :
    Prepared home ipHex (ids.rollover hour).2 := by
  unfold rollover
  split
  · exact prepared
  · refine ⟨prepared.sameHome, prepared.sameIp, ?_⟩
    dsimp only
    rw [prepared.sameHome, prepared.sameIp]

theorem reachedPrepared (reached : Reached home ipHex ids) : Prepared home ipHex ids := by
  induction reached with
  | start hour => exact ⟨rfl, rfl, rfl⟩
  | known _ drawn ih => exact preparedKnown ih drawn
  | new domain _ ih => exact preparedNew ih domain
  | rollover hour _ ih => exact preparedRollover ih hour

theorem nextFormat (prepared : Prepared home ipHex ids) (domain : String) :
    ∃ number, (ids.next domain).1 = format domain ipHex ids.hour number := by
  unfold next nextKnown?
  split
  · rename_i own
    refine ⟨ids.homeCount + 1, ?_⟩
    rw [own, format, prepared.sameHome, ← prepared.front]
    rfl
  · cases seen : ids.others.get? domain with
    | none =>
      refine ⟨(ids.others.get? domain).getD 0 + 1, ?_⟩
      rw [← prepared.sameIp]
      rfl
    | some count =>
      refine ⟨count + 1, ?_⟩
      rw [← prepared.sameIp]
      rfl

end TraceRelay.MessageIds
