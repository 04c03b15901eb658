import TraceRelay.Keyed
import TraceRelay.Decimal.Integer
/-! Message ids `domain-ip-hour-number`. The home domain has a counter of its own and a prepared
front part; every other domain gets a counter when it is first seen. All counters start again
whenever the hour grows. -/
namespace TraceRelay

structure MessageIds where
  home : String
  ipHex : String
  hour : Int64
  homeFront : String
  homeCount : UInt32
  others : Keyed String UInt32
  deriving DecidableEq, Repr

namespace MessageIds

def front (domain ipHex : String) (hour : Int64) : String :=
  domain ++ "-" ++ ipHex ++ "-" ++ Decimal.int hour.toInt ++ "-"

def format (domain ipHex : String) (hour : Int64) (number : UInt32) : String :=
  front domain ipHex hour ++ Decimal.nat number.toNat

def start (home ipHex : String) (hour : Int64) : MessageIds where
  home := home
  ipHex := ipHex
  hour := hour
  homeFront := front home ipHex hour
  homeCount := 0
  others := []

def nextKnown? (ids : MessageIds) (domain : String) : Option (String × MessageIds) :=
  if domain = ids.home then
    let n := ids.homeCount + 1
    some (ids.homeFront ++ Decimal.nat n.toNat, { ids with homeCount := n })
  else
    (ids.others.get? domain).map fun count =>
      (format domain ids.ipHex ids.hour (count + 1),
        { ids with others := ids.others.upsert domain fun _ => count + 1 })

/-- The next id of a domain that had no counter a moment ago: one is added unless somebody else was
faster. -/
def nextNew (ids : MessageIds) (domain : String) : String × MessageIds :=
  let n := (ids.others.get? domain).getD 0 + 1
  (format domain ids.ipHex ids.hour n, { ids with others := ids.others.upsert domain fun _ => n })

def next (ids : MessageIds) (domain : String) : String × MessageIds :=
  (ids.nextKnown? domain).getD (ids.nextNew domain)

/-- Moves to a later hour; false, and nothing changes, for the present hour or an earlier one. -/
def rollover (ids : MessageIds) (hour : Int64) : Bool × MessageIds :=
  if hour ≤ ids.hour then (false, ids)
  else (true, { ids with
    hour := hour
    homeFront := front ids.home ids.ipHex hour
    homeCount := 0
    others := ids.others.map fun (domain, _) => (domain, 0) })

end MessageIds

end TraceRelay
