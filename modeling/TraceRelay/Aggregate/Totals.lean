import TraceRelay.Aggregate.Bucket
import TraceRelay.Decimal.Integer
import TraceRelay.Message
/-! What is counted about the messages of one domain, type and name: how many, how many failed, and
for transactions the time they took. -/
namespace TraceRelay.Aggregate

structure Observation where
  domain : String
  type : String
  name : String
  succeeded : Bool
  duration : Int64
  deriving DecidableEq, Repr

def Observation.of (domain : String) (d : Detail) (duration : Int64) : Observation :=
  ⟨domain, d.type, d.name, d.status == success, duration⟩

inductive Kind
  | transaction | event
  deriving DecidableEq, Repr

def Kind.title : Kind → String
  | transaction => "TransactionAggregator"
  | event => "EventAggregator"

/-- Occurrences by bucket, buckets ascending. They are counted without a bound, like everything that is counted here:
no run comes to the 2^64 observations at which a count in one word would end. -/
abbrev Histogram := List (Int64 × Nat)

def Histogram.add (b : Int64) : Histogram → Histogram
  | [] => [(b, 1)]
  | (a, n) :: r =>
    if b < a then (b, 1) :: (a, n) :: r
    else if b = a then (a, n + 1) :: r
    else (a, n) :: Histogram.add b r

structure TransactionTotals where
  count : Nat := 0
  failed : Nat := 0
  sumMs : Int64 := 0
  histogram : Histogram := []
  deriving DecidableEq, Repr

structure EventTotals where
  count : Nat := 0
  failed : Nat := 0
  deriving DecidableEq, Repr

class Totals (α : Type) where
  kind : Kind
  none : α
  add : α → Observation → α
  encode : α → List Char
  summary : Detail → Message

def millis (o : Observation) : Int64 := o.duration / 1000

def TransactionTotals.add (t : TransactionTotals) (o : Observation) : TransactionTotals where
  count := t.count + 1
  failed := if o.succeeded then t.failed else t.failed + 1
  sumMs := Decimal.addClamped t.sumMs (millis o)
  histogram := Histogram.add (bucket (millis o)) t.histogram

def EventTotals.add (t : EventTotals) (o : Observation) : EventTotals where
  count := t.count + 1
  failed := if o.succeeded then t.failed else t.failed + 1

def encodeEntry : Int64 × Nat → List Char
  | (b, n) => Decimal.intChars b.toInt ++ ',' :: Decimal.natChars n

def Histogram.encode : Histogram → List Char
  | [] => []
  | [e] => encodeEntry e
  | e :: f :: r => encodeEntry e ++ '|' :: Histogram.encode (f :: r)

/-- `@count;failed;sum;bucket,n|bucket,n;` -/
def TransactionTotals.encode (t : TransactionTotals) : List Char :=
  '@' :: Decimal.natChars t.count ++ ';' :: Decimal.natChars t.failed ++
    ';' :: Decimal.intChars t.sumMs.toInt ++ ';' :: t.histogram.encode ++ [';']

/-- `@count;failed` -/
def EventTotals.encode (t : EventTotals) : List Char :=
  '@' :: Decimal.natChars t.count ++ ';' :: Decimal.natChars t.failed

instance : Totals TransactionTotals where
  kind := .transaction
  none := {}
  add := TransactionTotals.add
  encode := TransactionTotals.encode
  summary d := .transaction d 0 []

instance : Totals EventTotals where
  kind := .event
  none := {}
  add := EventTotals.add
  encode := EventTotals.encode
  summary d := .event d

end TraceRelay.Aggregate
