import TraceRelay.Decimal.Integer
/-! Points in time as the log shows them: date and time of day in UTC down to the microsecond. -/
namespace TraceRelay.Log

structure Date where
  year : Nat
  month : Nat
  day : Nat
  deriving DecidableEq, Repr

/-- Days are counted from 1970 on. Years are taken to start in March, so that a leap day is the last day
of its year, and the lengths of months follow one linear rule. -/
def Date.ofDays (days : Nat) : Date :=
  let shifted := days + 719468
  let era := shifted / 146097
  let dayOfEra := shifted % 146097
  let yearOfEra := (dayOfEra - dayOfEra / 1460 + dayOfEra / 36524 - dayOfEra / 146096) / 365
  let dayOfYear := dayOfEra - (365 * yearOfEra + yearOfEra / 4 - yearOfEra / 100)
  let monthFromMarch := (5 * dayOfYear + 2) / 153
  let month := if monthFromMarch < 10 then monthFromMarch + 3 else monthFromMarch - 9
  ⟨yearOfEra + era * 400 + (if month ≤ 2 then 1 else 0), month,
    dayOfYear - (153 * monthFromMarch + 2) / 5 + 1⟩

def padded (width n : Nat) : String :=
  let digits := Decimal.natChars n
  String.ofList (List.replicate (width - digits.length) '0' ++ digits)

/-- Microseconds since 1970. -/
def clock (micros : Nat) : String :=
  let seconds := micros / 1000000
  let date := Date.ofDays (seconds / 86400)
  padded 4 date.year ++ "-" ++ padded 2 date.month ++ "-" ++ padded 2 date.day ++ "T" ++
    padded 2 (seconds / 3600 % 24) ++ ":" ++ padded 2 (seconds / 60 % 60) ++ ":" ++
    padded 2 (seconds % 60) ++ "." ++ padded 6 (micros % 1000000) ++ "Z"

end TraceRelay.Log
