import TraceRelay.Decimal.Integer
/-! Durations as the log shows them: whole seconds and what is left of a second without trailing zeros,
or milliseconds below a second. -/
namespace TraceRelay.Log

def secondsText (ms : Nat) : List Char :=
  let digits := Decimal.natChars (ms % 1000)
  let padded := List.replicate (3 - digits.length) '0' ++ digits
  let fraction := (padded.reverse.dropWhile (· == '0')).reverse
  let whole := Decimal.natChars (ms / 1000)
  if fraction = [] then whole else whole ++ '.' :: fraction

def duration (ms : Nat) : String :=
  if ms = 0 then "0ns"
  else if ms < 1000 then Decimal.nat ms ++ "ms"
  else String.ofList (secondsText ms) ++ "s"

end TraceRelay.Log
