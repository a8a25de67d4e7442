/-!
# Durations as text

A duration is shown in the largest unit of which it is at least one, with the
places after the point that it needs.
-/

namespace Threading.CommandLine

/-- `n` parts of a unit that has `10 ^ places` of them, without zeros at the end. -/
def decimal (n places : Nat) : String :=
  let parts := Nat.pow 10 places
  let digits := Nat.toDigits 10 (n % parts)
  let padded := List.replicate (places - digits.length) '0' ++ digits
  match (padded.reverse.dropWhile (· == '0')).reverse with
  | [] => toString (n / parts)
  | fraction => toString (n / parts) ++ "." ++ String.ofList fraction

/-- A duration in nanoseconds as text. -/
def shownDuration (nanoseconds : Nat) : String :=
  if 1000000000 ≤ nanoseconds then decimal nanoseconds 9 ++ "s"
  else if 1000000 ≤ nanoseconds then decimal nanoseconds 6 ++ "ms"
  else if 1000 ≤ nanoseconds then decimal nanoseconds 3 ++ "µs"
  else toString nanoseconds ++ "ns"

end Threading.CommandLine
