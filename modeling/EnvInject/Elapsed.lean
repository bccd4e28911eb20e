/-!
# Durations

The text of a duration: two decimals, rounded half up, in the largest of four units that leaves at
least one before the point.
-/

namespace EnvInject

/-- Units of time, each with its length in nanoseconds, the largest first. -/
def timeUnits : List (Nat × String) :=
  [(1000000000, "s"), (1000000, "ms"), (1000, "µs"), (1, "ns")]

/-- Hundredths of a unit in a duration. -/
def hundredths (nanoseconds unit : Nat) : Nat :=
  (nanoseconds * 100 + unit / 2) / unit

/-- A count of hundredths with a point. -/
def twoDecimals (count : Nat) : String :=
  let digits := toString (count % 100)
  toString (count / 100) ++ "." ++ (if digits.length == 1 then "0" ++ digits else digits)

/-- The text of a duration. -/
def elapsedText (nanoseconds : Nat) : String :=
  match timeUnits.find? (·.1 ≤ nanoseconds) with
  | some (unit, name) => twoDecimals (hundredths nanoseconds unit) ++ name
  | none => twoDecimals 0 ++ "ns"

end EnvInject
