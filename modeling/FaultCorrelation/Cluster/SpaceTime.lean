import FaultCorrelation.Settings.Basic

/-! # Distance in space and time

The distance between two alarms combines the time between them, in seconds, with the square root of
the distance between their vertices. Times are subtracted in 64 bits, so that times further apart
than that wrap around.
-/

namespace FaultCorrelation

/-- The distance `alpha * (beta * seconds + (1 - beta) * sqrt spatial)`. -/
structure SpaceTime where
  alpha : Float
  beta : Float
  deriving Repr

namespace SpaceTime

/-- A space-time distance with checked parameters. -/
def checked (alpha beta : Float) : Except SettingsFault SpaceTime := do
  SettingsCheck.alpha alpha
  SettingsCheck.beta beta
  return { alpha, beta }

/-- The seconds between two times in milliseconds. -/
def seconds (a b : Int) : Float := Decimal.Binary64.ofNat (Word64.sub a b).natAbs / 1000.0

/-- The distance of two alarms, from their times and the distance of their vertices. -/
def between (measure : SpaceTime) (a b : Int) (spatial : Float) : Float :=
  measure.alpha * (measure.beta * seconds a b + (1.0 - measure.beta) * spatial.sqrt)

end SpaceTime
end FaultCorrelation
