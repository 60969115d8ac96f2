import FaultCorrelation.Situation.Basic
import FaultCorrelation.Distance.Cache
import FaultCorrelation.Decimal.Fixed

/-! # The spread of a situation

How far the alarms of a situation lie apart in time and in the topology, and the sentence that says
so. Alarms that no vertex holds any more count for the number of alarms and the time span only.
-/

namespace FaultCorrelation

/-- How far the alarms of a situation lie apart. -/
structure Spread where
  alarms : Nat
  /-- The milliseconds from the earliest alarm to the latest. -/
  span : Nat
  vertices : Nat
  /-- The largest distance between two vertices, rounded; absent if it is zero or was not looked
  for. -/
  distance : Option Int
  deriving DecidableEq, Repr

namespace Spread

/-- Distances are looked for between fewer vertices than this. -/
def vertexLimit : Nat := 10

/-- A span of milliseconds in seconds, with two places. -/
def secondsText (span : Nat) : String :=
  let seconds := (Decimal.Dyadic.nearest span 1).divNat 1000
  Decimal.fixedText 2 seconds.ratio.1 seconds.ratio.2

/-- The spread as a sentence. -/
def text (spread : Spread) : String :=
  "The " ++ toString spread.alarms ++ " alarms happened within " ++ secondsText spread.span ++
    " seconds across " ++ toString spread.vertices ++ " vertices" ++
    (spread.distance.elim "" fun distance => " " ++ toString distance ++ " distance apart") ++ "."

/-- The span of a list of times, in 64 bits. -/
def spanOf : List Int → Nat
  | [] => 0
  | first :: rest => (Word64.sub (rest.foldl max first) (rest.foldl min first)).natAbs

/-- The unordered pairs of a list. -/
def pairs {α : Type} : List α → List (α × α)
  | [] => []
  | first :: rest => rest.map (first, ·) ++ pairs rest

variable {W : Type} [Weight W]

/-- The largest distance between any two of the vertices; zero if there are no two. -/
def largestDistance (graph : Topology W) (vertices : List VertexId) : DistanceM W W :=
  (pairs vertices).foldlM (fun largest pair => do
    let distance ← DistanceM.ask graph pair.1 pair.2
    return Weight.larger largest distance) 0

/-- The vertices that hold alarms of a map, in ascending order. -/
def verticesOf (graph : Topology W) (alarms : AlarmMap) : List VertexId :=
  (Std.ExtTreeSet.ofList (alarms.values.filterMap graph.vertexOfAlarm?)).toList

/-- Measure the spread of alarms. -/
def measure (graph : Topology W) (alarms : AlarmMap) : DistanceM W Spread := do
  let vertices := verticesOf graph alarms
  let distance ←
    if vertices.length < vertexLimit then do
      let largest ← largestDistance graph vertices
      pure (if 0 < largest then some (Weight.round largest) else none)
    else pure none
  return { alarms := alarms.size, span := spanOf (alarms.values.map Alarm.time)
           vertices := vertices.length, distance }

end Spread

/-- The sentence on the spread of a situation. -/
def Situation.diagnose {W : Type} [Weight W] (graph : Topology W) (situation : Situation) :
    DistanceM W String := do
  let spread ← Spread.measure graph situation.alarms
  return spread.text

end FaultCorrelation
