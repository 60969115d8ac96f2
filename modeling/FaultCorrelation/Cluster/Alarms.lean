import FaultCorrelation.Cluster.Density
import FaultCorrelation.Cluster.SpaceTime
import FaultCorrelation.Distance.Cache
import FaultCorrelation.Sorting

/-! # Clusters of alarms

Alarms are clustered by density under a distance in space and time. They are put into a fixed order
first, so that the clusters do not depend on the order in which the alarms are given.
-/

namespace FaultCorrelation

/-- A group of alarms near each other, in the order in which clustering took them in. -/
abbrev Cluster := List LocatedAlarm

namespace LocatedAlarm

/-- The order by time, then alarm id, then vertex. -/
def earlier (a b : LocatedAlarm) : Bool :=
  ((compare a.alarm.time b.alarm.time).then
    ((compare a.alarm.id b.alarm.id).then (compare a.vertex b.vertex))).isLE

end LocatedAlarm

/-- Groups alarms that are near each other in space and time. -/
structure AlarmClusterer (W : Type) where
  density : Density W
  /-- The distance of two alarms, from their times and the distance of their vertices. -/
  measure : Int → Int → W → W

namespace AlarmClusterer

/-- The clusterer that checked settings call for. -/
def ofSettings (settings : Settings) : Except SettingsFault (AlarmClusterer Float) := do
  let density ← Density.checked settings.epsilon settings.minPoints
  let measure ← SpaceTime.checked settings.alpha settings.beta
  return { density, measure := measure.between }

variable {W : Type} [Weight W]

/-- The distance of two located alarms. Alarms of one vertex need no look-up. -/
def separation (clusterer : AlarmClusterer W) (graph : Topology W) (a b : LocatedAlarm) :
    DistanceM W W := do
  let spatial ← if a.vertex = b.vertex then pure 0 else DistanceM.ask graph a.vertex b.vertex
  return clusterer.measure a.alarm.time b.alarm.time spatial

/-- The clusters of the given alarms. -/
def clusters (clusterer : AlarmClusterer W) (graph : Topology W) (alarms : List LocatedAlarm) :
    DistanceM W (List Cluster) := do
  let points := (Sorting.sortBy LocatedAlarm.earlier alarms).toArray
  let groups ← clusterer.density.clusters (n := points.size) fun i j =>
    clusterer.separation graph points[i] points[j]
  return groups.map fun group => group.map fun i => points[i]

end AlarmClusterer
end FaultCorrelation
