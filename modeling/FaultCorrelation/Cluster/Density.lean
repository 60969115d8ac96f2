import FaultCorrelation.Settings.Basic

/-! # Density clustering

Points are near each other when their distance is at most a radius, and every point is near itself.
A point with enough points nearby is a core point. A cluster grows from a core point: it takes in
the points nearby, and the points near each core point it takes in. Points that no cluster takes in
are noise.

The distance is asked for in a monad, so that it may fail, count its calls or remember answers. It
is asked once for each ordered pair of distinct points, the centre of the neighbourhood first; a
point's neighbourhood is explored once, when the point is taken as a seed or enters a cluster as
unvisited.
-/

namespace FaultCorrelation

/-- What is known of a point. -/
inductive Label where
  | unvisited
  /-- Not a core point, and in no cluster so far. -/
  | noise
  | clustered
  deriving DecidableEq, Repr, Inhabited

/-- The parameters of density clustering. -/
structure Density (D : Type) where
  /-- The radius of a neighbourhood. -/
  epsilon : D
  /-- How many points, itself included, a core point has nearby. -/
  minPoints : Nat

namespace Density

/-- Density clustering with checked parameters. -/
def checked (epsilon : Float) (minPoints : Nat) : Except SettingsFault (Density Float) := do
  SettingsCheck.epsilon epsilon
  SettingsCheck.minPoints minPoints
  return { epsilon, minPoints }

variable {D : Type} [LE D] [DecidableLE D] {m : Type → Type} [Monad m] {n : Nat}

/-- The points near a centre, among those given and in their order. -/
def gather (density : Density D) (distance : Fin n → Fin n → m D) (center : Fin n) :
    List (Fin n) → m (List (Fin n))
  | [] => pure []
  | point :: rest =>
    if point = center then do
      let others ← gather density distance center rest
      return point :: others
    else do
      let d ← distance center point
      let others ← gather density distance center rest
      return if d ≤ density.epsilon then point :: others else others

/-- The neighbourhood of a point: all points near it, in order. -/
def region (density : Density D) (distance : Fin n → Fin n → m D) (center : Fin n) :
    m (List (Fin n)) :=
  density.gather distance center (List.finRange n)

/-- Whether a neighbourhood makes its centre a core point. -/
def isCore (density : Density D) (neighborhood : List (Fin n)) : Bool :=
  decide (density.minPoints ≤ neighborhood.length)

/-- Grow a cluster along a queue of points reached from its core points. Each step takes one point
off the queue; a point that was noise joins without being explored. -/
def grow (density : Density D) (distance : Fin n → Fin n → m D) :
    (steps : Nat) → (labels : Vector Label n) → (members queue : List (Fin n)) →
    m (Vector Label n × List (Fin n))
  | 0, labels, members, _ => pure (labels, members)
  | _ + 1, labels, members, [] => pure (labels, members)
  | steps + 1, labels, members, point :: queue =>
    match labels[point] with
    | .clustered => grow density distance steps labels members queue
    | .noise =>
      grow density distance steps (labels.set point .clustered) (members ++ [point]) queue
    | .unvisited => do
      let labels := labels.set point .clustered
      let reached ← density.region distance point
      let queue :=
        if density.isCore reached then
          queue ++ reached.filter fun other => labels[other] != .clustered
        else queue
      grow density distance steps labels (members ++ [point]) queue

/-- Enough steps to grow any cluster of `n` points: each point is explored at most once and then
puts at most `n` points on the queue. -/
def growthSteps (n : Nat) : Nat := n * n

/-- Try the points in order as seeds of clusters. -/
def sweep (density : Density D) (distance : Fin n → Fin n → m D) :
    (labels : Vector Label n) → (seeds : List (Fin n)) → m (List (List (Fin n)))
  | _, [] => pure []
  | labels, seed :: seeds =>
    if labels[seed] != .unvisited then sweep density distance labels seeds
    else do
      let neighborhood ← density.region distance seed
      if density.isCore neighborhood then do
        let (labels, members) ← density.grow distance (growthSteps n)
          (labels.set seed .clustered) [seed] (neighborhood.filter (· != seed))
        let clusters ← sweep density distance labels seeds
        return members :: clusters
      else sweep density distance (labels.set seed .noise) seeds

/-- The clusters of `n` points, in the order of their first core points; the members of a cluster
are in the order in which it took them in. -/
def clusters (density : Density D) (distance : Fin n → Fin n → m D) : m (List (List (Fin n))) :=
  density.sweep distance (Vector.replicate n .unvisited) (List.finRange n)

end Density
end FaultCorrelation
