import FaultCorrelation.Proofs.Distance.Transparency
import FaultCorrelation.Proofs.Situation.Diagnosis

/-! # Clusters do not depend on what is remembered

A table that fits a topology goes on fitting it, whatever is computed with it. Where weights are
exact and no edge has a negative one, clustering comes to the same in any two topologies that have
the same edges, whatever is remembered of either.
-/

namespace FaultCorrelation

open Weight (IsExact)

namespace DistanceM

variable {W α β : Type} [Weight W] {graph next : Topology W} {action : DistanceM W α}
  {continuation : α → DistanceM W β}

/-- Whether a computation leaves a table that fits a topology fitting it. -/
def Keeps (graph : Topology W) (action : DistanceM W α) : Prop :=
  ∀ cache : DistanceCache W, cache.Fits graph → (action.run.run cache).2.Fits graph

theorem keeps_pure (graph : Topology W) (value : α) : (pure value : DistanceM W α).Keeps graph :=
  fun _ fits => fits

theorem Keeps.bind (first : action.Keeps graph)
    (others : ∀ value, (continuation value).Keeps graph) :
    (action >>= continuation).Keeps graph := by
  intro cache fits
  rw [run_bind]
  cases (action.run.run cache).1 with
  | ok value => exact others value _ (first cache fits)
  | error cause => exact first cache fits

theorem keeps_sequential (graph : Topology W) :
    Sequential fun (α : Type) (action _ : DistanceM W α) => action.Keeps graph :=
  ⟨keeps_pure graph, Keeps.bind⟩

/-- Whether a computation comes to a value, whatever fitting table it starts from, and leaves that
table fitting. -/
def Reports (graph : Topology W) (action : DistanceM W α) (value : α) : Prop :=
  ∀ cache : DistanceCache W, cache.Fits graph →
    (action.run.run cache).1 = .ok value ∧ (action.run.run cache).2.Fits graph

theorem reports_pure (graph : Topology W) (value : α) :
    (pure value : DistanceM W α).Reports graph value :=
  fun _ fits => ⟨rfl, fits⟩

theorem Reports.bind {value : α} {result : β} (first : action.Reports graph value)
    (second : (continuation value).Reports graph result) :
    (action >>= continuation).Reports graph result := by
  intro cache fits
  obtain ⟨came, kept⟩ := first cache fits
  rw [run_bind, came]
  exact second _ kept

/-- Whether a computation about one topology and one about another come to the same. -/
def Concurs (graph next : Topology W) (action other : DistanceM W α) : Prop :=
  ∃ value, action.Reports graph value ∧ other.Reports next value

theorem concurs_sequential (graph next : Topology W) :
    Sequential fun (α : Type) (action other : DistanceM W α) =>
      Concurs graph next action other where
  pure value := ⟨value, reports_pure graph value, reports_pure next value⟩
  bind := by
    rintro α β first second continuation other ⟨value, here, there⟩ later
    obtain ⟨result, before, after⟩ := later value
    exact ⟨result, here.bind before, there.bind after⟩

variable [IsExact W] {a b : VertexId}

theorem keeps_ask (wellFormed : graph.WellFormed) (a b : VertexId) :
    (ask graph a b).Keeps graph :=
  fun _ fits => (fits.distance wellFormed .ascending a b).1

/-- The answer to a question is the distance of the vertices. -/
theorem reports_ask (wellFormed : graph.WellFormed) (positive : graph.NonNegative)
    (first : a ∈ graph.vertices) (second : b ∈ graph.vertices) {distance : W}
    (told : graph.IsDistance a b distance) : (ask graph a b).Reports graph distance := by
  intro cache fits
  obtain ⟨kept, answers⟩ := fits.distance wellFormed .ascending a b
  refine ⟨?_, kept⟩
  rcases answers with ⟨absent, _⟩ | ⟨_, absent, _⟩ | ⟨_, _, answer, came, right⟩
  · exact absurd first absent
  · exact absurd second absent
  · rw [(right positive).eq told] at came
    exact came

theorem exists_isDistance (wellFormed : graph.WellFormed) (positive : graph.NonNegative)
    (a b : VertexId) : ∃ distance, graph.IsDistance a b distance :=
  ⟨_, DistanceCache.isDistance_of_measured (Topology.measured_distancesFrom wellFormed positive a)⟩

theorem concurs_ask (here : graph.WellFormed) (there : next.WellFormed)
    (same : next.edges = graph.edges) (positive : graph.NonNegative)
    (first : a ∈ graph.vertices ∧ b ∈ graph.vertices)
    (second : a ∈ next.vertices ∧ b ∈ next.vertices) :
    Concurs graph next (ask graph a b) (ask next a b) := by
  obtain ⟨distance, told⟩ := exists_isDistance here positive a b
  exact ⟨distance, reports_ask here positive first.1 first.2 told,
    reports_ask there (positive.congr same) second.1 second.2 (told.congr same)⟩

end DistanceM

variable {W : Type} [Weight W] [IsExact W] {graph next : Topology W}

/-- Clusterings in topologies with the same edges come to the same. -/
theorem AlarmClusterer.clusters_concur (clusterer : AlarmClusterer W) (here : graph.WellFormed)
    (there : next.WellFormed) (same : next.edges = graph.edges) (positive : graph.NonNegative)
    {alarms : List LocatedAlarm} (known : ∀ located ∈ alarms, located.vertex ∈ graph.vertices)
    (still : ∀ located ∈ alarms, located.vertex ∈ next.vertices) :
    DistanceM.Concurs graph next (clusterer.clusters graph alarms)
      (clusterer.clusters next alarms) :=
  clusterer.related_clusters (DistanceM.concurs_sequential graph next) graph next
    fun first one second two => DistanceM.concurs_ask here there same positive
      ⟨known first one, known second two⟩ ⟨still first one, still second two⟩

theorem AlarmClusterer.keeps_clusters (clusterer : AlarmClusterer W)
    (wellFormed : graph.WellFormed) (alarms : List LocatedAlarm) :
    (clusterer.clusters graph alarms).Keeps graph :=
  clusterer.related_clusters (DistanceM.keeps_sequential graph) graph graph fun first _ second _ =>
    DistanceM.keeps_ask wellFormed first.vertex second.vertex

theorem Situation.keeps_diagnose (wellFormed : graph.WellFormed) (situation : Situation) :
    (situation.diagnose graph).Keeps graph :=
  situation.related_diagnose (DistanceM.keeps_sequential graph) fun a _ b _ =>
    DistanceM.keeps_ask wellFormed a b

end FaultCorrelation
