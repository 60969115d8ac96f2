import FaultCorrelation.Proofs.Distance.Walk
import FaultCorrelation.Proofs.Topology.Location

/-! # Topologies that number lone vertices differently

A vertex that goes and comes back gets a new number. Only a vertex without edges goes, so topologies
that have come from one by holding alarms and letting go of them have the same edges, and the
vertices at the ends of these stand for the same resources (`Matches`). A lone vertex may have
another number in each, which no distance can tell: from a lone vertex there is no path.
-/

namespace FaultCorrelation.Topology

open Weight (IsOrdered)

variable {W : Type} {graph next last : Topology W} {a b c d id : VertexId}

/-- Whether an edge ends at a vertex. -/
def IsJoined (graph : Topology W) (id : VertexId) : Prop :=
  ∃ other, VertexPair.of id other ∈ graph.edges

/-- Whether two topologies have the same edges between the same resources. -/
structure Matches (graph next : Topology W) : Prop where
  edges_eq : next.edges = graph.edges
  named {id : VertexId} : graph.IsJoined id → next.keyAt? id = graph.keyAt? id

namespace Matches

theorem refl (graph : Topology W) : graph.Matches graph := ⟨rfl, fun _ => rfl⟩

theorem symm (same : graph.Matches next) : next.Matches graph where
  edges_eq := same.edges_eq.symm
  named joined := (same.named (by rwa [IsJoined, same.edges_eq] at joined)).symm

theorem trans (first : graph.Matches next) (second : next.Matches last) : graph.Matches last where
  edges_eq := second.edges_eq.trans first.edges_eq
  named joined :=
    (second.named (by rwa [IsJoined, first.edges_eq])).trans (first.named joined)

end Matches

namespace WellFormed

variable (wellFormed : graph.WellFormed)
include wellFormed

theorem exists_keyAt?_of_joined (joined : graph.IsJoined id) :
    ∃ key, graph.keyAt? id = some key := by
  obtain ⟨other, joined⟩ := joined
  exact exists_keyAt? (wellFormed.of_mem_edges joined).2.1

/-- One topology matches another if it only adds vertices. -/
theorem matches_of_extends (extended : next.Extends graph) : graph.Matches next where
  edges_eq := extended.edges
  named joined := by
    obtain ⟨key, named⟩ := wellFormed.exists_keyAt?_of_joined joined
    rw [named, extended.key named]

theorem matches_putAlarm {alarm : Alarm} {made : Bool}
    (held : graph.putAlarm alarm = .ok (next, id, made)) : graph.Matches next :=
  wellFormed.matches_of_extends (wellFormed.extends_putAlarm held)

theorem matches_releaseAlarm (id : VertexId) (alarm : String) :
    graph.Matches (graph.releaseAlarm id alarm) where
  edges_eq := edges_prune _ id
  named {other} joined := by
    have after := wellFormed.steps (steps_releaseAlarm graph id alarm)
    have edges : (graph.releaseAlarm id alarm).edges = graph.edges := edges_prune _ id
    have still : (graph.releaseAlarm id alarm).IsJoined other := by rwa [IsJoined, edges]
    obtain ⟨key, named⟩ := after.exists_keyAt?_of_joined still
    rw [named, keyAt?_of_releaseAlarm named]

theorem matches_clock (now : Int) : graph.Matches { graph with clock := now } :=
  wellFormed.matches_of_extends (extends_clock graph now)

end WellFormed

/-- Whether vertices of two topologies stand for one resource. -/
def Corresponds (graph next : Topology W) (id other : VertexId) : Prop :=
  ∃ key, graph.keyAt? id = some key ∧ next.keyAt? other = some key

theorem Corresponds.symm (same : Corresponds graph next a c) : Corresponds next graph c a :=
  same.imp fun _ => And.symm

theorem Corresponds.mem (same : Corresponds graph next a c) :
    a ∈ graph.vertices ∧ c ∈ next.vertices := by
  obtain ⟨_, one, other⟩ := same
  obtain ⟨_, here, _⟩ := Option.map_eq_some_iff.mp one
  obtain ⟨_, there, _⟩ := Option.map_eq_some_iff.mp other
  exact ⟨Collections.mem_of_getElem? here, Collections.mem_of_getElem? there⟩

section Corresponding

variable (here : graph.WellFormed) (there : next.WellFormed)
  (first : Corresponds graph next a c) (second : Corresponds graph next b d)
include here there first

theorem Corresponds.eq_iff (second : Corresponds graph next b d) : a = b ↔ c = d := by
  obtain ⟨key, one, other⟩ := first
  obtain ⟨name, two, another⟩ := second
  constructor
  · rintro rfl
    obtain rfl := Option.some.inj (one.symm.trans two)
    exact there.eq_of_keyAt? other another
  · rintro rfl
    obtain rfl := Option.some.inj (other.symm.trans another)
    exact here.eq_of_keyAt? one two

/-- A vertex has one number in topologies that match, or it is lone in both. -/
theorem Matches.eq_or_lone (same : graph.Matches next) :
    a = c ∨ ¬ graph.IsJoined a ∧ ¬ next.IsJoined c := by
  obtain ⟨key, one, other⟩ := first
  by_cases joined : graph.IsJoined a
  · exact .inl (there.eq_of_keyAt? ((same.named joined).trans one) other)
  · refine or_iff_not_imp_right.mpr fun either => ?_
    have joined : next.IsJoined c := by
      by_contra lone
      exact either ⟨joined, lone⟩
    exact here.eq_of_keyAt? one ((same.symm.named joined).trans other)

end Corresponding

/-- Whether two topologies match and find every alarm at the vertices of one resource, if at all. -/
structure Alike (graph next : Topology W) : Prop where
  here : graph.WellFormed
  there : next.WellFormed
  matched : graph.Matches next
  located (alarm : Alarm) :
    Option.Rel (Corresponds graph next) (graph.vertexOfAlarm? alarm) (next.vertexOfAlarm? alarm)

theorem Alike.symm (alike : Alike graph next) : Alike next graph where
  here := alike.there
  there := alike.here
  matched := alike.matched.symm
  located alarm := by
    have either := alike.located alarm
    generalize graph.vertexOfAlarm? alarm = id, next.vertexOfAlarm? alarm = other at either ⊢
    cases either with
    | none => exact .none
    | some same => exact .some same.symm

section Distances

variable [Weight W]

theorem not_walk_from {cost : W} (lone : ¬ graph.IsJoined a) (different : a ≠ b) :
    ¬ graph.Walk a b cost := by
  intro walk
  induction walk with
  | start => exact different rfl
  | @step u v _ _ _ joined ih =>
    by_cases onward : a = u
    · subst onward
      exact lone ⟨v, Collections.mem_of_getElem? joined⟩
    · exact ih onward

theorem not_walk_to {cost : W} (lone : ¬ graph.IsJoined b) (different : a ≠ b) :
    ¬ graph.Walk a b cost := by
  intro walk
  cases walk with
  | start => exact different rfl
  | @step u _ _ _ _ joined =>
    exact lone ⟨u, VertexPair.of_comm u b ▸ Collections.mem_of_getElem? joined⟩

/-- The distance of two resources is the same in topologies that match. -/
theorem Matches.isDistance [IsOrdered W] (same : graph.Matches next) (here : graph.WellFormed)
    (there : next.WellFormed) (positive : graph.NonNegative)
    (first : Corresponds graph next a c) (second : Corresponds graph next b d) {distance : W}
    (told : graph.IsDistance a b distance) : next.IsDistance c d distance := by
  by_cases one : a = b
  · subst one
    rw [told.eq (isDistance_self positive a), ← (first.eq_iff here there second).mp rfl]
    exact isDistance_self (positive.congr same.edges_eq) c
  have other : c ≠ d := fun equal => one ((first.eq_iff here there second).mpr equal)
  -- If one of the two has another number, it is lone, and there is no path in either topology.
  have apart (none : ∀ cost, ¬ graph.Walk a b cost) (nowhere : ∀ cost, ¬ next.Walk c d cost) :
      next.IsDistance c d distance := by
    rcases told with shortest | ⟨_, rfl⟩
    · exact absurd shortest.walk (none _)
    · exact .inr ⟨nowhere, rfl⟩
  rcases same.eq_or_lone here there first with rfl | ⟨lone, alone⟩
  · rcases same.eq_or_lone here there second with rfl | ⟨lone, alone⟩
    · exact told.congr same.edges_eq
    · exact apart (fun _ => not_walk_to lone one) fun _ => not_walk_to alone other
  · exact apart (fun _ => not_walk_from lone one) fun _ => not_walk_from alone other

end Distances
end FaultCorrelation.Topology
