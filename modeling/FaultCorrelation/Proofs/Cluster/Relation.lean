import FaultCorrelation.Cluster.Alarms

/-! # Clustering with related answers

All that clustering does with the monad in which it asks for distances is to put questions in
sequence. A relation between computations that goes along with sequencing holds of two clusterings
as soon as it holds of their questions.
-/

namespace FaultCorrelation

/-- Whether a relation between computations goes along with sequencing. -/
structure Sequential {m k : Type → Type} [Monad m] [Monad k]
    (Related : (α : Type) → m α → k α → Prop) : Prop where
  pure {α : Type} (value : α) : Related α (pure value) (pure value)
  bind {α β : Type} {first : m α} {second : k α} {next : α → m β} {other : α → k β} :
    Related α first second → (∀ value, Related β (next value) (other value)) →
      Related β (first >>= next) (second >>= other)

/-- Relations go along with loops over a list. -/
theorem Sequential.foldlM {m k : Type → Type} [Monad m] [Monad k]
    {Related : (α : Type) → m α → k α → Prop} (sequential : Sequential Related) {σ α : Type}
    {step : σ → α → m σ} {other : σ → α → k σ} {items : List α}
    (each : ∀ item ∈ items, ∀ state, Related σ (step state item) (other state item)) (state : σ) :
    Related σ (items.foldlM step state) (items.foldlM other state) := by
  induction items generalizing state with
  | nil => exact sequential.pure state
  | cons first rest ih =>
    rw [List.foldlM_cons, List.foldlM_cons]
    exact sequential.bind (each first (List.mem_cons_self ..) state)
      (ih fun item member => each item (List.mem_cons_of_mem _ member))

/-- A sequence goes on from the value and the state that its first part comes to. -/
theorem run_bind {ε σ α β : Type} (action : ExceptT ε (StateM σ) α)
    (continuation : α → ExceptT ε (StateM σ) β) (state : σ) :
    (action >>= continuation).run.run state =
      match (action.run.run state).1 with
      | .ok value => (continuation value).run.run (action.run.run state).2
      | .error cause => (.error cause, (action.run.run state).2) := by
  change (ExceptT.bind action continuation).run.run state = _
  rw [ExceptT.bind, ExceptT.run_mk, StateT.run_bind]
  change (ExceptT.bindCont continuation (action.run.run state).1).run (action.run.run state).2 = _
  cases (action.run.run state).1 <;> rfl

namespace Density

variable {D : Type} [LE D] [DecidableLE D] {m k : Type → Type} [Monad m] [Monad k]
  {Related : (α : Type) → m α → k α → Prop} {n : Nat} {density : Density D}
  {distance : Fin n → Fin n → m D} {other : Fin n → Fin n → k D}

section

variable (sequential : Sequential Related)
  (answers : ∀ i j, Related D (distance i j) (other i j))
include sequential answers

theorem related_gather (center : Fin n) (points : List (Fin n)) :
    Related _ (density.gather distance center points) (density.gather other center points) := by
  induction points with
  | nil => exact sequential.pure []
  | cons first rest ih =>
    rw [gather, gather]
    split
    · exact sequential.bind ih fun others => sequential.pure (first :: others)
    · exact sequential.bind (answers center first) fun d =>
        sequential.bind ih fun others => sequential.pure _

theorem related_region (center : Fin n) :
    Related _ (density.region distance center) (density.region other center) :=
  related_gather sequential answers center (List.finRange n)

theorem related_grow (steps : Nat) (labels : Vector Label n) (members queue : List (Fin n)) :
    Related _ (density.grow distance steps labels members queue)
      (density.grow other steps labels members queue) := by
  induction steps generalizing labels members queue with
  | zero => exact sequential.pure (labels, members)
  | succ steps ih =>
    cases queue with
    | nil => exact sequential.pure (labels, members)
    | cons point queue =>
      rw [grow, grow]
      split
      · exact ih labels members queue
      · exact ih _ _ queue
      · exact sequential.bind (related_region sequential answers point) fun reached => ih _ _ _

theorem related_sweep (labels : Vector Label n) (seeds : List (Fin n)) :
    Related _ (density.sweep distance labels seeds) (density.sweep other labels seeds) := by
  induction seeds generalizing labels with
  | nil => exact sequential.pure []
  | cons seed rest ih =>
    rw [sweep, sweep]
    split
    · exact ih labels
    · refine sequential.bind (related_region sequential answers seed) fun neighborhood => ?_
      split
      · exact sequential.bind (related_grow sequential answers _ _ _ _) fun grown =>
          sequential.bind (ih grown.1) fun clusters => sequential.pure (grown.2 :: clusters)
      · exact ih _

theorem related_clusters : Related _ (density.clusters distance) (density.clusters other) :=
  related_sweep sequential answers _ _

end

end Density

namespace AlarmClusterer

variable {W : Type} [Weight W] {Related : (α : Type) → DistanceM W α → DistanceM W α → Prop}
  (sequential : Sequential Related) (clusterer : AlarmClusterer W) (graph other : Topology W)
include sequential

/-- Separations of the same alarms in two topologies are related as the questions for distances are,
if the alarms share a vertex in both or in none. -/
theorem related_separation {first second one two : LocatedAlarm} (same : one.alarm = first.alarm)
    (again : two.alarm = second.alarm)
    (shared : first.vertex = second.vertex ↔ one.vertex = two.vertex)
    (asked : Related W (DistanceM.ask graph first.vertex second.vertex)
      (DistanceM.ask other one.vertex two.vertex)) :
    Related W (clusterer.separation graph first second) (clusterer.separation other one two) := by
  rw [separation, separation, same, again]
  by_cases together : first.vertex = second.vertex
  · rw [if_pos together, if_pos (shared.mp together)]
    exact sequential.bind (sequential.pure 0) fun spatial => sequential.pure _
  · rw [if_neg together, if_neg (mt shared.mpr together)]
    exact sequential.bind asked fun spatial => sequential.pure _

/-- Clusterings of the same alarms in two topologies are related as their questions are. -/
theorem related_clusters {alarms : List LocatedAlarm}
    (answers : ∀ first ∈ alarms, ∀ second ∈ alarms,
      Related W (DistanceM.ask graph first.vertex second.vertex)
        (DistanceM.ask other first.vertex second.vertex)) :
    Related _ (clusterer.clusters graph alarms) (clusterer.clusters other alarms) := by
  have given (i : Fin (Sorting.sortBy LocatedAlarm.earlier alarms).toArray.size) :
      (Sorting.sortBy LocatedAlarm.earlier alarms).toArray[i] ∈ alarms :=
    Sorting.mem_sortBy.mp (List.mem_toArray.mp (Array.getElem_mem i.isLt))
  exact sequential.bind
    (Density.related_clusters sequential fun i j => clusterer.related_separation sequential graph
      other rfl rfl Iff.rfl (answers _ (given i) _ (given j)))
    fun groups => sequential.pure _

end AlarmClusterer
end FaultCorrelation
