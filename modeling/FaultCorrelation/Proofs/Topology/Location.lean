import FaultCorrelation.Proofs.Topology.Declared

/-! # Where alarms are held

Inventory moves no alarm: after a batch each alarm is held where it was, and the vertices that hold
alarms keep their keys. Holding an alarm and letting go of one change what is held under that id at
that vertex and nothing else.
-/

namespace FaultCorrelation.Topology

open Std

variable {W : Type} {graph next : Topology W} {id other : VertexId} {alarm : String} {copy : Alarm}
variable {key : ResourceKey}

theorem exists_keyAt?_of_alarm (held : graph.alarmAt? id alarm = some copy) :
    ∃ key, graph.keyAt? id = some key := by
  obtain ⟨_, there, _⟩ := Option.bind_eq_some_iff.mp held
  exact exists_keyAt? (Collections.mem_of_getElem? there)

theorem WellFormed.alarmAt?_ensureVertex (wellFormed : graph.WellFormed) (key : ResourceKey)
    (id : VertexId) (alarm : String) :
    (graph.ensureVertex key).1.alarmAt? id alarm = graph.alarmAt? id alarm := by
  rw [Topology.ensureVertex]
  split
  · rfl
  rw [alarmAt?, alarmAt?, ExtTreeMap.getElem?_insert]
  split
  · rename_i made
    have fresh : graph.vertices[graph.nextId]? = none :=
      ExtTreeMap.getElem?_eq_none fun member => Nat.lt_irrefl _ (wellFormed.id_lt member)
    rw [← LawfulEqOrd.eq_of_compare made, fresh]
    rfl
  · rfl

/-- A vertex that is dropped held no alarm. -/
theorem alarmAt?_prune (graph : Topology W) (other id : VertexId) (alarm : String) :
    (graph.prune other).1.alarmAt? id alarm = graph.alarmAt? id alarm := by
  rcases WellFormed.prune_cases graph other with same | ⟨vertex, there, unused, dropped⟩
  · rw [same]
  rw [dropped, alarmAt?, alarmAt?, ExtTreeMap.getElem?_erase]
  split
  · rename_i here
    rw [← LawfulEqOrd.eq_of_compare here, there]
    rw [isUnused, there, Bool.and_eq_true, Option.any_some, Bool.and_eq_true, Vertex.isActive,
      Bool.not_not, ExtTreeMap.isEmpty_iff] at unused
    rw [Option.bind_some, unused.1.1]
    rfl
  · rfl

theorem BatchStep.alarmAt?_eq {before after : Topology W × InventoryChange}
    (step : BatchStep before after) (wellFormed : before.1.WellFormed) (id : VertexId)
    (alarm : String) : after.1.alarmAt? id alarm = before.1.alarmAt? id alarm := by
  cases step with
  | ensureVertex key => exact wellFormed.alarmAt?_ensureVertex key id alarm
  | annotate other kept =>
    rw [alarmAt?_updateVertex]
    split
    · exact Option.bind_congr fun vertex _ => by rw [(kept vertex).2]
    · rfl
  | link edge here there => exact alarmAt?_congr (vertices_link _ _ _ edge) id alarm
  | unlink joined =>
    rw [Topology.unlink, if_pos joined]
    rfl
  | handOver edge joined => rfl
  | prune other => exact alarmAt?_prune before.1 other id alarm
  | skip => rfl

theorem BatchStep.keyAt?_eq {before after : Topology W × InventoryChange}
    (step : BatchStep before after) (wellFormed : before.1.WellFormed)
    (held : before.1.alarmAt? id alarm = some copy) :
    after.1.keyAt? id = before.1.keyAt? id := by
  have still : after.1.alarmAt? id alarm = some copy :=
    (step.alarmAt?_eq wellFormed id alarm).trans held
  obtain ⟨key, named⟩ := exists_keyAt?_of_alarm held
  cases step with
  | ensureVertex other => rw [named, (wellFormed.extends_ensureVertex other).key named]
  | annotate other kept =>
    rw [keyAt?, keyAt?, WellFormed.getElem?_updateVertex]
    split
    · rw [Option.map_map]
      exact Option.map_congr fun vertex _ => (kept vertex).1.2
    · rfl
  | link edge here there => rw [keyAt?, vertices_link, keyAt?]
  | unlink joined =>
    rw [Topology.unlink, if_pos joined]
    rfl
  | handOver edge joined => rfl
  | prune other =>
    obtain ⟨name, called⟩ := exists_keyAt?_of_alarm still
    rw [called, named_of_prune called]
  | skip => rfl

theorem alarmAt?_batch {before after : Topology W × InventoryChange}
    (wellFormed : before.1.WellFormed) (batch : Batch before after) (id : VertexId)
    (alarm : String) : after.1.alarmAt? id alarm = before.1.alarmAt? id alarm := by
  induction batch with
  | refl => rfl
  | tail batch step ih => exact (step.alarmAt?_eq (wellFormed.batch batch) id alarm).trans ih

theorem keyAt?_batch {before after : Topology W × InventoryChange}
    (wellFormed : before.1.WellFormed) (batch : Batch before after)
    (held : before.1.alarmAt? id alarm = some copy) :
    after.1.keyAt? id = before.1.keyAt? id := by
  induction batch with
  | refl => rfl
  | tail batch step ih =>
    have still := (alarmAt?_batch wellFormed batch id alarm).trans held
    exact (step.keyAt?_eq (wellFormed.batch batch) still).trans ih

theorem WellFormed.alarmAt?_putAlarm (wellFormed : graph.WellFormed) {put : Alarm} {made : Bool}
    (held : graph.putAlarm put = .ok (next, id, made)) (other : VertexId) (alarm : String) :
    next.alarmAt? other alarm =
      if id = other ∧ put.id = alarm then some put else graph.alarmAt? other alarm := by
  obtain ⟨key, _, rfl, rfl⟩ := putAlarm_spec held
  obtain ⟨_, vertex, there, _⟩ := wellFormed.ensureVertex_spec key
  rw [alarmAt?_updateVertex]
  split
  · rename_i here
    subst here
    rw [there, Option.bind_some, Vertex.putAlarm, ExtTreeMap.getElem?_insert]
    simp only [LawfulEqOrd.compare_eq_iff_eq, true_and]
    split
    · rfl
    · rw [← wellFormed.alarmAt?_ensureVertex key, alarmAt?, there, Option.bind_some]
  · rename_i elsewhere
    rw [if_neg fun both => elsewhere both.1, wellFormed.alarmAt?_ensureVertex]

/-- An alarm is held by the vertex of its own resource. -/
theorem WellFormed.keyAt?_putAlarm (wellFormed : graph.WellFormed) {put : Alarm} {made : Bool}
    (held : graph.putAlarm put = .ok (next, id, made)) :
    ∃ key, put.resource = some key ∧ next.keyAt? id = some key := by
  obtain ⟨key, resource, rfl, rfl⟩ := putAlarm_spec held
  obtain ⟨_, vertex, there, named⟩ := wellFormed.ensureVertex_spec key
  refine ⟨key, resource, ?_⟩
  rw [keyAt?, WellFormed.getElem?_updateVertex, if_pos rfl, there, Option.map_map, Option.map_some]
  exact congrArg some named

theorem alarmAt?_eraseAlarm (graph : Topology W) (id : VertexId) (erased : String)
    (other : VertexId) (alarm : String) : (graph.eraseAlarm id erased).alarmAt? other alarm =
      if id = other ∧ erased = alarm then none else graph.alarmAt? other alarm := by
  rw [eraseAlarm, alarmAt?_updateVertex, alarmAt?]
  by_cases here : id = other
  case neg => rw [if_neg here, if_neg fun both => here both.1]
  rw [if_pos here]
  simp only [here, true_and]
  cases graph.vertices[other]? with
  | none => simp
  | some vertex =>
    rw [Option.bind_some, Option.bind_some, Vertex.eraseAlarm]
    split
    · simp only [ExtTreeMap.getElem?_erase, LawfulEqOrd.compare_eq_iff_eq]
    · rename_i absent
      split
      · rename_i same
        rw [← same, ExtTreeMap.getElem?_eq_none absent]
      · rfl

theorem alarmAt?_releaseAlarm (graph : Topology W) (id : VertexId) (released : String)
    (other : VertexId) (alarm : String) : (graph.releaseAlarm id released).alarmAt? other alarm =
      if id = other ∧ released = alarm then none else graph.alarmAt? other alarm :=
  (alarmAt?_prune ..).trans (alarmAt?_eraseAlarm ..)

theorem keyAt?_of_releaseAlarm {released : String}
    (named : (graph.releaseAlarm id released).keyAt? other = some key) :
    graph.keyAt? other = some key := by
  have named := named_of_prune named
  rw [eraseAlarm, keyAt?, WellFormed.getElem?_updateVertex] at named
  split at named
  · rw [Option.map_map] at named
    rw [← named, keyAt?]
    refine Option.map_congr fun vertex _ => ?_
    rw [Function.comp, Vertex.eraseAlarm]
    split <;> rfl
  · exact named

end FaultCorrelation.Topology
