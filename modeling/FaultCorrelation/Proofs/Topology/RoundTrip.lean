import FaultCorrelation.Proofs.Topology.Resources

/-! # Adding and removing undo each other

An object that is added and removed again leaves the topology as it was, and so does an object that
is removed and added again, as far as resources go. There is one trace: an edge that the object had
declared, and that the resource at its other end declares too, was handed over to that resource on
the removal, and stays with it.

Objects have to be valid for this, and to stand where they belong (`Stocked`), and no vertex may be
unused, since a removal would drop it.
-/

namespace FaultCorrelation.Topology

variable {W : Type} {graph middle back next : Topology W} {object : InventoryObject W}

/-- What holds of the edges of one resource and of all edges of others holds of all edges. -/
theorem tieBetween?_induction {motive : Option (Tie W) → Option (Tie W) → Prop}
    (key : ResourceKey)
    (apart : ∀ first second, first ≠ key → second ≠ key →
      motive (next.tieBetween? first second) (graph.tieBetween? first second))
    (own : ∀ other, motive (next.tieBetween? key other) (graph.tieBetween? key other))
    (first second : ResourceKey) :
    motive (next.tieBetween? first second) (graph.tieBetween? first second) := by
  by_cases one : first = key
  · subst one
    exact own second
  by_cases two : second = key
  · subst two
    rw [tieBetween?_comm next, tieBetween?_comm graph]
    exact own first
  exact apart first second one two

/-- What an edge of a resource carries once the object of the resource has been removed and added
again: what the other end declares if the object held the edge and the other end declares it. -/
def handedOver (graph : Topology W) (key other : ResourceKey) (tie : Tie W) : Tie W :=
  if tie.declaredBy = key then (graph.declaration? other key).getD tie else tie

section Edges

variable (wellFormed : graph.WellFormed) (declared : graph.Declared fun _ => False)
  (between : middle.WellFormed) (kept : middle.Declared fun _ => False) (after : back.WellFormed)
include wellFormed declared between kept after

/-- Removing an object takes away the edges that adding it has brought, and no others. -/
theorem Added.tieBetween?_removed (added : Added graph middle object)
    (bare : graph.objectFor? object.key = none) (removed : Removed middle back object.key)
    (first second : ResourceKey) :
    back.tieBetween? first second = graph.tieBetween? first second := by
  refine tieBetween?_induction (motive := Eq) object.key (fun first second one two => ?_)
    (fun other => ?_) first second
  · rw [removed.tieBetween?_of_ne between after kept one two,
      added.tieBetween?_of_ne wellFormed declared between kept one two]
  by_cases same : object.key = other
  · rw [← same, after.tieBetween?_self, wellFormed.tieBetween?_self]
  rw [removed.tieBetween?_eq between after,
    added.tieBetween?_eq wellFormed declared between kept same,
    added.declaration?_eq (Ne.symm same)]
  cases joined : graph.tieBetween? object.key other with
  | some tie =>
    -- An edge that was there is declared from its other end.
    have declares : graph.declaration? other object.key = some tie := by
      refine (declared.exists_declaration? wellFormed joined).resolve_left fun absurd => ?_
      rw [declaration?, bare] at absurd
      contradiction
    have remains : tie.declaredBy ≠ object.key :=
      declaredBy_of_declaration? declares ▸ Ne.symm same
    rw [Option.some_or, Option.bind_some, if_neg remains]
  | none =>
    rw [Option.none_or]
    -- There would have been an edge already if the other resource declared one.
    rw [tieBetween?_comm] at joined
    have silent := declared.declaration?_eq_none wellFormed joined (Ne.symm same)
    cases declares : middle.declaration? object.key other with
    | none => rfl
    | some tie =>
      rw [Option.bind_some, if_pos (declaredBy_of_declaration? declares), silent]

/-- Adding an object brings back the edges that removing it has taken away. The edges that it held
are handed over where the other end declares them too. -/
theorem Removed.tieBetween?_added (removed : Removed graph middle object.key)
    (held : graph.objectFor? object.key = some object) (added : Added middle back object)
    (still : back.Declared fun _ => False) (other : ResourceKey) :
    back.tieBetween? object.key other =
      (graph.tieBetween? object.key other).map (graph.handedOver object.key other) := by
  by_cases same : object.key = other
  · rw [← same, after.tieBetween?_self, wellFormed.tieBetween?_self, Option.map_none]
  have again : back.declaration? object.key other = graph.declaration? object.key other := by
    rw [declaration?, declaration?, added.objectFor?_eq, if_pos rfl, held, added.weights,
      removed.weights]
  rw [added.tieBetween?_eq between kept after still same, again,
    removed.tieBetween?_eq wellFormed between]
  cases joined : graph.tieBetween? object.key other with
  | none =>
    rw [Option.bind_none, Option.none_or, Option.map_none]
    exact declared.declaration?_eq_none wellFormed joined same
  | some tie =>
    rw [Option.bind_some, Option.map_some, handedOver]
    split
    · rename_i own
      have declares : graph.declaration? object.key other = some tie := by
        refine (declared.exists_declaration? wellFormed joined).resolve_right fun absurd => ?_
        exact same (own.symm.trans (declaredBy_of_declaration? absurd))
      rw [declares]
      cases graph.declaration? other object.key <;> rfl
    · rfl

end Edges

theorem WellFormed.objectFor?_prune (wellFormed : graph.WellFormed) (id : VertexId)
    (key : ResourceKey) : (graph.prune id).1.objectFor? key = graph.objectFor? key := by
  refine Option.ext fun object => ?_
  simp only [(wellFormed.prune id).objectFor?_eq_some, wellFormed.objectFor?_eq_some,
    objectAt?_prune]
  refine exists_congr fun other => and_congr_left fun held => ?_
  obtain ⟨name, named⟩ := exists_keyAt?_of_object ((objectAt?_prune graph other id).trans held)
  rw [named, named_of_prune named]

variable [Weight W]

/-- Whether every object that is attached is valid and stands for its resource. -/
def Stocked (graph : Topology W) : Prop :=
  ∀ (key : ResourceKey) (object : InventoryObject W), graph.objectFor? key = some object →
    object.IsValid ∧ object.key = key

theorem Stocked.congr (stocked : graph.Stocked)
    (same : ∀ key, next.objectFor? key = graph.objectFor? key) : next.Stocked :=
  fun key object attached => stocked key object ((same key).symm.trans attached)

theorem Stocked.addObject (stocked : graph.Stocked) (wellFormed : graph.WellFormed)
    (change : InventoryChange) (valid : object.IsValid) :
    (graph.addObject change object).1.Stocked := by
  have acceptable := valid.isAcceptable
  by_cases bare : graph.objectFor? object.key = none
  · have added := wellFormed.added change acceptable bare
    intro key other held
    rw [added.objectFor?_eq] at held
    split at held
    · rename_i same
      obtain rfl := Option.some.inj held
      exact ⟨valid, same.symm⟩
    · exact stocked key other held
  · rw [wellFormed.addObject_eq change acceptable, if_pos (Option.isSome_iff_ne_none.mpr bare)]
    exact stocked.congr ((wellFormed.extends_ensureVertex object.key).grows.objectFor?_eq wellFormed
      (wellFormed.ensureVertex object.key))

theorem Stocked.removed {key : ResourceKey} (stocked : graph.Stocked)
    (removed : Removed graph next key) (before : graph.WellFormed) (after : next.WellFormed) :
    next.Stocked := by
  intro name object held
  rw [removed.objectFor?_eq before after] at held
  split at held
  · contradiction
  · exact stocked name object held

/-- Operations that add valid objects only keep all objects valid and in their places. -/
theorem Stocked.operate (stocked : graph.Stocked) (wellFormed : graph.WellFormed)
    (declared : graph.Declared fun _ => True) {operation : Operation W}
    (valid : ∀ objects, operation = .addInventory objects → ∀ object ∈ objects, object.IsValid) :
    (graph.operate operation).Stocked := by
  have after := wellFormed.operate operation
  cases operation with
  | addInventory objects =>
    refine (List.foldlRecOn objects _ (motive := fun (before : Topology W × InventoryChange) =>
      before.1.WellFormed ∧ before.1.Stocked) ⟨wellFormed, stocked⟩ ?_).2
    rintro ⟨before, change⟩ ⟨wellFormed, stocked⟩ object member
    exact ⟨wellFormed.addObject change object,
      stocked.addObject wellFormed change (valid objects rfl object member)⟩
  | removeInventory objects =>
    refine (List.foldlRecOn objects _ (motive := fun (before : Topology W × InventoryChange) =>
      (before.1.WellFormed ∧ before.1.Declared fun _ => True) ∧ before.1.Stocked)
      ⟨⟨wellFormed, declared⟩, stocked⟩ ?_).2
    rintro ⟨before, change⟩ ⟨⟨wellFormed, declared⟩, stocked⟩ object _
    have removed := declared.removed wellFormed change object
    have after := wellFormed.batch (batch_removeObject wellFormed change object)
    exact ⟨⟨after, removed.declared after wellFormed declared⟩,
      stocked.removed removed wellFormed after⟩
  | putAlarm alarm =>
    rw [Topology.operate] at after ⊢
    cases held : graph.putAlarm alarm with
    | error cause => exact stocked
    | ok result =>
      rw [held] at after
      exact stocked.congr ((wellFormed.extends_putAlarm held).grows.objectFor?_eq wellFormed after)
  | eraseAlarm id alarm =>
    exact stocked.congr ((extends_eraseAlarm graph id alarm).grows.objectFor?_eq wellFormed after)
  | prune id => exact stocked.congr (wellFormed.objectFor?_prune id)
  | setClock now => exact stocked.congr fun _ => rfl

theorem stocked_operateAll {weights : EdgeWeights W} {operations : List (Operation W)}
    (valid : ∀ objects, .addInventory objects ∈ operations → ∀ object ∈ objects, object.IsValid) :
    ((empty weights).operateAll operations).Stocked := by
  induction operations using List.reverseRecOn with
  | nil => exact fun key object held => by simp [operateAll, empty, objectFor?, vertexFor?] at held
  | append_singleton before operation ih =>
    rw [operateAll_append]
    refine (ih fun objects member => valid objects (List.mem_append_left _ member)).operate
      ((wellFormed_empty weights).operateAll before) (declarer_operateAll weights before) ?_
    rintro objects rfl
    exact valid objects (by simp)

section RoundTrip

variable (wellFormed : graph.WellFormed) (declared : graph.Declared fun _ => False)
  (used : graph.InUse fun _ => False) (usable : ∀ kind, Weight.usable (graph.weights.of kind))
include wellFormed declared used usable

theorem remove_add (valid : object.IsValid) (bare : graph.objectFor? object.key = none) :
    let back := ((graph.addInventory [object]).1.removeInventory [object]).1
    graph.SameResources back ∧
      ∀ first second, back.tieBetween? first second = graph.tieBetween? first second := by
  have added := wellFormed.added {} valid.isAcceptable bare
  have between := wellFormed.addObject {} object
  have kept := (declared.addObject wellFormed {} object).2 (valid.isLinkable usable)
  have removed := kept.removed between {} object
  have batch := batch_removeObject between {} object
  have steps := steps_of_batch batch
  have after := between.steps steps
  have edges := added.tieBetween?_removed wellFormed declared between kept after bare removed
  refine ⟨used.sameResources wellFormed ((used.addObject wellFormed {} object).removeObject
    between {} object) after (fun key => ?_) (fun key alarm => ?_) fun first second => ?_, edges⟩
  · refine (removed.objectFor?_eq between after key).trans ?_
    rw [added.objectFor?_eq]
    split
    · rename_i same
      rw [same, bare]
    · rfl
  · exact (alarmFor?_batch batch between key alarm).trans
      (alarmFor?_batch (batch_addObject wellFormed {} object) wellFormed key alarm)
  · exact congrArg Option.isSome (edges first second)

theorem add_remove {attached : InventoryObject W} (valid : attached.IsValid)
    (named : attached.key = object.key) (held : graph.objectFor? attached.key = some attached) :
    let back := ((graph.removeInventory [object]).1.addInventory [attached]).1
    graph.SameResources back ∧
      (∀ first second, first ≠ attached.key → second ≠ attached.key →
        back.tieBetween? first second = graph.tieBetween? first second) ∧
      ∀ other, back.tieBetween? attached.key other =
        (graph.tieBetween? attached.key other).map (graph.handedOver attached.key other) := by
  have removed := declared.removed wellFormed {} object
  rw [← named] at removed
  have batch := batch_removeObject wellFormed {} object
  have between := wellFormed.batch batch
  have kept := removed.declared between wellFormed declared
  have bare : (graph.removeObject {} object).1.objectFor? attached.key = none := by
    rw [removed.objectFor?_eq wellFormed between, if_pos rfl]
  have added := between.added {} valid.isAcceptable bare
  have after := between.addObject {} attached
  have still := (kept.addObject between {} attached).2
    (valid.isLinkable (removed.weights.symm ▸ usable))
  have own := removed.tieBetween?_added wellFormed declared between kept after held added still
  have apart (first second : ResourceKey) (one : first ≠ attached.key)
      (two : second ≠ attached.key) :=
    (added.tieBetween?_of_ne between kept after still one two).trans
      (removed.tieBetween?_of_ne wellFormed between declared one two)
  refine ⟨used.sameResources wellFormed ((used.removeObject wellFormed {} object).addObject
    between {} attached) after (fun key => ?_) (fun key alarm => ?_) ?_, apart, own⟩
  · refine (added.objectFor?_eq key).trans ?_
    rw [removed.objectFor?_eq wellFormed between]
    split
    · rename_i same
      rw [same, held]
    · rfl
  · exact (alarmFor?_batch (batch_addObject between {} attached) between key alarm).trans
      (alarmFor?_batch batch wellFormed key alarm)
  · refine tieBetween?_induction (motive := fun here there => here.isSome = there.isSome)
      attached.key (fun first second one two => ?_) fun other => ?_
    · exact congrArg Option.isSome (apart first second one two)
    · exact (congrArg Option.isSome (own other)).trans Option.isSome_map

end RoundTrip

variable {weights : EdgeWeights W} {operations : List (Operation W)}

/-- Inventory round trips, as seen from the resources. An object that is added where there was none
and removed again leaves everything as it was. So does an object that is removed and added again,
but for the edges that it held and that are declared from their other ends as well: these are handed
over. -/
theorem inventory_round_trips (usable : ∀ kind, Weight.usable (weights.of kind))
    (valid : ∀ objects, .addInventory objects ∈ operations → ∀ object ∈ objects, object.IsValid)
    (used : ∀ id, ¬ ((empty weights).operateAll operations).isUnused id)
    (object : InventoryObject W) :
    let graph := (empty weights).operateAll operations
    (object.IsValid → graph.objectFor? object.key = none →
      let back := ((graph.addInventory [object]).1.removeInventory [object]).1
      graph.SameResources back ∧
        ∀ first second, back.tieBetween? first second = graph.tieBetween? first second) ∧
    ∀ attached, graph.objectFor? object.key = some attached →
      let back := ((graph.removeInventory [object]).1.addInventory [attached]).1
      graph.SameResources back ∧
        (∀ first second, first ≠ object.key → second ≠ object.key →
          back.tieBetween? first second = graph.tieBetween? first second) ∧
        ∀ other, back.tieBetween? object.key other =
          (graph.tieBetween? object.key other).map (graph.handedOver object.key other) := by
  obtain ⟨wellFormed, configured, declared⟩ := declared_operateAll usable valid
  have stocked : ((empty weights).operateAll operations).Stocked := stocked_operateAll valid
  generalize (empty weights).operateAll operations = graph at *
  subst configured
  refine ⟨remove_add wellFormed declared used usable, fun attached held => ?_⟩
  obtain ⟨fit, named⟩ := stocked _ _ held
  rw [← named] at held ⊢
  exact add_remove wellFormed declared used usable fit named held

/-- A host that names `a` twice, a host that is not known, and itself. -/
def visitingHost : InventoryObject ℚ :=
  { InventoryObject.bare "node" "c" with
    peers := [⟨⟨"node", "a"⟩, some 5⟩, ⟨⟨"node", "d"⟩, none⟩, ⟨⟨"node", "c"⟩, none⟩]
    relatives := [⟨⟨"node", "a"⟩, none⟩] }

/-- A new host leaves no trace. When `a` goes and comes back the edge to `b` is `b`'s own. -/
theorem inventory_round_trips_handed_over :
    let graph := (empty ⟨1, 2, 4⟩).operateAll [.addInventory pairedHosts]
    (∀ id, ¬ graph.isUnused id) ∧ visitingHost.IsValid ∧
      graph.objectFor? visitingHost.key = none ∧
      graph.SameResources
        ((graph.addInventory [visitingHost]).1.removeInventory [visitingHost]).1 ∧
      (graph.tieBetween? ⟨["node", "a"]⟩ ⟨["node", "b"]⟩).map
        (fun tie => (tie.weight, tie.declaredBy)) = some (3, ⟨["node", "a"]⟩) ∧
      ∃ attached, graph.objectFor? ⟨["node", "a"]⟩ = some attached ∧
        (((graph.removeInventory [.bare "node" "a"]).1.addInventory [attached]).1.tieBetween?
          ⟨["node", "a"]⟩ ⟨["node", "b"]⟩).map (fun tie => (tie.weight, tie.declaredBy)) =
            some (2, ⟨["node", "b"]⟩) := by
  intro graph
  have usable (kind : RelationKind) : Weight.usable ((⟨1, 2, 4⟩ : EdgeWeights ℚ).of kind) := by
    cases kind <;> decide +kernel
  have valid (objects : List (InventoryObject ℚ))
      (member : .addInventory objects ∈ [Operation.addInventory pairedHosts]) :
      ∀ object ∈ objects, object.IsValid := by
    obtain rfl : objects = pairedHosts := by simpa using member
    decide +kernel
  have used : graph.InUse fun _ => False :=
    InUse.addInventory (fun id unused => by simp [isUnused, empty] at unused)
      (wellFormed_empty _) pairedHosts
  have fit : visitingHost.IsValid := by decide +kernel
  have bare : graph.objectFor? visitingHost.key = none := by
    rw [← Option.not_isSome_iff_eq_none]
    decide +kernel
  obtain ⟨there, _⟩ := inventory_round_trips usable valid used visitingHost
  obtain ⟨_, back⟩ := inventory_round_trips usable valid used (.bare "node" "a")
  have known : (graph.objectFor? ⟨["node", "a"]⟩).isSome := by decide +kernel
  obtain ⟨attached, held⟩ := Option.isSome_iff_exists.mp known
  refine ⟨used, fit, bare, (there fit bare).1, by decide +kernel, attached, held, ?_⟩
  have handed := (back attached held).2.2 ⟨["node", "b"]⟩
  refine (congrArg (Option.map _) handed).trans ?_
  decide +kernel

end FaultCorrelation.Topology
