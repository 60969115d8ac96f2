import FaultCorrelation.Proofs.Topology.Usable

/-! # Objects that are skipped

An object is skipped for one of two reasons. If it is not acceptable it is turned away before
anything is done, and leaves no trace. If it is acceptable it may still break off, at a relation
that cannot be linked. It is attached by then, and the relations before that one have been linked:
all of this stays, although the object is counted as skipped.

So the skipped objects of a batch might as well have been left out, provided that none of them
breaks off.
-/

namespace FaultCorrelation.Topology

open Std

variable {W : Type} [Weight W] {graph : Topology W}

/-- The object that is attached for a resource. -/
def objectFor? (graph : Topology W) (key : ResourceKey) : Option (InventoryObject W) :=
  (graph.vertexFor? key).bind Vertex.inventory

/-- Whether an object is taken in only up to a relation that cannot be linked. -/
def BreaksOff (graph : Topology W) (object : InventoryObject W) : Prop :=
  object.isAcceptable ∧ graph.objectFor? object.key = none ∧
    ∃ declaration ∈ object.declarations graph.weights, ¬ isLinkable declaration

/-- Whether an object is counted as skipped if it comes next. -/
def Skips (graph : Topology W) (object : InventoryObject W) : Prop :=
  (graph.addObject {} object).2.skipped = 1

instance (graph : Topology W) (object : InventoryObject W) : Decidable (graph.Skips object) :=
  inferInstanceAs (Decidable (_ = _))

/-- The objects of a batch that are not skipped. -/
def kept : Topology W → List (InventoryObject W) → List (InventoryObject W)
  | _, [] => []
  | graph, object :: rest =>
    if graph.Skips object then kept (graph.addObject {} object).1 rest
    else object :: kept (graph.addObject {} object).1 rest

/-- What linking does to the graph does not depend on what was counted before; one more object is
skipped if a relation cannot be linked. -/
theorem linkAll_counting (id : VertexId) (owner : ResourceKey) (graph : Topology W)
    (change : InventoryChange) (declarations : List (Declaration W)) :
    (linkAll id owner graph change declarations).1 = (linkAll id owner graph {} declarations).1 ∧
      (linkAll id owner graph change declarations).2.skipped =
        change.skipped + if ∀ declaration ∈ declarations, isLinkable declaration then 0 else 1 := by
  induction declarations generalizing graph change with
  | nil => exact ⟨rfl, by simp [linkAll]⟩
  | cons first rest ih =>
    rw [linkAll, linkAll]
    by_cases fit : isLinkable first
    · rw [if_pos fit, if_pos fit]
      refine ⟨(ih _ _).1.trans (ih _ _).1.symm, (ih _ _).2.trans ?_⟩
      simp only [List.forall_mem_cons, fit, true_and]
      rfl
    · simp [fit]

omit [Weight W] in
theorem objectFor?_of_ids {key : ResourceKey} {id : VertexId} (known : graph.ids[key]? = some id) :
    graph.objectFor? key = graph.objectAt? id := by
  rw [objectFor?, vertexFor?, known]
  rfl

omit [Weight W] in
theorem objectFor?_ensureVertex (graph : Topology W) (key : ResourceKey) :
    (graph.ensureVertex key).1.objectFor? key = graph.objectFor? key := by
  rw [ensureVertex]
  split
  · rfl
  · rename_i unknown
    simp [objectFor?, vertexFor?, unknown, Vertex.new]

/-- Linking detaches no object. -/
theorem WellFormed.objectFor?_linkAll (wellFormed : graph.WellFormed) {id : VertexId}
    (here : id ∈ graph.vertices) {owner : ResourceKey} (change : InventoryChange)
    (declarations : List (Declaration W)) {key : ResourceKey} {holder : VertexId}
    (known : graph.ids[key]? = some holder) :
    (linkAll id owner graph change declarations).1.objectFor? key = graph.objectFor? key := by
  have grown := wellFormed.grows_linkAll here owner change declarations
  have after := wellFormed.batch (batch_linkAll wellFormed here owner change declarations)
  have still := after.keyAt?_eq.mp (grown.key (wellFormed.keyAt?_eq.mpr known))
  rw [objectFor?_of_ids known, objectFor?_of_ids still, grown.object]

/-- The topology with an object attached at the vertex of its resource. -/
def attached (graph : Topology W) (object : InventoryObject W) : Topology W :=
  (graph.ensureVertex object.key).1.updateVertex (graph.ensureVertex object.key).2.1
    fun vertex => vertex.attach object (graph.ensureVertex object.key).1.clock

omit [Weight W] in
theorem WellFormed.attached_spec (wellFormed : graph.WellFormed) (object : InventoryObject W) :
    (graph.attached object).WellFormed ∧
      (graph.ensureVertex object.key).2.1 ∈ (graph.attached object).vertices ∧
      (graph.attached object).ids[object.key]? = some (graph.ensureVertex object.key).2.1 ∧
      (graph.attached object).objectFor? object.key = some object := by
  obtain ⟨ensured, vertex, there, named⟩ := wellFormed.ensureVertex_spec object.key
  have known : (graph.attached object).ids[object.key]? =
      some (graph.ensureVertex object.key).2.1 := ensured.ids_iff.mpr ⟨vertex, there, named⟩
  have held : (graph.attached object).vertices[(graph.ensureVertex object.key).2.1]? =
      some (vertex.attach object (graph.ensureVertex object.key).1.clock) := by
    rw [attached, getElem?_updateVertex, if_pos rfl, there]
    rfl
  refine ⟨ensured.updateVertex _ fun _ => ⟨rfl, rfl⟩, Collections.mem_of_getElem? held, known, ?_⟩
  rw [objectFor?_of_ids known, objectAt?, held]
  rfl

/-- An acceptable object is attached and linked, unless its resource has an object already. -/
theorem WellFormed.addObject_eq (wellFormed : graph.WellFormed) (change : InventoryChange)
    {object : InventoryObject W} (acceptable : object.isAcceptable) :
    graph.addObject change object =
      if (graph.objectFor? object.key).isSome then
        ((graph.ensureVertex object.key).1,
          change.countVertex (graph.ensureVertex object.key).2.2)
      else linkAll (graph.ensureVertex object.key).2.1 object.key (graph.attached object)
        (change.countVertex (graph.ensureVertex object.key).2.2)
        (object.declarations graph.weights) := by
  obtain ⟨ensured, vertex, there, named⟩ := wellFormed.ensureVertex_spec object.key
  have known := ensured.ids_iff.mpr ⟨vertex, there, named⟩
  rw [addObject, if_pos acceptable, ← objectFor?_ensureVertex, objectFor?_of_ids known, objectAt?,
    ← (wellFormed.extends_ensureVertex object.key).weights]
  dsimp only
  rw [there]
  rfl

theorem addObject_counting (graph : Topology W) (change : InventoryChange)
    (object : InventoryObject W) :
    (graph.addObject change object).1 = (graph.addObject {} object).1 ∧
      (graph.addObject change object).2.skipped =
        change.skipped + (graph.addObject {} object).2.skipped := by
  rw [addObject, addObject]
  split
  · dsimp only
    split
    · exact ⟨rfl, rfl⟩
    · refine ⟨(linkAll_counting ..).1.trans (linkAll_counting ..).1.symm, ?_⟩
      rw [(linkAll_counting ..).2, (linkAll_counting ..).2]
      exact congrArg (change.skipped + ·) (Nat.zero_add _).symm
  · exact ⟨rfl, rfl⟩

/-- How an object is dealt with: it is turned away, it breaks off, or it is not skipped. -/
theorem WellFormed.addObject_cases (wellFormed : graph.WellFormed) (object : InventoryObject W) :
    ¬ object.isAcceptable ∧ graph.Skips object ∧ (graph.addObject {} object).1 = graph ∨
    graph.BreaksOff object ∧ graph.Skips object ∧
      (graph.addObject {} object).1.objectFor? object.key = some object ∨
    ¬ graph.BreaksOff object ∧ (graph.addObject {} object).2.skipped = 0 := by
  rw [Skips]
  by_cases acceptable : object.isAcceptable
  case neg =>
    rw [addObject, if_neg acceptable]
    exact .inl ⟨acceptable, rfl, rfl⟩
  rw [wellFormed.addObject_eq _ acceptable]
  refine .inr ?_
  split
  · rename_i held
    refine .inr ⟨?_, rfl⟩
    rintro ⟨_, bare, _⟩
    rw [bare] at held
    contradiction
  · rename_i bare
    obtain ⟨there, here, known, held⟩ := wellFormed.attached_spec object
    rw [(linkAll_counting ..).2, there.objectFor?_linkAll here _ _ known]
    by_cases fit : ∀ declaration ∈ object.declarations graph.weights, isLinkable declaration
    · rw [if_pos fit]
      refine .inr ⟨?_, rfl⟩
      rintro ⟨_, _, _, listed, unfit⟩
      exact unfit (fit _ listed)
    · rw [if_neg fit]
      simp only [not_forall, exists_prop] at fit
      exact .inl ⟨⟨acceptable, by simpa using bare, fit⟩, rfl, held⟩

theorem WellFormed.addObject (wellFormed : graph.WellFormed) (change : InventoryChange)
    (object : InventoryObject W) : (graph.addObject change object).1.WellFormed :=
  wellFormed.batch (batch_addObject wellFormed change object)

/-- A skipped object leaves no trace unless it breaks off. -/
theorem WellFormed.addObject_eq_self_iff (wellFormed : graph.WellFormed)
    {object : InventoryObject W} (skips : graph.Skips object) :
    (graph.addObject {} object).1 = graph ↔ ¬ graph.BreaksOff object := by
  rcases wellFormed.addObject_cases object with
    ⟨unacceptable, _, same⟩ | ⟨broken, _, held⟩ | ⟨_, taken⟩
  · exact iff_of_true same fun broken => unacceptable broken.1
  · refine iff_of_false (fun same => ?_) (not_not.mpr broken)
    rw [same, broken.2.1] at held
    contradiction
  · exact absurd (taken.symm.trans skips) Nat.zero_ne_one

theorem addInventory_append (graph : Topology W) (earlier : List (InventoryObject W))
    (object : InventoryObject W) : graph.addInventory (earlier ++ [object]) =
      (graph.addInventory earlier).1.addObject (graph.addInventory earlier).2 object :=
  List.foldl_append ..

theorem WellFormed.addInventory (wellFormed : graph.WellFormed)
    (objects : List (InventoryObject W)) : (graph.addInventory objects).1.WellFormed :=
  wellFormed.steps (steps_of_batch (batch_addInventory wellFormed objects))

/-- What was counted before a batch does not bear on what the batch does. -/
theorem addAll_counting (graph : Topology W) (change : InventoryChange)
    (objects : List (InventoryObject W)) :
    (objects.foldl (fun before object => before.1.addObject before.2 object) (graph, change)).1 =
        (graph.addInventory objects).1 ∧
      (objects.foldl (fun before object => before.1.addObject before.2 object)
          (graph, change)).2.skipped = change.skipped + (graph.addInventory objects).2.skipped := by
  induction objects generalizing graph change with
  | nil => exact ⟨rfl, rfl⟩
  | cons first rest ih =>
    obtain ⟨same, counted⟩ := addObject_counting graph change first
    obtain ⟨graphs, counts⟩ := ih (graph.addObject change first).1 (graph.addObject change first).2
    obtain ⟨graphs', counts'⟩ := ih (graph.addObject {} first).1 (graph.addObject {} first).2
    have here := congrArg (Topology.addInventory · rest) same
    refine ⟨(graphs.trans (congrArg Prod.fst here)).trans graphs'.symm, counts.trans ?_⟩
    rw [counted, Nat.add_assoc]
    exact congrArg (change.skipped + ·)
      ((congrArg (_ + ·.2.skipped) here).trans counts'.symm)

theorem addInventory_cons (graph : Topology W) (first : InventoryObject W)
    (rest : List (InventoryObject W)) :
    (graph.addInventory (first :: rest)).1 =
        ((graph.addObject {} first).1.addInventory rest).1 ∧
      (graph.addInventory (first :: rest)).2.skipped = (graph.addObject {} first).2.skipped +
        ((graph.addObject {} first).1.addInventory rest).2.skipped :=
  addAll_counting (graph.addObject {} first).1 (graph.addObject {} first).2 rest

/-- The objects of a batch are skipped or kept. -/
theorem WellFormed.skipped_add_kept (wellFormed : graph.WellFormed)
    (objects : List (InventoryObject W)) :
    (graph.addInventory objects).2.skipped + (graph.kept objects).length = objects.length := by
  induction objects generalizing graph with
  | nil => rfl
  | cons first rest ih =>
    have rest := ih (wellFormed.addObject {} first)
    rw [(addInventory_cons graph first _).2, kept, List.length_cons]
    split
    · rename_i skips
      rw [Skips] at skips
      omega
    · rename_i taken
      rcases wellFormed.addObject_cases first with ⟨_, skips, _⟩ | ⟨_, skips, _⟩ | ⟨_, none⟩
      · exact absurd skips taken
      · exact absurd skips taken
      · rw [List.length_cons]
        omega

/-- If no object breaks off, those that are skipped might as well have been left out. -/
theorem WellFormed.addInventory_kept (wellFormed : graph.WellFormed)
    (objects : List (InventoryObject W))
    (whole : ∀ earlier object, earlier ++ [object] <+: objects →
      ¬ (graph.addInventory earlier).1.BreaksOff object) :
    (graph.addInventory (graph.kept objects)).1 = (graph.addInventory objects).1 := by
  induction objects generalizing graph with
  | nil => rfl
  | cons first rest ih =>
    have later := ih (wellFormed.addObject {} first) fun earlier object before => by
      rw [← (addInventory_cons graph first earlier).1]
      exact whole (first :: earlier) object (List.cons_prefix_cons.mpr ⟨rfl, before⟩)
    rw [kept, (addInventory_cons graph first rest).1]
    split
    · rename_i skips
      have same := (wellFormed.addObject_eq_self_iff skips).mpr
        (whole [] first (List.cons_prefix_cons.mpr ⟨rfl, List.nil_prefix⟩))
      rwa [same] at later ⊢
    · exact (addInventory_cons graph first _).1.trans later

/-- A batch is counted object by object, and an object that is counted as skipped leaves the
topology as it was just if it does not break off. If no object of a batch does, the batch does what
it does without the objects it skips. -/
theorem skipped_leaves_no_trace_iff (weights : EdgeWeights W) (operations : List (Operation W))
    (objects : List (InventoryObject W)) :
    let graph := (empty weights).operateAll operations
    (∀ earlier object, earlier ++ [object] <+: objects →
      (graph.addInventory (earlier ++ [object])).2.skipped ≠
        (graph.addInventory earlier).2.skipped →
      ((graph.addInventory (earlier ++ [object])).1 = (graph.addInventory earlier).1 ↔
        ¬ (graph.addInventory earlier).1.BreaksOff object)) ∧
    (graph.addInventory objects).2.skipped + (graph.kept objects).length = objects.length ∧
    ((∀ earlier object, earlier ++ [object] <+: objects →
        ¬ (graph.addInventory earlier).1.BreaksOff object) →
      (graph.addInventory objects).1 = (graph.addInventory (graph.kept objects)).1) := by
  have wellFormed := (wellFormed_empty weights).operateAll operations
  refine ⟨fun earlier object _ counted => ?_, wellFormed.skipped_add_kept objects,
    fun whole => (wellFormed.addInventory_kept objects whole).symm⟩
  have reached := wellFormed.addInventory earlier
  rw [addInventory_append] at counted ⊢
  obtain ⟨same, skipped⟩ := addObject_counting
    (((empty weights).operateAll operations).addInventory earlier).1
    (((empty weights).operateAll operations).addInventory earlier).2 object
  rw [same]
  refine reached.addObject_eq_self_iff ?_
  rcases reached.addObject_cases object with ⟨_, skips, _⟩ | ⟨_, skips, _⟩ | ⟨_, none⟩
  · exact skips
  · exact skips
  · exact absurd (skipped.trans (congrArg _ none)) counted

/-- Host `x` has a peer `z`, and a peer `y` at a negative distance. -/
def brokenHost : InventoryObject ℚ :=
  { InventoryObject.bare "node" "x" with
    peers := [⟨⟨"node", "z"⟩, some 1⟩, ⟨⟨"node", "y"⟩, some (-1)⟩] }

/-- The host is skipped and yet attached, and joined to `z`. -/
theorem skipped_host_leaves_traces :
    ((empty ⟨1, 2, 4⟩).addInventory [brokenHost]).2.skipped = 1 ∧
      (empty ⟨1, 2, 4⟩).kept [brokenHost] = [] ∧
      ((empty ⟨1, 2, 4⟩).addInventory [brokenHost]).1 ≠ empty ⟨1, 2, 4⟩ ∧
      ((empty ⟨1, 2, 4⟩).addInventory [brokenHost]).1.edges.isEmpty = false := by
  refine ⟨by decide +kernel, by decide +kernel, fun same => ?_, by decide +kernel⟩
  have count : ((empty ⟨1, 2, 4⟩).addInventory [brokenHost]).1.vertices.size = 2 := by
    decide +kernel
  rw [same] at count
  exact absurd count (by decide +kernel)

end FaultCorrelation.Topology
