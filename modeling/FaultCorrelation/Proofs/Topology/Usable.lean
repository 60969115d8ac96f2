import Mathlib.Data.List.Induction
import FaultCorrelation.Proofs.Topology.Exactness

/-! # Weights that edges may carry

Distances are sound where every edge has a usable weight. Linking an object tests each weight.
Handing an edge over does not: an object that was taken in only half-way stays attached with
relations that were never tested, and an edge that passes to it carries the weight of one of these.
That is the only way in, so the edges of a topology stay usable along a run just as long as no
removal passes an edge on like that.
-/

namespace FaultCorrelation.Topology

open Std

variable {W : Type} {graph next : Topology W}

theorem edges_ensureVertex (graph : Topology W) (key : ResourceKey) :
    (graph.ensureVertex key).1.edges = graph.edges := by
  rw [ensureVertex]
  split <;> rfl

variable [Weight W]

/-- Whether every edge has a weight that edges may carry. -/
def HasUsableEdges (graph : Topology W) : Prop :=
  ∀ (pair : VertexPair) (edge : Edge W), graph.edges[pair]? = some edge → Weight.usable edge.weight

/-- Whether the removal of objects passes an edge on to an object that stays and whose own relation
to the resource at the other end has a weight that no edge may carry. -/
def Spoils (graph : Topology W) (objects : List (InventoryObject W)) : Prop :=
  ∃ owner target : Vertex W, graph.vertices[owner.id]? = some owner ∧
    graph.vertices[target.id]? = some target ∧
    (∃ edge, graph.edges[VertexPair.of owner.id target.id]? = some edge ∧
      edge.declaredBy = target.key) ∧
    target.key ∈ objects.map InventoryObject.key ∧ owner.key ∉ objects.map InventoryObject.key ∧
    ∃ object ∈ owner.inventory, ∃ relation,
      object.firstRelation? graph.weights target.key = some relation ∧
        ¬ Weight.usable relation.1

theorem hasUsableEdges_iff : graph.HasUsableEdges ↔
    ∀ (pair : VertexPair) (tie : Tie W), graph.tieAt? pair = some tie →
      Weight.usable tie.weight := by
  constructor
  · intro usable pair tie found
    obtain ⟨edge, there, rfl⟩ := tieAt?_eq_some.mp found
    exact usable pair edge there
  · exact fun usable pair edge found =>
      usable pair edge.toTie (tieAt?_eq_some.mpr ⟨edge, found, rfl⟩)

theorem HasUsableEdges.congr (usable : graph.HasUsableEdges) (same : next.edges = graph.edges) :
    next.HasUsableEdges :=
  fun pair edge found => usable pair edge (same ▸ found)

theorem HasUsableEdges.link (usable : graph.HasUsableEdges) (a b : VertexId) {tie : Tie W}
    (fit : Weight.usable tie.weight) : (graph.link a b tie).1.HasUsableEdges := by
  rw [Topology.link]
  split
  · exact usable
  · intro pair other found
    simp only [ExtTreeMap.getElem?_insert, LawfulEqOrd.compare_eq_iff_eq] at found
    split at found
    · exact Option.some.inj found ▸ fit
    · exact usable pair other found

theorem HasUsableEdges.linkAll (usable : graph.HasUsableEdges) (id : VertexId) (owner : ResourceKey)
    (change : InventoryChange) (declarations : List (Declaration W)) :
    (Topology.linkAll id owner graph change declarations).1.HasUsableEdges := by
  induction declarations generalizing graph change with
  | nil => exact usable
  | cons first rest ih =>
    rw [Topology.linkAll]
    split
    · rename_i linkable
      rw [isLinkable, Bool.and_eq_true] at linkable
      exact ih ((usable.congr (edges_ensureVertex graph first.target)).link _ _ linkable.2) _
    · exact usable

theorem HasUsableEdges.addObject (usable : graph.HasUsableEdges) (change : InventoryChange)
    (object : InventoryObject W) : (graph.addObject change object).1.HasUsableEdges := by
  rw [Topology.addObject]
  split
  · dsimp only
    have ensured := usable.congr (edges_ensureVertex graph object.key)
    split
    · exact ensured
    · refine HasUsableEdges.linkAll ?_ _ _ _ _
      exact ensured.congr rfl
  · exact usable

/-- Of the edges that a removal leaves, those that were passed on are as usable as the relations
behind them. -/
theorem HasUsableEdges.removeInventory_iff (usable : graph.HasUsableEdges)
    (wellFormed : graph.WellFormed) (declared : graph.Declared fun _ => True)
    (objects : List (InventoryObject W)) :
    (graph.removeInventory objects).1.HasUsableEdges ↔ ¬ graph.Spoils objects := by
  have left := (declared.removeInventory wellFormed objects).2
  rw [hasUsableEdges_iff] at usable ⊢
  constructor
  · rintro kept ⟨owner, target, here, there, ⟨old, found, declarer⟩, leaves, remains, object, held,
      relation, first, unusable⟩
    have keeper : graph.keeperOf? owner.id old.declaredBy =
        some ⟨relation.1, relation.2, owner.key⟩ := by
      refine keeperOf?_eq_some.mpr ⟨by rw [keyAt?, here, Option.map_some], object, ?_, ?_⟩
      · rw [objectAt?, here, Option.bind_some]
        exact held
      · rw [declarer]
        exact first
    have named : graph.keyAt? target.id = some old.declaredBy := by
      rw [keyAt?, there, Option.map_some, declarer]
    exact unusable (kept _ _ ((left _ _).mpr (.passes (tieAt?_eq_some.mpr ⟨old, found, rfl⟩) named
      (declarer ▸ leaves) keeper remains)))
  · intro spared pair tie found
    cases (left pair tie).mp found with
    | stays earlier => exact usable pair tie earlier
    | passes earlier named leaves keeper remains =>
      by_contra unusable
      obtain ⟨called, object, held, first⟩ := keeperOf?_eq_some.mp keeper
      obtain ⟨vertex, here, attached⟩ := Option.bind_eq_some_iff.mp held
      obtain ⟨opposite, there, key⟩ := Option.map_eq_some_iff.mp named
      obtain rfl := wellFormed.id_eq here
      obtain rfl := wellFormed.id_eq there
      rw [keyAt?, here, Option.map_some, Option.some_inj] at called
      rw [← key] at first leaves
      obtain ⟨old, joined, rfl⟩ := tieAt?_eq_some.mp earlier
      exact spared ⟨vertex, opposite, here, there, ⟨old, joined, key.symm⟩, leaves,
        called ▸ remains, object, attached, _, first, unusable⟩

/-- An operation leaves an edge unusable only by passing it on. -/
theorem HasUsableEdges.operate_iff (usable : graph.HasUsableEdges)
    (wellFormed : graph.WellFormed) (declared : graph.Declared fun _ => True)
    (operation : Operation W) : (graph.operate operation).HasUsableEdges ↔
      ∀ objects, operation = .removeInventory objects → ¬ graph.Spoils objects := by
  cases operation with
  | removeInventory objects =>
    refine (usable.removeInventory_iff wellFormed declared objects).trans ⟨?_, fun spared =>
      spared objects rfl⟩
    rintro spared _ ⟨rfl⟩
    exact spared
  | addInventory objects =>
    refine iff_of_true ?_ (by simp)
    refine List.foldlRecOn objects _
      (motive := fun (before : Topology W × InventoryChange) => before.1.HasUsableEdges) usable ?_
    exact fun before usable object _ => usable.addObject before.2 object
  | putAlarm alarm =>
    refine iff_of_true ?_ (by simp)
    rw [Topology.operate]
    cases held : graph.putAlarm alarm with
    | error cause => exact usable
    | ok result => exact usable.congr (wellFormed.extends_putAlarm held).edges
  | eraseAlarm id alarm => exact iff_of_true (usable.congr rfl) (by simp)
  | prune id => exact iff_of_true (usable.congr (edges_prune graph id)) (by simp)
  | setClock now => exact iff_of_true (usable.congr rfl) (by simp)

theorem operateAll_append (graph : Topology W) (first second : List (Operation W)) :
    graph.operateAll (first ++ second) = (graph.operateAll first).operateAll second :=
  List.foldl_append ..

theorem WellFormed.operateAll (wellFormed : graph.WellFormed) (operations : List (Operation W)) :
    (graph.operateAll operations).WellFormed :=
  List.foldlRecOn operations _ wellFormed fun _ kept operation _ => kept.operate operation

/-- Every edge of every topology has a declarer, whatever objects were taken in. -/
theorem declarer_operateAll (weights : EdgeWeights W) (operations : List (Operation W)) :
    ((empty weights).operateAll operations).Declared fun _ => True := by
  induction operations using List.reverseRecOn with
  | nil =>
    exact ⟨fun found => by simp [tieAt?, operateAll, empty] at found,
      fun _ spared => absurd trivial spared⟩
  | append_singleton before operation ih =>
    rw [operateAll_append]
    exact ih.operate ((wellFormed_empty weights).operateAll before) (.inl fun _ => trivial)

/-- Along every run of operations, of whatever objects, all edges keep weights that edges may carry
just as long as no removal passes an edge on to an untested relation. -/
theorem edges_usable_iff (weights : EdgeWeights W) (operations : List (Operation W)) :
    (∀ done, done <+: operations → ((empty weights).operateAll done).HasUsableEdges) ↔
      ∀ done objects, done ++ [.removeInventory objects] <+: operations →
        ¬ ((empty weights).operateAll done).Spoils objects := by
  have last (done : List (Operation W)) (operation : Operation W) :
      (empty weights).operateAll (done ++ [operation]) =
        ((empty weights).operateAll done).operate operation := operateAll_append _ done [operation]
  have step {done : List (Operation W)} (operation : Operation W)
      (usable : ((empty weights).operateAll done).HasUsableEdges) :=
    usable.operate_iff ((wellFormed_empty weights).operateAll done)
      (declarer_operateAll weights done) operation
  constructor
  · intro usable done objects before
    have after := usable _ before
    rw [last, step _ (usable done ((List.prefix_append done _).trans before))] at after
    exact after objects rfl
  · intro spared done before
    induction done using List.reverseRecOn with
    | nil => exact fun pair edge found => by simp [operateAll, empty] at found
    | append_singleton done operation ih =>
      rw [last, step _ (ih ((List.prefix_append done _).trans before))]
      rintro objects rfl
      exact spared done objects before

/-- Host `x` is taken in half-way, since its relation to `y` has a negative weight; `y` is taken in
with the edge between them, and removed. -/
def passingOperations : List (Operation ℚ) :=
  [.addInventory
    [ { InventoryObject.bare "node" "x" with peers := [⟨⟨"node", "y"⟩, some (-1)⟩] },
      { InventoryObject.bare "node" "y" with peers := [⟨⟨"node", "x"⟩, some 1⟩] } ],
    .removeInventory [.bare "node" "y"]]

/-- The edge passes to `x` and is negative from then on, though all configured weights are
usable. -/
theorem passing_on_spoils :
    (∀ kind, Weight.usable ((⟨1, 2, 4⟩ : EdgeWeights ℚ).of kind)) ∧
      ¬ ((empty ⟨1, 2, 4⟩).operateAll passingOperations).HasUsableEdges := by
  refine ⟨fun kind => by cases kind <;> decide +kernel, fun usable => ?_⟩
  have found : (((empty ⟨1, 2, 4⟩).operateAll passingOperations).edges[VertexPair.of 0 1]?).map
      (fun edge => edge.weight) = some (-1 : ℚ) := by decide +kernel
  obtain ⟨edge, found, negative⟩ := Option.map_eq_some_iff.mp found
  have fit := usable _ _ found
  rw [negative] at fit
  exact absurd fit (by decide +kernel)

end FaultCorrelation.Topology
