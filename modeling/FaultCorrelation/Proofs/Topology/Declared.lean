import FaultCorrelation.Proofs.Topology.Step

/-! # Edges and declarations

Each edge carries the first relation that its declarer declares, and an object that was taken in
completely is joined to every resource that it declares a relation to.

While an object is being added some of its edges are still to be made, and an object that is unfit
half-way never gets the rest of them. `Declared` therefore exempts the declarations of some objects:
edges always have a declarer, and the declarations of all other objects have their edges.
-/

namespace FaultCorrelation

open Std

variable {W : Type}

namespace InventoryObject

/-- Whether an object declares a relation to a resource. -/
def RelatesTo (object : InventoryObject W) (target : ResourceKey) : Prop :=
  (∃ ref ∈ object.parent, ref.key = target) ∨
    ∃ relation ∈ object.peers ++ object.relatives, relation.target.key = target

/-- The first relation to a resource: to it as the parent, else as a peer, else as a relative. -/
def firstRelation? (object : InventoryObject W) (weights : EdgeWeights W) (target : ResourceKey) :
    Option (W × RelationKind) :=
  ((object.parent.filter fun ref => ref.key = target).map fun _ =>
      (object.parentWeight.getD weights.parent, .parent)).or <|
    ((object.peers.find? fun peer => peer.target.key = target).map fun peer =>
      (peer.weight.getD weights.peer, .peer)).or <|
    (object.relatives.find? fun other => other.target.key = target).map fun other =>
      (other.weight.getD weights.relative, .relative)

theorem mem_declarations_target {object : InventoryObject W} {weights : EdgeWeights W}
    {target : ResourceKey} :
    (∃ declaration ∈ object.declarations weights, declaration.target = target) ↔
      object.RelatesTo target := by
  simp only [declarations, RelatesTo, List.mem_append, List.mem_map, Option.mem_toList,
    Option.map_eq_some_iff, Option.mem_def]
  constructor
  · rintro ⟨_, (⟨ref, found, rfl⟩ | ⟨peer, member, rfl⟩) | ⟨other, member, rfl⟩, same⟩
    · exact .inl ⟨ref, found, same⟩
    · exact .inr ⟨peer, .inl member, same⟩
    · exact .inr ⟨other, .inr member, same⟩
  · rintro (⟨ref, found, same⟩ | ⟨relation, member | member, same⟩)
    · exact ⟨_, .inl (.inl ⟨ref, found, rfl⟩), same⟩
    · exact ⟨_, .inl (.inr ⟨relation, member, rfl⟩), same⟩
    · exact ⟨_, .inr ⟨relation, member, rfl⟩, same⟩

theorem find?_relations (relations : List (Relation W)) (configured : W) (kind : RelationKind)
    (target : ResourceKey) :
    (relations.map fun relation => (⟨relation.target.key, relation.weight.getD configured, kind⟩ :
        Declaration W)).find? (fun declaration => declaration.target = target) =
      (relations.find? fun relation => relation.target.key = target).map fun relation =>
        ⟨target, relation.weight.getD configured, kind⟩ := by
  rw [List.find?_map]
  apply Option.map_congr
  intro relation found
  have same : relation.target.key = target := by simpa using List.find?_some found
  rw [same]

/-- The declaration that counts is the first relation. -/
theorem declarationTo?_eq (object : InventoryObject W) (weights : EdgeWeights W)
    (target : ResourceKey) : object.declarationTo? weights target =
      (object.firstRelation? weights target).map fun relation =>
        ⟨target, relation.1, relation.2⟩ := by
  rw [declarationTo?, declarations, List.find?_append, List.find?_append, find?_relations,
    find?_relations, firstRelation?]
  rw [Option.or_assoc, Option.map_or, Option.map_or, Option.map_map, Option.map_map, Option.map_map]
  congr 1
  cases object.parent with
  | none => rfl
  | some ref => by_cases same : ref.key = target <;> simp [Option.filter_some, same]

theorem relatesTo_of_firstRelation? (object : InventoryObject W) {weights : EdgeWeights W}
    {target : ResourceKey} {relation : W × RelationKind}
    (first : object.firstRelation? weights target = some relation) : object.RelatesTo target := by
  have counts := object.declarationTo?_eq weights target
  rw [first, Option.map_some, declarationTo?] at counts
  exact mem_declarations_target.mp ⟨_, List.mem_of_find?_eq_some counts, rfl⟩

/-- Whether an object has a type and an id, relates to resources that can be named, and brings
weights that edges may carry. -/
structure IsValid [Weight W] (object : InventoryObject W) : Prop where
  named : object.objectType ≠ "" ∧ object.id ≠ ""
  parent : ∀ ref ∈ object.parent, ref.key.isBlank = false
  parentWeight : ∀ weight ∈ object.parentWeight, Weight.usable weight
  relations : ∀ relation ∈ object.peers ++ object.relatives,
    relation.target.key.isBlank = false ∧ ∀ weight ∈ relation.weight, Weight.usable weight

instance [Weight W] (object : InventoryObject W) : Decidable object.IsValid :=
  decidable_of_iff
    ((object.objectType ≠ "" ∧ object.id ≠ "") ∧ (∀ ref ∈ object.parent, ref.key.isBlank = false) ∧
      (∀ weight ∈ object.parentWeight, Weight.usable weight) ∧
      ∀ relation ∈ object.peers ++ object.relatives,
        relation.target.key.isBlank = false ∧ ∀ weight ∈ relation.weight, Weight.usable weight)
    ⟨fun ⟨named, parent, parentWeight, relations⟩ => ⟨named, parent, parentWeight, relations⟩,
      fun valid => ⟨valid.named, valid.parent, valid.parentWeight, valid.relations⟩⟩

theorem IsValid.isAcceptable [Weight W] {object : InventoryObject W} (valid : object.IsValid) :
    object.isAcceptable := by
  obtain ⟨⟨typed, named⟩, _, weighed, _⟩ := valid
  simpa [InventoryObject.isAcceptable, typed, named, Option.all_eq_true] using weighed

theorem IsValid.isLinkable [Weight W] {object : InventoryObject W} (valid : object.IsValid)
    {weights : EdgeWeights W} (usable : ∀ kind, Weight.usable (weights.of kind)) :
    ∀ declaration ∈ object.declarations weights, Topology.isLinkable declaration := by
  have decided (own : Option W) (kind : RelationKind)
      (checked : ∀ weight ∈ own, Weight.usable weight) :
      Weight.usable (own.getD (weights.of kind)) := by
    cases own with
    | none => exact usable kind
    | some weight => exact checked weight rfl
  intro declaration member
  simp only [declarations, List.mem_append, List.mem_map, Option.mem_toList,
    Option.map_eq_some_iff] at member
  rw [Topology.isLinkable, Bool.and_eq_true, Bool.not_eq_true']
  rcases member with (⟨ref, found, rfl⟩ | ⟨peer, member, rfl⟩) | ⟨other, member, rfl⟩
  · exact ⟨valid.parent ref found, decided _ .parent valid.parentWeight⟩
  · obtain ⟨target, weight⟩ := valid.relations peer (List.mem_append_left _ member)
    exact ⟨target, decided _ .peer weight⟩
  · obtain ⟨target, weight⟩ := valid.relations other (List.mem_append_right _ member)
    exact ⟨target, decided _ .relative weight⟩

end InventoryObject

namespace Topology

variable {graph next : Topology W} {id other : VertexId} {exempt : VertexId → Prop}

/-- The key of a vertex. -/
def keyAt? (graph : Topology W) (id : VertexId) : Option ResourceKey :=
  graph.vertices[id]?.map Vertex.key

/-- The object at a vertex. -/
def objectAt? (graph : Topology W) (id : VertexId) : Option (InventoryObject W) :=
  graph.vertices[id]?.bind Vertex.inventory

/-- What a declaration has made of the edge of a pair. -/
def tieAt? (graph : Topology W) (pair : VertexPair) : Option (Tie W) :=
  graph.edges[pair]?.map Edge.toTie

/-- Whether a vertex is the vertex of a resource or is joined to it. -/
def Joins (graph : Topology W) (id : VertexId) (target : ResourceKey) : Prop :=
  ∃ other, graph.ids[target]? = some other ∧ (id = other ∨ VertexPair.of id other ∈ graph.edges)

/-- Whether every edge has a declarer, and every declaration its edge, but for the declarations of
the objects at exempt vertices. -/
structure Declared (graph : Topology W) (exempt : VertexId → Prop) : Prop where
  kept {pair : VertexPair} {tie : Tie W} : graph.tieAt? pair = some tie →
    ∃ owner target key, pair = .of owner target ∧ graph.keyAt? target = some key ∧
      graph.keeperOf? owner key = some tie
  joins {id : VertexId} {object : InventoryObject W} : graph.objectAt? id = some object →
    ¬ exempt id → ∀ declaration ∈ object.declarations graph.weights,
      graph.Joins id declaration.target

theorem tieAt?_eq_some {pair : VertexPair} {tie : Tie W} :
    graph.tieAt? pair = some tie ↔ ∃ edge, graph.edges[pair]? = some edge ∧ edge.toTie = tie :=
  Option.map_eq_some_iff

theorem mem_edges_of_tieAt? {pair : VertexPair} {tie : Tie W}
    (found : graph.tieAt? pair = some tie) : pair ∈ graph.edges := by
  obtain ⟨edge, found, _⟩ := tieAt?_eq_some.mp found
  exact Collections.mem_of_getElem? found

theorem exists_tieAt? {pair : VertexPair} (joined : pair ∈ graph.edges) :
    ∃ tie, graph.tieAt? pair = some tie := by
  obtain ⟨edge, found⟩ := Collections.exists_getElem? joined
  exact ⟨edge.toTie, tieAt?_eq_some.mpr ⟨edge, found, rfl⟩⟩

theorem tieAt?_congr (same : next.edges = graph.edges) (pair : VertexPair) :
    next.tieAt? pair = graph.tieAt? pair := by
  rw [tieAt?, tieAt?, same]

theorem keeperOf?_eq (graph : Topology W) (owner : VertexId) (target : ResourceKey) :
    graph.keeperOf? owner target = (graph.objectAt? owner).bind fun object =>
      (object.declarationTo? graph.weights target).bind fun declaration =>
        (graph.keyAt? owner).map fun key => ⟨declaration.weight, declaration.kind, key⟩ := by
  rw [keeperOf?, objectAt?, keyAt?]
  cases graph.vertices[owner]? with
  | none => rfl
  | some vertex => rfl

/-- A keeper brings the first relation of its own object. -/
theorem keeperOf?_eq_some {owner : VertexId} {target : ResourceKey} {tie : Tie W} :
    graph.keeperOf? owner target = some tie ↔ graph.keyAt? owner = some tie.declaredBy ∧
      ∃ object, graph.objectAt? owner = some object ∧
        object.firstRelation? graph.weights target = some (tie.weight, tie.kind) := by
  rw [keeperOf?_eq]
  simp only [InventoryObject.declarationTo?_eq, Option.bind_eq_some_iff, Option.map_eq_some_iff]
  constructor
  · rintro ⟨object, attached, _, ⟨relation, first, rfl⟩, key, named, rfl⟩
    exact ⟨named, object, attached, first⟩
  · rintro ⟨named, object, attached, first⟩
    exact ⟨object, attached, _, ⟨_, first, rfl⟩, _, named, rfl⟩

theorem WellFormed.keyAt?_eq (wellFormed : graph.WellFormed) {key : ResourceKey} :
    graph.keyAt? id = some key ↔ graph.ids[key]? = some id := by
  rw [wellFormed.ids_iff, keyAt?, Option.map_eq_some_iff]

theorem WellFormed.eq_of_keyAt? (wellFormed : graph.WellFormed) {first second : VertexId}
    {key : ResourceKey} (here : graph.keyAt? first = some key)
    (there : graph.keyAt? second = some key) : first = second := by
  rw [wellFormed.keyAt?_eq] at here there
  exact Option.some.inj (here.symm.trans there)

theorem exists_keyAt? {id : VertexId} (there : id ∈ graph.vertices) :
    ∃ key, graph.keyAt? id = some key := by
  obtain ⟨vertex, there⟩ := Collections.exists_getElem? there
  exact ⟨vertex.key, congrArg (Option.map Vertex.key) there⟩

/-- What changes little: no object, no known key and no weight changes, and no edge is touched. -/
structure Extends (next graph : Topology W) : Prop where
  weights : next.weights = graph.weights
  edges : next.edges = graph.edges
  object (id : VertexId) : next.objectAt? id = graph.objectAt? id
  key {id : VertexId} {key : ResourceKey} :
    graph.keyAt? id = some key → next.keyAt? id = some key
  index {key : ResourceKey} {id : VertexId} :
    graph.ids[key]? = some id → next.ids[key]? = some id

namespace Extends

variable (extended : next.Extends graph)
include extended

theorem keeperOf? {owner : VertexId} {target : ResourceKey} {tie : Tie W}
    (keeper : graph.keeperOf? owner target = some tie) :
    next.keeperOf? owner target = some tie := by
  rw [keeperOf?_eq] at keeper ⊢
  rw [extended.object, extended.weights]
  obtain ⟨object, there, keeper⟩ := Option.bind_eq_some_iff.mp keeper
  obtain ⟨declaration, declared, keeper⟩ := Option.bind_eq_some_iff.mp keeper
  obtain ⟨key, named, rfl⟩ := Option.map_eq_some_iff.mp keeper
  simp [there, declared, extended.key named]

theorem joins {target : ResourceKey} (joined : graph.Joins id target) :
    next.Joins id target := by
  obtain ⟨other, indexed, near⟩ := joined
  exact ⟨other, extended.index indexed, extended.edges ▸ near⟩

theorem declared (declared : graph.Declared exempt) : next.Declared exempt where
  kept found := by
    obtain ⟨owner, target, key, pair, named, keeper⟩ := declared.kept
      (tieAt?_congr extended.edges _ ▸ found)
    exact ⟨owner, target, key, pair, extended.key named, extended.keeperOf? keeper⟩
  joins there spared declaration member := by
    rw [extended.object] at there
    rw [extended.weights] at member
    exact extended.joins (declared.joins there spared declaration member)

theorem trans {last : Topology W} (more : last.Extends next) : last.Extends graph where
  weights := more.weights.trans extended.weights
  edges := more.edges.trans extended.edges
  object id := (more.object id).trans (extended.object id)
  key named := more.key (extended.key named)
  index indexed := more.index (extended.index indexed)

end Extends

theorem weights_step (step : Step graph next) : next.weights = graph.weights := by
  cases step with
  | ensureVertex key =>
    rw [ensureVertex]
    split <;> rfl
  | link edge here there =>
    rw [link]
    split <;> rfl
  | unlink pair =>
    rw [unlink]
    split <;> rfl
  | prune id =>
    rcases WellFormed.prune_cases graph id with same | ⟨vertex, _, _, dropped⟩
    · rw [same]
    · rw [dropped]
  | _ => rfl

theorem weights_steps (steps : Steps graph next) : next.weights = graph.weights := by
  induction steps with
  | refl => rfl
  | tail _ step ih => exact (weights_step step).trans ih

theorem extends_clock (graph : Topology W) (now : Int) :
    Extends { graph with clock := now } graph :=
  ⟨rfl, rfl, fun _ => rfl, fun named => named, fun indexed => indexed⟩

theorem extends_updateVertex (graph : Topology W) (id : VertexId) {change : Vertex W → Vertex W}
    (kept : ∀ vertex, (change vertex).key = vertex.key ∧
      (change vertex).inventory = vertex.inventory) :
    (graph.updateVertex id change).Extends graph := by
  have seen (other : VertexId) := WellFormed.getElem?_updateVertex graph id change other
  refine ⟨rfl, rfl, fun other => ?_, fun {other key} named => ?_, fun indexed => indexed⟩
  · rw [objectAt?, objectAt?, seen]
    split
    · cases graph.vertices[other]? with
      | none => rfl
      | some vertex => exact (kept vertex).2
    · rfl
  · rw [keyAt?] at named ⊢
    rw [seen]
    split
    · rw [Option.map_map]
      exact (Option.map_congr fun vertex _ => (kept vertex).1).trans named
    · exact named

theorem WellFormed.extends_ensureVertex (wellFormed : graph.WellFormed) (key : ResourceKey) :
    (graph.ensureVertex key).1.Extends graph := by
  have fresh : graph.vertices[graph.nextId]? = none :=
    ExtTreeMap.getElem?_eq_none fun member => Nat.lt_irrefl _ (wellFormed.id_lt member)
  rw [Topology.ensureVertex]
  split
  · exact ⟨rfl, rfl, fun _ => rfl, fun named => named, fun indexed => indexed⟩
  rename_i unknown
  have seen (id : VertexId) :
      (graph.vertices.insert graph.nextId (Vertex.new graph.nextId key graph.clock))[id]? =
        if graph.nextId = id then some (.new id key graph.clock) else graph.vertices[id]? := by
    simp only [ExtTreeMap.getElem?_insert, LawfulEqOrd.compare_eq_iff_eq]
    split
    · rename_i same
      rw [same]
    · rfl
  refine ⟨rfl, rfl, fun id => ?_, fun {id named} there => ?_, fun {other id} indexed => ?_⟩
  · rw [objectAt?, objectAt?, seen]
    split
    · rename_i same
      rw [← same, fresh]
      rfl
    · rfl
  · rw [keyAt?] at there ⊢
    rw [seen, if_neg, there]
    rintro rfl
    rw [fresh] at there
    contradiction
  · rw [ExtTreeMap.getElem?_insert, if_neg, indexed]
    intro same
    rw [← LawfulEqOrd.eq_of_compare same, unknown] at indexed
    contradiction

theorem WellFormed.extends_putAlarm (wellFormed : graph.WellFormed) {alarm : Alarm} {isNew : Bool}
    (held : graph.putAlarm alarm = .ok (next, id, isNew)) : next.Extends graph := by
  obtain ⟨key, _, _, rfl⟩ := putAlarm_spec held
  exact (wellFormed.extends_ensureVertex key).trans
    (extends_updateVertex _ _ fun _ => ⟨rfl, rfl⟩)

theorem extends_eraseAlarm (graph : Topology W) (id : VertexId) (alarm : String) :
    (graph.eraseAlarm id alarm).Extends graph :=
  extends_updateVertex graph id fun vertex => by
    rw [Vertex.eraseAlarm]
    split <;> exact ⟨rfl, rfl⟩

/-- What only adds: no object, no known key, no weight and no edge changes. -/
structure Grows (next graph : Topology W) : Prop where
  weights : next.weights = graph.weights
  object (id : VertexId) : next.objectAt? id = graph.objectAt? id
  key {id : VertexId} {key : ResourceKey} :
    graph.keyAt? id = some key → next.keyAt? id = some key
  edge {pair : VertexPair} {edge : Edge W} :
    graph.edges[pair]? = some edge → next.edges[pair]? = some edge

theorem Grows.refl (graph : Topology W) : graph.Grows graph :=
  ⟨rfl, fun _ => rfl, fun named => named, fun found => found⟩

theorem Grows.trans {last : Topology W} (grown : next.Grows graph) (more : last.Grows next) :
    last.Grows graph where
  weights := more.weights.trans grown.weights
  object id := (more.object id).trans (grown.object id)
  key named := more.key (grown.key named)
  edge found := more.edge (grown.edge found)

theorem Grows.tieAt? (grown : next.Grows graph) {pair : VertexPair} {tie : Tie W}
    (found : graph.tieAt? pair = some tie) : next.tieAt? pair = some tie := by
  obtain ⟨edge, found, same⟩ := tieAt?_eq_some.mp found
  exact tieAt?_eq_some.mpr ⟨edge, grown.edge found, same⟩

theorem Extends.grows (extended : next.Extends graph) : next.Grows graph where
  weights := extended.weights
  object := extended.object
  key := extended.key
  edge found := extended.edges.symm ▸ found

theorem grows_link (graph : Topology W) (a b : VertexId) (tie : Tie W) :
    (graph.link a b tie).1.Grows graph := by
  rw [link]
  split
  · exact .refl graph
  rename_i apart
  refine ⟨rfl, fun _ => rfl, fun named => named, fun {pair held} found => ?_⟩
  rw [ExtTreeMap.getElem?_insert, if_neg, found]
  intro same
  rw [← LawfulEqOrd.eq_of_compare same] at found
  exact apart (.inr (Collections.mem_of_getElem? found))

theorem WellFormed.grows_linkAll [Weight W] (wellFormed : graph.WellFormed)
    (here : id ∈ graph.vertices) (owner : ResourceKey) (change : InventoryChange)
    (declarations : List (Declaration W)) :
    (linkAll id owner graph change declarations).1.Grows graph := by
  induction declarations generalizing graph change with
  | nil => exact .refl graph
  | cons first rest ih =>
    rw [linkAll]
    split
    · obtain ⟨ensured, target, there, _⟩ := wellFormed.ensureVertex_spec first.target
      have kept := mem_ensureVertex here first.target
      have linked : (graph.linkDeclared change id owner first).1.WellFormed :=
        ensured.link _ kept (Collections.mem_of_getElem? there)
      have vertices : (graph.linkDeclared change id owner first).1.vertices =
          (graph.ensureVertex first.target).1.vertices := vertices_link _ _ _ _
      exact ((wellFormed.extends_ensureVertex first.target).grows.trans (grows_link _ _ _ _)).trans
        (ih linked (vertices ▸ kept) _)
    · exact .refl graph

theorem edges_prune (graph : Topology W) (id : VertexId) :
    (graph.prune id).1.edges = graph.edges := by
  rcases WellFormed.prune_cases graph id with same | ⟨vertex, _, _, dropped⟩
  · rw [same]
  · rw [dropped]

theorem named_of_prune {name : ResourceKey} {other : VertexId}
    (named : (graph.prune other).1.keyAt? id = some name) : graph.keyAt? id = some name := by
  rcases WellFormed.prune_cases graph other with same | ⟨vertex, _, _, dropped⟩
  · rwa [same] at named
  · rw [dropped, keyAt?, ExtTreeMap.getElem?_erase] at named
    split at named
    · contradiction
    · exact named

theorem objectAt?_of_isUnused (unused : graph.isUnused id) : graph.objectAt? id = none := by
  rw [isUnused, Bool.and_eq_true] at unused
  obtain ⟨vertex, there, bare⟩ := (Option.any_eq_true ..).mp unused.1
  rw [Bool.and_eq_true, Option.isNone_iff_eq_none] at bare
  rw [objectAt?, there]
  exact bare.2

theorem keeperOf?_of_objectAt?_none {owner : VertexId} (bare : graph.objectAt? owner = none)
    (target : ResourceKey) : graph.keeperOf? owner target = none := by
  rw [keeperOf?_eq, bare]
  rfl

/-- A vertex that is dropped is no end of an edge, and no declaration leads to it. -/
theorem Declared.prune (declared : graph.Declared exempt) (wellFormed : graph.WellFormed)
    (id : VertexId) : (graph.prune id).1.Declared exempt := by
  rcases WellFormed.prune_cases graph id with same | ⟨vertex, found, unused, dropped⟩
  · rw [same]
    exact declared
  have apart := wellFormed.not_mem_edges_of_isUnused unused
  have bare := objectAt?_of_isUnused unused
  have seen (other : VertexId) : (graph.vertices.erase id)[other]? =
      if id = other then none else graph.vertices[other]? := by
    simp only [ExtTreeMap.getElem?_erase, LawfulEqOrd.compare_eq_iff_eq]
  rw [dropped]
  constructor
  · intro pair tie there
    obtain ⟨owner, target, key, rfl, named, keeper⟩ := declared.kept there
    have joined : VertexPair.of owner target ∈ graph.edges := mem_edges_of_tieAt? there
    have away : id ≠ owner := by
      rintro rfl
      exact apart target joined
    have beyond : id ≠ target := by
      rintro rfl
      exact apart owner (VertexPair.of_comm owner id ▸ joined)
    refine ⟨owner, target, key, rfl, ?_, ?_⟩
    · rw [keyAt?, seen, if_neg beyond]
      exact named
    · rw [Topology.keeperOf?, seen, if_neg away]
      exact keeper
  · intro other object there spared declaration member
    have away : id ≠ other := by
      rintro rfl
      rw [objectAt?, seen, if_pos rfl] at there
      contradiction
    rw [objectAt?, seen, if_neg away] at there
    obtain ⟨target, indexed, near⟩ := declared.joins there spared declaration member
    refine ⟨target, ?_, near⟩
    rw [ExtTreeMap.getElem?_erase, if_neg, indexed]
    intro same
    have known : graph.ids[vertex.key]? = some id := wellFormed.ids_iff.mpr ⟨vertex, found, rfl⟩
    rw [LawfulEqOrd.eq_of_compare same, indexed] at known
    rcases near with rfl | joined
    · exact away (Option.some.inj known).symm
    · rw [Option.some.inj known] at joined
      exact apart other (VertexPair.of_comm other id ▸ joined)

section Linking

variable {object : InventoryObject W} {done : List (Declaration W)}

/-- The state of an object of which some declarations have been linked. -/
structure Linking (graph : Topology W) (exempt : VertexId → Prop) (id : VertexId)
    (object : InventoryObject W) (done rest : List (Declaration W)) : Prop where
  wellFormed : graph.WellFormed
  declared : graph.Declared fun other => other = id ∨ exempt other
  attached : graph.objectAt? id = some object
  named : graph.keyAt? id = some object.key
  declarations : object.declarations graph.weights = done ++ rest
  linked : ∀ declaration ∈ done, graph.Joins id declaration.target

theorem Linking.extends {rest : List (Declaration W)}
    (linking : Linking graph exempt id object done rest) (wellFormed : next.WellFormed)
    (extended : next.Extends graph) : Linking next exempt id object done rest where
  wellFormed := wellFormed
  declared := extended.declared linking.declared
  attached := (extended.object id).trans linking.attached
  named := extended.key linking.named
  declarations := extended.weights ▸ linking.declarations
  linked declaration member := extended.joins (linking.linked declaration member)

/-- A declaration to a resource that is not joined yet is the first one to it. -/
theorem Linking.declarationTo?_eq {declaration : Declaration W} {rest : List (Declaration W)}
    {target : VertexId} (linking : Linking graph exempt id object done (declaration :: rest))
    (indexed : graph.ids[declaration.target]? = some target)
    (apart : ¬ (id = target ∨ VertexPair.of id target ∈ graph.edges)) :
    object.declarationTo? graph.weights declaration.target = some declaration := by
  have elsewhere : ∀ earlier ∈ done, earlier.target ≠ declaration.target := by
    intro earlier member same
    obtain ⟨other, known, joined⟩ := linking.linked earlier member
    rw [same, indexed] at known
    exact apart (Option.some.inj known ▸ joined)
  rw [InventoryObject.declarationTo?, linking.declarations, List.find?_append,
    List.find?_eq_none.mpr (by simpa using elsewhere)]
  simp

/-- An edge that is made is that of the first declaration to its resource. -/
theorem Linking.link {declaration : Declaration W} {rest : List (Declaration W)}
    {target : VertexId} (linking : Linking graph exempt id object done (declaration :: rest))
    (indexed : graph.ids[declaration.target]? = some target) :
    Linking (graph.link id target ⟨declaration.weight, declaration.kind, object.key⟩).1 exempt id
      object (done ++ [declaration]) rest := by
  have declarations : object.declarations graph.weights = (done ++ [declaration]) ++ rest := by
    rw [linking.declarations, List.append_assoc, List.singleton_append]
  have here : id ∈ graph.vertices := by
    obtain ⟨vertex, there, _⟩ := Option.bind_eq_some_iff.mp linking.attached
    exact Collections.mem_of_getElem? there
  have there : target ∈ graph.vertices := by
    obtain ⟨vertex, there, _⟩ := linking.wellFormed.ids_iff.mp indexed
    exact Collections.mem_of_getElem? there
  have wellFormed := linking.wellFormed.link
    ⟨declaration.weight, declaration.kind, object.key⟩ here there
  rw [Topology.link] at wellFormed ⊢
  by_cases near : id = target ∨ VertexPair.of id target ∈ graph.edges
  · rw [if_pos near] at wellFormed ⊢
    refine ⟨wellFormed, linking.declared, linking.attached, linking.named, declarations, ?_⟩
    intro other member
    rcases List.mem_append.mp member with member | member
    · exact linking.linked other member
    · rw [List.mem_singleton.mp member]
      exact ⟨target, indexed, near⟩
  rw [if_neg near] at wellFormed ⊢
  have first := linking.declarationTo?_eq indexed near
  -- What was joined is still joined.
  have joins {other : VertexId} {key : ResourceKey} (joined : graph.Joins other key) :
      Joins { graph with
        edges := graph.edges.insert (VertexPair.of id target)
          ⟨⟨declaration.weight, declaration.kind, object.key⟩, VertexPair.of id target⟩
        adjacency := addAdjacent (addAdjacent graph.adjacency id target) target id
        generation := graph.generation + 1 } other key := by
    obtain ⟨there, known, near⟩ := joined
    exact ⟨there, known, near.imp_right fun joined => ExtTreeMap.mem_insert.mpr (.inr joined)⟩
  refine ⟨wellFormed, ⟨?_, ?_⟩, linking.attached, linking.named, declarations, ?_⟩
  · intro pair tie found
    simp only [tieAt?, ExtTreeMap.getElem?_insert, LawfulEqOrd.compare_eq_iff_eq] at found
    split at found
    · rename_i same
      refine
        ⟨id, target, declaration.target, same.symm, linking.wellFormed.keyAt?_eq.mpr indexed, ?_⟩
      change graph.keeperOf? id declaration.target = some tie
      rw [keeperOf?_eq, linking.attached, Option.bind_some, first, Option.bind_some, linking.named,
        ← Option.some.inj found]
      rfl
    · exact linking.declared.kept found
  · intro other attached there spared declaration member
    exact joins (linking.declared.joins there spared declaration member)
  · intro other member
    rcases List.mem_append.mp member with member | member
    · exact joins (linking.linked other member)
    · rw [List.mem_singleton.mp member]
      exact ⟨target, indexed, .inr ExtTreeMap.mem_insert_self⟩

/-- Once all its declarations are linked the object is not exempt. -/
theorem Linking.complete (linking : Linking graph exempt id object done []) :
    graph.Declared exempt := by
  refine ⟨linking.declared.kept, fun {other attached} there spared declaration member => ?_⟩
  by_cases same : other = id
  · subst same
    rw [← Option.some.inj (linking.attached.symm.trans there), linking.declarations,
      List.append_nil] at member
    exact linking.linked declaration member
  · exact linking.declared.joins there (not_or.mpr ⟨same, spared⟩) declaration member

variable [Weight W]

/-- Declarations are linked in order, up to the first that cannot be. -/
theorem Linking.linkAll {rest : List (Declaration W)}
    (linking : Linking graph exempt id object done rest) (change : InventoryChange) :
    ∃ done left, ((∀ declaration ∈ rest, isLinkable declaration) → left = []) ∧
      Linking (Topology.linkAll id object.key graph change rest).1 exempt id object done left := by
  induction rest generalizing graph change done with
  | nil => exact ⟨done, [], fun _ => rfl, linking⟩
  | cons first rest ih =>
    rw [Topology.linkAll]
    split
    · obtain ⟨wellFormed, vertex, there, key⟩ := linking.wellFormed.ensureVertex_spec first.target
      have ensured := linking.extends wellFormed
        (linking.wellFormed.extends_ensureVertex first.target)
      obtain ⟨done, left, complete, linked⟩ :=
        ih (ensured.link (wellFormed.ids_iff.mpr ⟨vertex, there, key⟩)) _
      exact ⟨done, left, fun linkable => complete fun declaration member =>
        linkable declaration (List.mem_cons_of_mem _ member), linked⟩
    · rename_i unfit
      exact ⟨done, first :: rest,
        fun linkable => absurd (linkable first (List.mem_cons_self ..)) unfit, linking⟩

end Linking

/-- Attaching an object to a vertex that had none. -/
theorem Declared.attach (declared : graph.Declared exempt) {vertex : Vertex W}
    (there : graph.vertices[id]? = some vertex) (bare : vertex.inventory = none)
    (object : InventoryObject W) (now : Int) :
    (graph.updateVertex id fun vertex => vertex.attach object now).Declared
        (fun other => other = id ∨ exempt other) ∧
      (graph.updateVertex id fun vertex => vertex.attach object now).objectAt? id = some object ∧
      (graph.updateVertex id fun vertex => vertex.attach object now).keyAt? id =
        some vertex.key := by
  have seen (other : VertexId) :=
    WellFormed.getElem?_updateVertex graph id (fun vertex => vertex.attach object now) other
  have keys (other : VertexId) :
      (graph.updateVertex id fun vertex => vertex.attach object now).keyAt? other =
        graph.keyAt? other := by
    rw [keyAt?, keyAt?, seen]
    split
    · rw [Option.map_map]
      rfl
    · rfl
  have empty : graph.objectAt? id = none := by
    rw [objectAt?, there]
    exact bare
  have others {other : VertexId} (different : other ≠ id) :
      (graph.updateVertex id fun vertex => vertex.attach object now).objectAt? other =
        graph.objectAt? other := by
    rw [objectAt?, objectAt?, seen, if_neg different.symm]
  refine ⟨⟨fun {pair tie} found => ?_, fun {other attached} held spared declaration member => ?_⟩,
    ?_, ?_⟩
  · obtain ⟨owner, target, key, rfl, named, keeper⟩ := declared.kept found
    refine ⟨owner, target, key, rfl, (keys target).trans named, ?_⟩
    have different : owner ≠ id := by
      rintro rfl
      rw [keeperOf?_of_objectAt?_none empty] at keeper
      contradiction
    rw [keeperOf?_eq, others different, keys, ← keeper, keeperOf?_eq]
    rfl
  · rw [others (not_or.mp spared).1] at held
    exact declared.joins held (not_or.mp spared).2 declaration member
  · rw [objectAt?, seen, if_pos rfl, there]
    rfl
  · rw [keys, keyAt?, there]
    rfl

theorem Declared.mono {more : VertexId → Prop} (declared : graph.Declared exempt)
    (wider : ∀ id, exempt id → more id) : graph.Declared more :=
  ⟨declared.kept, fun there spared => declared.joins there (mt (wider _) spared)⟩

/-- Adding an object exempts it, unless it can be linked. -/
theorem Declared.addObject [Weight W] (declared : graph.Declared exempt)
    (wellFormed : graph.WellFormed) (change : InventoryChange) (object : InventoryObject W) :
    (graph.addObject change object).1.Declared
        (fun other => other = (graph.ensureVertex object.key).2.1 ∨ exempt other) ∧
      ((∀ declaration ∈ object.declarations graph.weights, isLinkable declaration) →
        (graph.addObject change object).1.Declared exempt) := by
  have extended := wellFormed.extends_ensureVertex object.key
  obtain ⟨ensured, vertex, there, named⟩ := wellFormed.ensureVertex_spec object.key
  rw [Topology.addObject]
  by_cases acceptable : object.isAcceptable
  case neg =>
    rw [if_neg acceptable]
    exact ⟨declared.mono fun _ => .inr, fun _ => declared⟩
  rw [if_pos acceptable]
  dsimp only
  rw [there, Option.any_some]
  rw [← extended.weights]
  have declared := extended.declared declared
  split
  · exact ⟨declared.mono fun _ => .inr, fun _ => declared⟩
  rename_i bare
  obtain ⟨attached, held, key⟩ := declared.attach there (by simpa using bare) object
    (graph.ensureVertex object.key).1.clock
  have linking : Linking ((graph.ensureVertex object.key).1.updateVertex
      (graph.ensureVertex object.key).2.1 fun vertex =>
        vertex.attach object (graph.ensureVertex object.key).1.clock) exempt
      (graph.ensureVertex object.key).2.1 object []
      (object.declarations (graph.ensureVertex object.key).1.weights) :=
    ⟨ensured.updateVertex _ fun _ => ⟨rfl, rfl⟩, attached, held, named ▸ key, rfl,
      fun _ member => absurd member List.not_mem_nil⟩
  obtain ⟨done, left, complete, linked⟩ := linking.linkAll _
  refine ⟨linked.declared, fun linkable => ?_⟩
  rw [complete linkable] at linked
  exact linked.complete

theorem keyAt?_detach (graph : Topology W) (id other : VertexId) (now : Int) :
    (graph.updateVertex id fun vertex => vertex.detach now).keyAt? other = graph.keyAt? other := by
  rw [keyAt?, keyAt?, WellFormed.getElem?_updateVertex]
  split
  · rw [Option.map_map]
    refine Option.map_congr fun vertex _ => ?_
    rw [Function.comp, Vertex.detach]
    split <;> rfl
  · rfl

theorem objectAt?_detach (graph : Topology W) (id other : VertexId) (now : Int) :
    (graph.updateVertex id fun vertex => vertex.detach now).objectAt? other =
      if id = other then none else graph.objectAt? other := by
  rw [objectAt?, WellFormed.getElem?_updateVertex]
  split
  · cases graph.vertices[other]? with
    | none => rfl
    | some vertex =>
      rw [Option.map_some, Option.bind_some, Vertex.detach]
      split
      · rfl
      · rename_i empty
        simpa using empty
  · rfl

end Topology
end FaultCorrelation
