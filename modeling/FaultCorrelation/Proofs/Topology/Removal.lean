import FaultCorrelation.Proofs.Topology.Declared

/-! # What a removal leaves

An edge outlives the removal of objects if its declarer stays, or if the object at its other end
stays and declares the relation too; it then carries what that object declares. `Left` says so of a
whole batch, and so whatever the order in which its objects are removed. Objects that were taken in
only half-way count like all others.
-/

namespace FaultCorrelation.Topology

open Std

variable {W : Type} {graph next : Topology W} {exempt : VertexId → Prop}
variable {id owner target : VertexId} {key : ResourceKey} {gone : ResourceKey → Prop}
variable {pair : VertexPair} {tie : Tie W}

/-- The edges that are left once objects are gone. -/
inductive Left (graph : Topology W) (gone : ResourceKey → Prop) : VertexPair → Tie W → Prop where
  | stays {pair : VertexPair} {tie : Tie W} (found : graph.tieAt? pair = some tie)
      (remains : ¬ gone tie.declaredBy) : Left graph gone pair tie
  | passes {owner target : VertexId} {old tie : Tie W}
      (found : graph.tieAt? (.of owner target) = some old)
      (named : graph.keyAt? target = some old.declaredBy) (leaves : gone old.declaredBy)
      (keeper : graph.keeperOf? owner old.declaredBy = some tie)
      (remains : ¬ gone tie.declaredBy) : Left graph gone (.of owner target) tie

/-- Whether one topology is another without the object of a resource. -/
structure Removed (graph next : Topology W) (key : ResourceKey) : Prop where
  weights : next.weights = graph.weights
  object {id : VertexId} {object : InventoryObject W} :
    next.objectAt? id = some object ↔ graph.objectAt? id = some object ∧ graph.keyAt? id ≠ some key
  named {id : VertexId} {name : ResourceKey} :
    next.keyAt? id = some name → graph.keyAt? id = some name
  ties {pair : VertexPair} {tie : Tie W} :
    next.tieAt? pair = some tie ↔ Left graph (· = key) pair tie

theorem exists_keyAt?_of_object {object : InventoryObject W}
    (attached : graph.objectAt? id = some object) : ∃ name, graph.keyAt? id = some name := by
  obtain ⟨_, there, _⟩ := Option.bind_eq_some_iff.mp attached
  exact exists_keyAt? (Collections.mem_of_getElem? there)

theorem keeperOf?_of_declares {object : InventoryObject W}
    (attached : graph.objectAt? id = some object) {declaration : Declaration W}
    (member : declaration ∈ object.declarations graph.weights) :
    ∃ tie, graph.keeperOf? id declaration.target = some tie ∧
      graph.keyAt? id = some tie.declaredBy := by
  obtain ⟨name, named⟩ := exists_keyAt?_of_object attached
  have declares : (object.declarationTo? graph.weights declaration.target).isSome := by
    rw [InventoryObject.declarationTo?, List.find?_isSome]
    exact ⟨declaration, member, decide_eq_true rfl⟩
  obtain ⟨first, declares⟩ := Option.isSome_iff_exists.mp declares
  refine ⟨⟨first.weight, first.kind, name⟩, ?_, named⟩
  rw [keeperOf?_eq, attached, Option.bind_some, declares, Option.bind_some, named, Option.map_some]

namespace Removed

variable (removed : Removed graph next key)
include removed

theorem keyAt?_of_object {object : InventoryObject W} {name : ResourceKey}
    (attached : next.objectAt? id = some object) (named : graph.keyAt? id = some name) :
    next.keyAt? id = some name := by
  obtain ⟨other, called⟩ := exists_keyAt?_of_object attached
  rw [removed.named called] at named
  rw [called, named]

theorem keeper {name : ResourceKey} : next.keeperOf? owner name = some tie ↔
    graph.keeperOf? owner name = some tie ∧ tie.declaredBy ≠ key := by
  rw [keeperOf?_eq_some, keeperOf?_eq_some, removed.weights]
  constructor
  · rintro ⟨named, object, attached, first⟩
    obtain ⟨before, different⟩ := removed.object.mp attached
    have named := removed.named named
    exact ⟨⟨named, object, before, first⟩, fun same => different (same ▸ named)⟩
  · rintro ⟨⟨named, object, before, first⟩, different⟩
    have attached := removed.object.mpr ⟨before, fun same =>
      different (Option.some.inj (named.symm.trans same))⟩
    exact ⟨removed.keyAt?_of_object attached named, object, attached, first⟩

variable (wellFormed : next.WellFormed)
include wellFormed

theorem keyAt?_eq {name : ResourceKey} (found : next.tieAt? (.of owner target) = some tie)
    (named : graph.keyAt? target = some name) : next.keyAt? target = some name := by
  have joined := wellFormed.of_mem_edges (mem_edges_of_tieAt? found)
  obtain ⟨other, called⟩ := exists_keyAt? joined.2.2
  rw [removed.named called] at named
  rw [called, named]

/-- Edges and declarations stay together. -/
theorem declared (before : graph.WellFormed) (declared : graph.Declared exempt) :
    next.Declared exempt := by
  constructor
  · intro pair tie found
    cases removed.ties.mp found with
    | stays earlier remains =>
      obtain ⟨owner, target, name, rfl, named, keeper⟩ := declared.kept earlier
      exact ⟨owner, target, name, rfl, removed.keyAt?_eq wellFormed found named,
        removed.keeper.mpr ⟨keeper, remains⟩⟩
    | passes earlier named _ keeper remains =>
      exact ⟨_, _, _, rfl, removed.keyAt?_eq wellFormed found named,
        removed.keeper.mpr ⟨keeper, remains⟩⟩
  · intro id object attached spared declaration member
    obtain ⟨there, different⟩ := removed.object.mp attached
    rw [removed.weights] at member
    obtain ⟨other, indexed, near⟩ := declared.joins there spared declaration member
    have named := before.keyAt?_eq.mpr indexed
    rcases near with rfl | joined
    · have named := removed.keyAt?_of_object attached named
      exact ⟨id, wellFormed.keyAt?_eq.mp named, .inl rfl⟩
    suffices left : ∃ tie, Left graph (· = key) (.of id other) tie by
      obtain ⟨tie, left⟩ := left
      have found := removed.ties.mpr left
      exact ⟨other, wellFormed.keyAt?_eq.mp (removed.keyAt?_eq wellFormed found named),
        .inr (mem_edges_of_tieAt? found)⟩
    obtain ⟨tie, found⟩ := exists_tieAt? joined
    by_cases leaves : tie.declaredBy = key
    case neg => exact ⟨tie, .stays found leaves⟩
    -- The declarer is at the other end, and this object declares the relation to it too.
    obtain ⟨owner, target, _, pair, _, keeper⟩ := declared.kept found
    have declarer := (keeperOf?_eq_some.mp keeper).1
    have elsewhere : owner ≠ id := fun same => different (by rw [← same, declarer, leaves])
    have opposite : owner = other := by
      rcases VertexPair.of_eq_of.mp pair with ⟨same, _⟩ | ⟨_, same⟩
      · exact absurd same.symm elsewhere
      · exact same.symm
    rw [opposite, named, Option.some_inj] at declarer
    obtain ⟨heir, keeper, remains⟩ := keeperOf?_of_declares there member
    exact ⟨heir, .passes found (named.trans (congrArg some declarer)) leaves (declarer ▸ keeper)
      (fun same => different (same ▸ remains))⟩

/-- What further removals leave is what all of them leave together. -/
theorem left_iff (before : graph.WellFormed) :
    Left next gone pair tie ↔ Left graph (fun name => name = key ∨ gone name) pair tie := by
  constructor
  · rintro (⟨found, remains⟩ | ⟨found, named, leaves, keeper, remains⟩)
    · rcases removed.ties.mp found with ⟨earlier, stays⟩ | ⟨earlier, named, leaves, keeper, stays⟩
      · exact .stays earlier (not_or.mpr ⟨stays, remains⟩)
      · exact .passes earlier named (.inl leaves) keeper (not_or.mpr ⟨stays, remains⟩)
    rename_i owner target old
    obtain ⟨keeper, stays⟩ := removed.keeper.mp keeper
    have named := removed.named named
    have left := removed.ties.mp found
    generalize same : VertexPair.of owner target = pair at left
    rcases left with ⟨earlier, -⟩ | ⟨earlier, called, first, handed, -⟩
    · subst same
      exact .passes earlier named (.inr leaves) keeper (not_or.mpr ⟨stays, remains⟩)
    -- The keeper would have handed the edge over itself, and be gone.
    have declarer := (keeperOf?_eq_some.mp handed).1
    have kept := (keeperOf?_eq_some.mp keeper).1
    have turned : target = _ := before.eq_of_keyAt? named declarer
    refine absurd ?_ stays
    rw [first] at called
    rcases VertexPair.of_eq_of.mp same with ⟨rfl, rfl⟩ | ⟨rfl, _⟩
    · rw [← turned, called] at kept
      exact (Option.some.inj kept).symm
    · rw [called] at kept
      exact (Option.some.inj kept).symm
  · rintro (⟨found, remains⟩ | ⟨found, named, leaves, keeper, remains⟩)
    · obtain ⟨stays, remains⟩ := not_or.mp remains
      exact .stays (removed.ties.mpr (.stays found stays)) remains
    · rename_i old
      obtain ⟨stays, remains⟩ := not_or.mp remains
      by_cases first : old.declaredBy = key
      · exact .stays (removed.ties.mpr (.passes found named first keeper stays)) remains
      · have found := removed.ties.mpr (.stays found first)
        exact .passes found (removed.keyAt?_eq wellFormed found named)
          (leaves.resolve_left first) (removed.keeper.mpr ⟨keeper, stays⟩) remains

end Removed

/-- A vertex that is dropped had no object. -/
theorem objectAt?_prune (graph : Topology W) (id other : VertexId) :
    (graph.prune other).1.objectAt? id = graph.objectAt? id := by
  rcases WellFormed.prune_cases graph other with same | ⟨vertex, _, unused, dropped⟩
  · rw [same]
  rw [dropped, objectAt?, ExtTreeMap.getElem?_erase]
  split
  · rename_i here
    rw [← LawfulEqOrd.eq_of_compare here, objectAt?_of_isUnused unused]
    rfl
  · rfl

/-- What is left of an edge to a neighbour when the object of a resource withdraws. -/
def leftOf (graph : Topology W) (key : ResourceKey) (other : VertexId) (tie : Tie W) :
    Option (Tie W) :=
  if tie.declaredBy = key then graph.keeperOf? other key else some tie

/-- Whether one topology is another in which the object at a vertex has withdrawn its edges to some
of the neighbours. -/
structure Withdrawn (graph next : Topology W) (id : VertexId) (key : ResourceKey)
    (others : List VertexId) : Prop where
  weights : next.weights = graph.weights
  object (other : VertexId) : next.objectAt? other = graph.objectAt? other
  named {other : VertexId} {name : ResourceKey} :
    next.keyAt? other = some name → graph.keyAt? other = some name
  tie (other : VertexId) : next.tieAt? (.of id other) =
    if other ∈ others then (graph.tieAt? (.of id other)).bind (graph.leftOf key other)
    else graph.tieAt? (.of id other)
  others {pair : VertexPair} (apart : ∀ other, pair ≠ .of id other) :
    next.tieAt? pair = graph.tieAt? pair

namespace Withdrawn

theorem refl (graph : Topology W) (id : VertexId) (key : ResourceKey) :
    Withdrawn graph graph id key [] :=
  ⟨rfl, fun _ => rfl, fun named => named, fun _ => rfl, fun _ => rfl⟩

theorem keeperOf?_eq {others : List VertexId} (withdrawn : Withdrawn graph next id key others)
    (owner : VertexId) (name : ResourceKey) :
    next.keeperOf? owner name = graph.keeperOf? owner name := by
  rw [Topology.keeperOf?_eq, Topology.keeperOf?_eq, withdrawn.object, withdrawn.weights]
  cases attached : graph.objectAt? owner with
  | none => rfl
  | some object =>
    obtain ⟨called, named⟩ := exists_keyAt?_of_object ((withdrawn.object owner).trans attached)
    rw [named, withdrawn.named named]

theorem cons {first : VertexId} {middle : Topology W} {rest : List VertexId}
    (once : Withdrawn graph middle id key [first]) (more : Withdrawn middle next id key rest)
    (fresh : first ∉ rest) : Withdrawn graph next id key (first :: rest) where
  weights := more.weights.trans once.weights
  object other := (more.object other).trans (once.object other)
  named named := once.named (more.named named)
  tie other := by
    have same : middle.leftOf key other = graph.leftOf key other := by
      funext tie
      rw [leftOf, leftOf, once.keeperOf?_eq]
    rw [more.tie, once.tie, same]
    by_cases here : other = first
    · subst here
      simp [fresh]
    · simp [here]
  others apart := (more.others apart).trans (once.others apart)

/-- Withdrawing one edge, with no change to any other. -/
theorem single {other : VertexId} (weights : next.weights = graph.weights)
    (object : ∀ third, next.objectAt? third = graph.objectAt? third)
    (named : ∀ third name, next.keyAt? third = some name → graph.keyAt? third = some name)
    (left : next.tieAt? (.of id other) =
      (graph.tieAt? (.of id other)).bind (graph.leftOf key other))
    (same : ∀ pair, VertexPair.of id other ≠ pair → next.edges[pair]? = graph.edges[pair]?) :
    Withdrawn graph next id key [other] where
  weights := weights
  object := object
  named := named _ _
  tie third := by
    by_cases here : third = other
    · subst here
      rw [if_pos (List.mem_singleton.mpr rfl), left]
    · rw [if_neg (mt List.mem_singleton.mp here), tieAt?, same, tieAt?]
      intro equal
      rcases VertexPair.of_eq_of.mp equal with ⟨_, turned⟩ | ⟨one, turned⟩
      · exact here turned.symm
      · exact here (one ▸ turned.symm)
  others apart := congrArg (Option.map Edge.toTie) (same _ (apart other).symm)

/-- An edge to a neighbour is withdrawn, handed over, or left to its declarer. -/
theorem withdrawEdge (graph : Topology W) (change : InventoryChange) (id : VertexId)
    (key : ResourceKey) (other : VertexId) :
    Withdrawn graph (Topology.withdrawEdge id key graph change other).1 id key [other] := by
  rw [Topology.withdrawEdge]
  dsimp only
  by_cases own : graph.edges[VertexPair.of id other]?.any fun edge => edge.declaredBy == key
  case neg =>
    rw [if_neg own]
    refine single rfl (fun _ => rfl) (fun _ _ named => named) ?_ fun _ _ => rfl
    cases found : graph.edges[VertexPair.of id other]? with
    | none => simp only [tieAt?, found, Option.map_none, Option.bind_none]
    | some edge =>
      rw [found, Option.any_some, beq_iff_eq] at own
      rw [tieAt?, found, Option.map_some, Option.bind_some, leftOf, if_neg own]
  rw [if_pos own]
  obtain ⟨edge, found, declared⟩ := (Option.any_eq_true ..).mp own
  have left : (graph.tieAt? (.of id other)).bind (graph.leftOf key other) =
      graph.keeperOf? other key := by
    rw [tieAt?, found, Option.map_some, Option.bind_some, leftOf,
      if_pos (beq_iff_eq.mp declared)]
  cases keeper : graph.keeperOf? other key with
  | some heir =>
    refine single rfl (fun _ => rfl) (fun _ _ named => named) ?_ fun pair apart => ?_
    · rw [left, keeper]
      simp only [tieAt?, handOver, ExtTreeMap.getElem?_modify_self, found, Option.map_some]
    · exact ExtTreeMap.getElem?_modify.trans
        (if_neg (mt LawfulEqOrd.compare_eq_iff_eq.mp apart))
  | none =>
    have unlinked : graph.unlink (.of id other) = _ := if_pos (Collections.mem_of_getElem? found)
    refine single ?_ (fun third => ?_) (fun _ _ named => ?_) ?_ fun pair apart => ?_
    · change ((graph.unlink _).prune other).1.weights = graph.weights
      rw [weights_step (.prune other), unlinked]
    · change ((graph.unlink _).prune other).1.objectAt? third = _
      rw [objectAt?_prune, unlinked]
      rfl
    · have named := named_of_prune named
      rwa [unlinked] at named
    · change ((graph.unlink _).prune other).1.tieAt? _ = _
      rw [tieAt?_congr (edges_prune _ _), unlinked, left, keeper]
      exact congrArg (Option.map Edge.toTie) ExtTreeMap.getElem?_erase_self
    · change ((graph.unlink _).prune other).1.edges[_]? = _
      rw [edges_prune, unlinked]
      exact ExtTreeMap.getElem?_erase.trans
        (if_neg (mt LawfulEqOrd.compare_eq_iff_eq.mp apart))

theorem foldl (others : List VertexId) (distinct : others.Nodup)
    (before : Topology W × InventoryChange) (id : VertexId) (key : ResourceKey) :
    Withdrawn before.1 (others.foldl (fun before other =>
      Topology.withdrawEdge id key before.1 before.2 other) before).1 id key others := by
  induction others generalizing before with
  | nil => exact refl before.1 id key
  | cons first rest ih =>
    obtain ⟨fresh, distinct⟩ := List.nodup_cons.mp distinct
    exact (withdrawEdge before.1 before.2 id key first).cons (ih distinct _) fresh

end Withdrawn

/-- Withdrawing all edges of the object of a resource leaves what its removal leaves. -/
theorem Withdrawn.left_iff {others : List VertexId} (withdrawn : Withdrawn graph next id key others)
    (wellFormed : graph.WellFormed) (declared : graph.Declared exempt)
    (named : graph.keyAt? id = some key)
    (all : ∀ other, VertexPair.of id other ∈ graph.edges → other ∈ others) :
    next.tieAt? pair = some tie ↔ Left graph (· = key) pair tie := by
  have tie_eq (other : VertexId) : next.tieAt? (.of id other) =
      (graph.tieAt? (.of id other)).bind (graph.leftOf key other) := by
    rw [withdrawn.tie]
    split
    · rfl
    · rename_i apart
      rw [tieAt?, ExtTreeMap.getElem?_eq_none (mt (all other) apart)]
      rfl
  constructor
  · intro found
    by_cases near : ∃ other, pair = .of id other
    · obtain ⟨other, rfl⟩ := near
      rw [tie_eq, Option.bind_eq_some_iff] at found
      obtain ⟨old, found, left⟩ := found
      rw [leftOf] at left
      split at left
      · rename_i leaves
        have different := (wellFormed.of_mem_edges (mem_edges_of_tieAt? found)).1
        rw [VertexPair.of_comm] at found ⊢
        refine .passes found (leaves ▸ named) leaves (leaves ▸ left) fun same => different ?_
        exact wellFormed.eq_of_keyAt? named (same ▸ (keeperOf?_eq_some.mp left).1)
      · rename_i remains
        rw [← Option.some.inj left]
        exact .stays found remains
    · rw [withdrawn.others (not_exists.mp near)] at found
      refine .stays found fun leaves => near ?_
      obtain ⟨owner, target, _, rfl, _, keeper⟩ := declared.kept found
      have declarer := (keeperOf?_eq_some.mp keeper).1
      rw [leaves] at declarer
      exact ⟨target, by rw [wellFormed.eq_of_keyAt? declarer named]⟩
  · rintro (⟨found, remains⟩ | ⟨found, called, leaves, keeper, remains⟩)
    · by_cases near : ∃ other, pair = .of id other
      · obtain ⟨other, rfl⟩ := near
        rw [tie_eq, found, Option.bind_some, leftOf, if_neg remains]
      · rw [withdrawn.others (not_exists.mp near), found]
    · rw [leaves] at called keeper
      rw [wellFormed.eq_of_keyAt? called named, VertexPair.of_comm] at found ⊢
      rw [tie_eq, found, Option.bind_some, leftOf, if_pos leaves, keeper]

/-- Once all its edges are withdrawn an object can be detached. -/
theorem Withdrawn.removed {middle : Topology W} {others : List VertexId}
    (withdrawn : Withdrawn graph middle id key others) (wellFormed : graph.WellFormed)
    (declared : graph.Declared exempt) (named : graph.keyAt? id = some key)
    (all : ∀ other, VertexPair.of id other ∈ graph.edges → other ∈ others) (now : Int) :
    Removed graph ((middle.updateVertex id fun vertex => vertex.detach now).prune id).1 key where
  weights := by
    rw [weights_step (.prune id)]
    exact withdrawn.weights
  object {other object} := by
    rw [objectAt?_prune, objectAt?_detach, withdrawn.object]
    by_cases here : id = other
    · subst here
      simp [named]
    · have different : graph.keyAt? other ≠ some key := fun same =>
        here (wellFormed.eq_of_keyAt? named same)
      simp [here, different]
  named called := withdrawn.named (keyAt?_detach middle id _ now ▸ named_of_prune called)
  ties {pair tie} := by
    rw [tieAt?_congr (edges_prune _ _)]
    exact withdrawn.left_iff wellFormed declared named all

/-- A resource without an object has none to remove. -/
theorem Declared.removed_refl (declared : graph.Declared exempt)
    (bare : ∀ id, graph.keyAt? id = some key → graph.objectAt? id = none) :
    Removed graph graph key where
  weights := rfl
  object := ⟨fun attached => ⟨attached, fun named => by simp [bare _ named] at attached⟩, And.left⟩
  named named := named
  ties {pair tie} := by
    have other {owner : VertexId} {name : ResourceKey} {tie : Tie W}
        (keeper : graph.keeperOf? owner name = some tie) : tie.declaredBy ≠ key := by
      obtain ⟨named, object, attached, _⟩ := keeperOf?_eq_some.mp keeper
      rintro rfl
      rw [bare _ named] at attached
      contradiction
    constructor
    · intro found
      obtain ⟨owner, target, _, _, _, keeper⟩ := declared.kept found
      exact .stays found (other keeper)
    · intro left
      cases left with
      | stays found => exact found
      | passes found _ leaves =>
        obtain ⟨owner, target, _, _, _, keeper⟩ := declared.kept found
        exact absurd leaves (other keeper)

theorem nodup_adjacent (graph : Topology W) (id : VertexId) : (graph.adjacent id).Nodup := by
  rw [adjacent]
  cases graph.adjacency[id]? with
  | none => exact List.nodup_nil
  | some others =>
    refine List.Pairwise.imp ?_ others.distinct_toList
    rintro a b different rfl
    exact different compare_self

/-- Removing the object of a resource. -/
theorem Declared.removed (declared : graph.Declared exempt) (wellFormed : graph.WellFormed)
    (change : InventoryChange) (object : InventoryObject W) :
    Removed graph (graph.removeObject change object).1 object.key := by
  have known {id : VertexId} (named : graph.keyAt? id = some object.key) :
      ∃ vertex, graph.vertexFor? object.key = some vertex ∧
        graph.objectAt? id = vertex.inventory := by
    obtain ⟨vertex, there, key⟩ := Option.map_eq_some_iff.mp named
    refine ⟨vertex, wellFormed.vertexFor?_eq.mpr ⟨wellFormed.id_eq there ▸ there, key⟩, ?_⟩
    rw [objectAt?, there, Option.bind_some]
  rw [Topology.removeObject]
  dsimp only
  split
  case h_2 missing =>
    refine declared.removed_refl fun id named => ?_
    obtain ⟨vertex, found, _⟩ := known named
    rw [missing] at found
    contradiction
  rename_i vertex found
  split
  case isFalse empty =>
    refine declared.removed_refl fun id named => ?_
    obtain ⟨other, same, attached⟩ := known named
    obtain rfl := Option.some.inj (found.symm.trans same)
    rw [attached]
    simpa using empty
  obtain ⟨there, key⟩ := wellFormed.vertexFor?_eq.mp found
  have withdrawn := Withdrawn.foldl (graph.adjacent vertex.id) (graph.nodup_adjacent vertex.id)
    (graph, change) vertex.id object.key
  exact withdrawn.removed wellFormed declared (by rw [keyAt?, there, Option.map_some, key])
    (fun other joined => wellFormed.mem_adjacent_iff.mpr joined) _

theorem left_false (graph : Topology W) :
    Left graph (fun _ => False) pair tie ↔ graph.tieAt? pair = some tie := by
  refine ⟨fun left => ?_, fun found => .stays found not_false⟩
  cases left with
  | stays found => exact found
  | passes _ _ leaves => exact leaves.elim

/-- What a batch of removals leaves, and that edges and declarations stay together. -/
theorem Declared.removeInventory (declared : graph.Declared exempt) (wellFormed : graph.WellFormed)
    (objects : List (InventoryObject W)) :
    (graph.removeInventory objects).1.Declared exempt ∧
      ∀ pair tie, (graph.removeInventory objects).1.tieAt? pair = some tie ↔
        Left graph (· ∈ objects.map InventoryObject.key) pair tie := by
  rw [Topology.removeInventory]
  generalize ({} : InventoryChange) = change
  induction objects generalizing graph change with
  | nil =>
    refine ⟨declared, fun pair tie => ?_⟩
    simp only [List.map_nil, List.not_mem_nil, left_false]
    rfl
  | cons first rest ih =>
    have removed := declared.removed wellFormed change first
    have after := wellFormed.batch (batch_removeObject wellFormed change first)
    obtain ⟨kept, left⟩ := ih (removed.declared after wellFormed declared) after
      (graph.removeObject change first).2
    refine ⟨kept, fun pair tie => (left pair tie).trans ?_⟩
    simp only [List.map_cons, List.mem_cons]
    exact removed.left_iff after wellFormed

end FaultCorrelation.Topology
