import FaultCorrelation.Proofs.Topology.Location
import FaultCorrelation.Proofs.Topology.Occupancy
import FaultCorrelation.Proofs.Topology.Rejection

/-! # A topology by its resources

What a topology says of resources does not depend on how its vertices are numbered: which objects
are attached, which alarms are held, which resources are joined and what the edges carry. Here all
of it is looked up by resource, and adding an object and removing one are told in these terms.
-/

namespace FaultCorrelation.Topology

open Std

variable {W : Type} {graph next : Topology W} {key first second owner target : ResourceKey}
  {id : VertexId} {tie : Tie W} {exempt : VertexId → Prop}

/-- The alarm of an id that is held for a resource. -/
def alarmFor? (graph : Topology W) (key : ResourceKey) (alarm : String) : Option Alarm :=
  graph.ids[key]?.bind fun id => graph.alarmAt? id alarm

/-- What the edge between two resources carries. -/
def tieBetween? (graph : Topology W) (first second : ResourceKey) : Option (Tie W) :=
  graph.ids[first]?.bind fun a => graph.ids[second]?.bind fun b => graph.tieAt? (.of a b)

/-- What the object of a resource declares of its edge to another. -/
def declaration? (graph : Topology W) (owner target : ResourceKey) : Option (Tie W) :=
  (graph.objectFor? owner).bind fun object =>
    (object.firstRelation? graph.weights target).map fun relation =>
      ⟨relation.1, relation.2, owner⟩

theorem tieBetween?_comm (graph : Topology W) (first second : ResourceKey) :
    graph.tieBetween? first second = graph.tieBetween? second first := by
  rw [tieBetween?, tieBetween?]
  cases graph.ids[first]? <;> cases graph.ids[second]? <;> simp [VertexPair.of_comm]

theorem declaredBy_of_declaration? (declares : graph.declaration? owner target = some tie) :
    tie.declaredBy = owner := by
  obtain ⟨_, _, declares⟩ := Option.bind_eq_some_iff.mp declares
  obtain ⟨_, _, rfl⟩ := Option.map_eq_some_iff.mp declares
  rfl

namespace WellFormed

variable (wellFormed : graph.WellFormed)
include wellFormed

/-- What is looked up for a resource is looked up at its vertex. -/
theorem bind_ids_eq_some {α : Type} {look : VertexId → Option α} {value : α} :
    graph.ids[key]?.bind look = some value ↔
      ∃ id, graph.keyAt? id = some key ∧ look id = some value := by
  simp only [Option.bind_eq_some_iff, wellFormed.keyAt?_eq]

theorem objectFor?_eq_some {object : InventoryObject W} : graph.objectFor? key = some object ↔
    ∃ id, graph.keyAt? id = some key ∧ graph.objectAt? id = some object := by
  rw [objectFor?, vertexFor?, Option.bind_assoc]
  exact wellFormed.bind_ids_eq_some

theorem alarmFor?_eq_some {alarm : String} {copy : Alarm} :
    graph.alarmFor? key alarm = some copy ↔
      ∃ id, graph.keyAt? id = some key ∧ graph.alarmAt? id alarm = some copy :=
  wellFormed.bind_ids_eq_some

theorem tieBetween?_eq_some : graph.tieBetween? first second = some tie ↔
    ∃ a b, graph.keyAt? a = some first ∧ graph.keyAt? b = some second ∧
      graph.tieAt? (.of a b) = some tie := by
  simp only [tieBetween?, wellFormed.bind_ids_eq_some, exists_and_left]

/-- No resource is joined to itself. -/
theorem tieBetween?_self (key : ResourceKey) : graph.tieBetween? key key = none := by
  by_contra joined
  obtain ⟨tie, joined⟩ := Option.ne_none_iff_exists'.mp joined
  obtain ⟨a, b, here, there, found⟩ := wellFormed.tieBetween?_eq_some.mp joined
  exact (wellFormed.of_mem_edges (mem_edges_of_tieAt? found)).1
    (wellFormed.eq_of_keyAt? here there)

/-- The object of a resource declares what the object at its vertex would keep. -/
theorem declaration?_eq (named : graph.keyAt? id = some owner) (target : ResourceKey) :
    graph.declaration? owner target = graph.keeperOf? id target := by
  rw [declaration?, objectFor?_of_ids (wellFormed.keyAt?_eq.mp named), keeperOf?_eq, named]
  refine Option.bind_congr fun object _ => ?_
  rw [InventoryObject.declarationTo?_eq]
  cases object.firstRelation? graph.weights target <;> rfl

end WellFormed

namespace Grows

variable (grown : next.Grows graph) (before : graph.WellFormed) (after : next.WellFormed)
include grown before after

theorem objectFor?_eq (key : ResourceKey) : next.objectFor? key = graph.objectFor? key := by
  refine Option.ext fun object => ?_
  simp only [after.objectFor?_eq_some, before.objectFor?_eq_some, grown.object]
  refine exists_congr fun id => and_congr_left fun held => ?_
  obtain ⟨name, named⟩ := exists_keyAt?_of_object held
  rw [named, grown.key named]

theorem tieBetween? (found : graph.tieBetween? first second = some tie) :
    next.tieBetween? first second = some tie := by
  obtain ⟨a, b, one, two, found⟩ := before.tieBetween?_eq_some.mp found
  exact after.tieBetween?_eq_some.mpr ⟨a, b, grown.key one, grown.key two, grown.tieAt? found⟩

end Grows

/-- Every edge is declared from one of its ends. -/
theorem Declared.exists_declaration? (declared : graph.Declared exempt)
    (wellFormed : graph.WellFormed) (found : graph.tieBetween? first second = some tie) :
    graph.declaration? first second = some tie ∨ graph.declaration? second first = some tie := by
  obtain ⟨a, b, here, there, found⟩ := wellFormed.tieBetween?_eq_some.mp found
  obtain ⟨owner, target, key, pair, named, keeper⟩ := declared.kept found
  rcases VertexPair.of_eq_of.mp pair with ⟨rfl, rfl⟩ | ⟨rfl, rfl⟩
  · obtain rfl := Option.some.inj (there.symm.trans named)
    exact .inl ((wellFormed.declaration?_eq here _).trans keeper)
  · obtain rfl := Option.some.inj (here.symm.trans named)
    exact .inr ((wellFormed.declaration?_eq there _).trans keeper)

/-- Where there is no edge to another resource none is declared. -/
theorem Declared.declaration?_eq_none (declared : graph.Declared fun _ => False)
    (wellFormed : graph.WellFormed) (apart : graph.tieBetween? owner target = none)
    (different : owner ≠ target) : graph.declaration? owner target = none := by
  by_contra declares
  obtain ⟨tie, declares⟩ := Option.ne_none_iff_exists'.mp declares
  obtain ⟨object, attached, declares⟩ := Option.bind_eq_some_iff.mp declares
  obtain ⟨relation, relates, _⟩ := Option.map_eq_some_iff.mp declares
  obtain ⟨id, named, attached⟩ := wellFormed.objectFor?_eq_some.mp attached
  have listed : ∃ declaration ∈ object.declarations graph.weights, declaration.target = target :=
    InventoryObject.mem_declarations_target.mpr (object.relatesTo_of_firstRelation? relates)
  obtain ⟨declaration, member, rfl⟩ := listed
  obtain ⟨other, known, near⟩ := declared.joins attached not_false declaration member
  have called := wellFormed.keyAt?_eq.mpr known
  rcases near with rfl | joined
  · exact different (Option.some.inj (named.symm.trans called))
  · obtain ⟨held, found⟩ := exists_tieAt? joined
    rw [wellFormed.tieBetween?_eq_some.mpr ⟨id, other, named, called, found⟩] at apart
    contradiction

/-- Where no vertex is unused, the resources that are known are those that have an object, an alarm
or an edge. -/
theorem InUse.mem_ids_iff (inUse : graph.InUse fun _ => False) (wellFormed : graph.WellFormed) :
    key ∈ graph.ids ↔ (∃ object, graph.objectFor? key = some object) ∨
      (∃ alarm copy, graph.alarmFor? key alarm = some copy) ∨
      ∃ other tie, graph.tieBetween? key other = some tie := by
  have known {id : VertexId} (named : graph.keyAt? id = some key) : key ∈ graph.ids :=
    Collections.mem_of_getElem? (wellFormed.keyAt?_eq.mp named)
  constructor
  · intro known
    obtain ⟨id, known⟩ := Collections.exists_getElem? known
    have named := wellFormed.keyAt?_eq.mpr known
    by_contra! bare
    obtain ⟨vertex, there, _⟩ := wellFormed.ids_iff.mp known
    refine inUse id (wellFormed.isUnused_iff.mpr ⟨⟨vertex, there, ?_, ?_⟩, fun other joined => ?_⟩)
    · rw [ExtTreeMap.isEmpty_iff]
      refine ExtTreeMap.ext_getElem? fun alarm => ?_
      rw [ExtTreeMap.getElem?_empty, Option.eq_none_iff_forall_ne_some]
      intro copy held
      refine bare.2.1 alarm copy (wellFormed.alarmFor?_eq_some.mpr ⟨id, named, ?_⟩)
      rw [alarmAt?, there, Option.bind_some, held]
    · rw [Option.eq_none_iff_forall_ne_some]
      intro object attached
      refine bare.1 object (wellFormed.objectFor?_eq_some.mpr ⟨id, named, ?_⟩)
      rw [objectAt?, there, Option.bind_some, attached]
    · obtain ⟨tie, found⟩ := exists_tieAt? joined
      obtain ⟨name, called⟩ := exists_keyAt? (wellFormed.of_mem_edges joined).2.2
      exact bare.2.2 name tie
        (wellFormed.tieBetween?_eq_some.mpr ⟨id, other, named, called, found⟩)
  · rintro (⟨object, attached⟩ | ⟨alarm, copy, held⟩ | ⟨other, tie, joined⟩)
    · obtain ⟨id, named, _⟩ := wellFormed.objectFor?_eq_some.mp attached
      exact known named
    · obtain ⟨id, named, _⟩ := wellFormed.alarmFor?_eq_some.mp held
      exact known named
    · obtain ⟨id, _, named, _⟩ := wellFormed.tieBetween?_eq_some.mp joined
      exact known named

/-- Whether two topologies know the same resources, with the same objects and alarms. -/
structure SameResources (graph next : Topology W) : Prop where
  known (key : ResourceKey) : key ∈ next.ids ↔ key ∈ graph.ids
  object (key : ResourceKey) : next.objectFor? key = graph.objectFor? key
  alarm (key : ResourceKey) (alarm : String) :
    next.alarmFor? key alarm = graph.alarmFor? key alarm

/-- Where no vertex is unused, what is seen of the resources says which of them are known. -/
theorem InUse.sameResources (inUse : graph.InUse fun _ => False) (wellFormed : graph.WellFormed)
    (used : next.InUse fun _ => False) (there : next.WellFormed)
    (object : ∀ key, next.objectFor? key = graph.objectFor? key)
    (alarm : ∀ key alarm, next.alarmFor? key alarm = graph.alarmFor? key alarm)
    (joined : ∀ first second, (next.tieBetween? first second).isSome =
      (graph.tieBetween? first second).isSome) : graph.SameResources next where
  known key := by
    simp only [inUse.mem_ids_iff wellFormed, used.mem_ids_iff there, object, alarm,
      ← Option.isSome_iff_exists, joined]
  object := object
  alarm := alarm

/-- Inventory moves no alarm from resource to resource. -/
theorem alarmFor?_batch {before after : Topology W × InventoryChange} (batch : Batch before after)
    (wellFormed : before.1.WellFormed) (key : ResourceKey) (alarm : String) :
    after.1.alarmFor? key alarm = before.1.alarmFor? key alarm := by
  refine Option.ext fun copy => ?_
  rw [wellFormed.alarmFor?_eq_some, (wellFormed.batch batch).alarmFor?_eq_some]
  simp only [alarmAt?_batch wellFormed batch]
  refine exists_congr fun id => and_congr_left fun held => ?_
  rw [keyAt?_batch wellFormed batch held]

namespace Removed

variable (removed : Removed graph next key) (before : graph.WellFormed) (after : next.WellFormed)
include removed before after

theorem objectFor?_eq (name : ResourceKey) :
    next.objectFor? name = if name = key then none else graph.objectFor? name := by
  refine Option.ext fun object => ?_
  rw [after.objectFor?_eq_some]
  split
  · rename_i same
    refine iff_of_false ?_ (fun absurd => nomatch absurd)
    rintro ⟨id, named, attached⟩
    exact (removed.object.mp attached).2 (same ▸ removed.named named)
  · rename_i different
    rw [before.objectFor?_eq_some]
    constructor
    · rintro ⟨id, named, attached⟩
      exact ⟨id, removed.named named, (removed.object.mp attached).1⟩
    · rintro ⟨id, named, attached⟩
      have attached := removed.object.mpr
        ⟨attached, fun same => different (Option.some.inj (named.symm.trans same))⟩
      exact ⟨id, removed.keyAt?_of_object attached named, attached⟩

theorem declaration?_eq (different : owner ≠ key) (target : ResourceKey) :
    next.declaration? owner target = graph.declaration? owner target := by
  rw [declaration?, declaration?, removed.objectFor?_eq before after, if_neg different,
    removed.weights]

omit before in
theorem tieBetween?_eq_some : next.tieBetween? first second = some tie ↔
    ∃ a b, graph.keyAt? a = some first ∧ graph.keyAt? b = some second ∧
      Left graph (· = key) (.of a b) tie := by
  simp only [after.tieBetween?_eq_some, ← removed.ties]
  constructor
  · rintro ⟨a, b, here, there, found⟩
    exact ⟨a, b, removed.named here, removed.named there, found⟩
  · rintro ⟨a, b, here, there, found⟩
    exact ⟨a, b, removed.keyAt?_eq after (VertexPair.of_comm a b ▸ found) here,
      removed.keyAt?_eq after found there, found⟩

/-- Edges between other resources are left. -/
theorem tieBetween?_of_ne (declared : graph.Declared exempt) (one : first ≠ key)
    (two : second ≠ key) : next.tieBetween? first second = graph.tieBetween? first second := by
  refine Option.ext fun tie => ?_
  rw [removed.tieBetween?_eq_some after]
  constructor
  · rintro ⟨a, b, here, there, left⟩
    generalize same : VertexPair.of a b = pair at left
    rcases left with ⟨found, _⟩ | ⟨_, named, leaves, _, _⟩
    · exact before.tieBetween?_eq_some.mpr ⟨a, b, here, there, same ▸ found⟩
    · rw [leaves] at named
      rcases VertexPair.of_eq_of.mp same with ⟨_, rfl⟩ | ⟨rfl, _⟩
      · exact absurd (Option.some.inj (there.symm.trans named)) two
      · exact absurd (Option.some.inj (here.symm.trans named)) one
  · intro found
    have remains : tie.declaredBy ≠ key := by
      rcases declared.exists_declaration? before found with declares | declares
      · exact declaredBy_of_declaration? declares ▸ one
      · exact declaredBy_of_declaration? declares ▸ two
    obtain ⟨a, b, here, there, found⟩ := before.tieBetween?_eq_some.mp found
    exact ⟨a, b, here, there, .stays found remains⟩

/-- The edges of the resource itself are left to the declarations from their other ends. -/
theorem tieBetween?_eq (other : ResourceKey) : next.tieBetween? key other =
    (graph.tieBetween? key other).bind fun tie =>
      if tie.declaredBy = key then graph.declaration? other key else some tie := by
  refine Option.ext fun tie => ?_
  rw [removed.tieBetween?_eq_some after, Option.bind_eq_some_iff]
  constructor
  · rintro ⟨a, b, here, there, left⟩
    generalize same : VertexPair.of a b = pair at left
    rcases left with ⟨found, remains⟩ | ⟨found, named, leaves, keeper, remains⟩
    · exact ⟨tie, before.tieBetween?_eq_some.mpr ⟨a, b, here, there, same ▸ found⟩,
        if_neg remains⟩
    · rename_i owner target old
      rw [leaves] at named keeper
      obtain rfl : target = a := before.eq_of_keyAt? named here
      obtain rfl : owner = b := by
        rcases VertexPair.of_eq_of.mp same with ⟨rfl, rfl⟩ | ⟨_, rfl⟩ <;> rfl
      refine ⟨old, before.tieBetween?_eq_some.mpr ⟨_, _, here, there, same ▸ found⟩, ?_⟩
      rw [if_pos leaves, before.declaration?_eq there, keeper]
  · rintro ⟨old, found, left⟩
    have joined := found
    obtain ⟨a, b, here, there, found⟩ := before.tieBetween?_eq_some.mp found
    refine ⟨a, b, here, there, ?_⟩
    split at left
    · rename_i leaves
      have different : other ≠ key := by
        rintro rfl
        rw [before.tieBetween?_self] at joined
        contradiction
      rw [VertexPair.of_comm] at found ⊢
      refine .passes found (leaves ▸ here) leaves ?_ ?_
      · rw [leaves, ← before.declaration?_eq there, left]
      · exact declaredBy_of_declaration? left ▸ different
    · rename_i remains
      obtain rfl := Option.some.inj left
      exact .stays found remains

end Removed

variable {object : InventoryObject W}

theorem WellFormed.objectFor?_attached (wellFormed : graph.WellFormed)
    (object : InventoryObject W) (key : ResourceKey) : (graph.attached object).objectFor? key =
      if key = object.key then some object else graph.objectFor? key := by
  have ensured := wellFormed.ensureVertex object.key
  obtain ⟨_, _, known, held⟩ := wellFormed.attached_spec object
  split
  · rename_i same
    rw [same, held]
  rename_i different
  rw [← (wellFormed.extends_ensureVertex object.key).grows.objectFor?_eq wellFormed ensured]
  -- Another resource has the vertex that it had, if any.
  cases named : (graph.ensureVertex object.key).1.ids[key]? with
  | none =>
    have missing : (graph.attached object).ids[key]? = none := named
    rw [objectFor?, vertexFor?, missing, objectFor?, vertexFor?, named]
    rfl
  | some id =>
    have there : (graph.attached object).ids[key]? = some id := named
    have elsewhere : (graph.ensureVertex object.key).2.1 ≠ id := by
      rintro rfl
      have called := ensured.keyAt?_eq.mpr named
      rw [ensured.keyAt?_eq.mpr known] at called
      exact different (Option.some.inj called).symm
    rw [objectFor?_of_ids there, objectFor?_of_ids named, attached, objectAt?,
      getElem?_updateVertex, if_neg elsewhere, objectAt?]

/-- Whether one topology is another with an object added for its resource. -/
structure Added (graph next : Topology W) (object : InventoryObject W) : Prop where
  weights : next.weights = graph.weights
  objectFor?_eq (key : ResourceKey) :
    next.objectFor? key = if key = object.key then some object else graph.objectFor? key
  kept {first second : ResourceKey} {tie : Tie W} :
    graph.tieBetween? first second = some tie → next.tieBetween? first second = some tie

/-- An object is added if it is acceptable and its resource has none. -/
theorem WellFormed.added [Weight W] (wellFormed : graph.WellFormed) (change : InventoryChange)
    (acceptable : object.isAcceptable) (bare : graph.objectFor? object.key = none) :
    Added graph (graph.addObject change object).1 object := by
  have after := wellFormed.addObject change object
  have extended := wellFormed.extends_ensureVertex object.key
  have ensured := wellFormed.ensureVertex object.key
  obtain ⟨attached, here, _⟩ := wellFormed.attached_spec object
  have grown := attached.grows_linkAll here object.key
    (change.countVertex (graph.ensureVertex object.key).2.2) (object.declarations graph.weights)
  have linked := congrArg Prod.fst (wellFormed.addObject_eq change acceptable)
  rw [if_neg (by simp [bare])] at linked
  rw [← linked] at grown
  refine ⟨grown.weights.trans extended.weights, fun key => ?_, fun found => ?_⟩
  · rw [grown.objectFor?_eq attached after, wellFormed.objectFor?_attached]
  · exact grown.tieBetween? attached after (extended.grows.tieBetween? wellFormed ensured found)

namespace Added

variable (added : Added graph next object)
include added

theorem declaration?_eq (different : owner ≠ object.key) (target : ResourceKey) :
    next.declaration? owner target = graph.declaration? owner target := by
  rw [declaration?, declaration?, added.objectFor?_eq, if_neg different, added.weights]

variable (before : graph.WellFormed) (declared : graph.Declared fun _ => False)
  (after : next.WellFormed)
include before declared after

/-- An edge that is new is declared by the object. -/
theorem declares_of_new (kept : next.Declared exempt)
    (new : graph.tieBetween? first second = none)
    (found : next.tieBetween? first second = some tie) :
    first = object.key ∧ next.declaration? first second = some tie ∨
      second = object.key ∧ next.declaration? second first = some tie := by
  have different : first ≠ second := by
    rintro rfl
    rw [after.tieBetween?_self] at found
    contradiction
  rcases kept.exists_declaration? after found with declares | declares
  · refine .inl ⟨by_contra fun other => ?_, declares⟩
    rw [added.declaration?_eq other, declared.declaration?_eq_none before new different] at declares
    contradiction
  · refine .inr ⟨by_contra fun other => ?_, declares⟩
    rw [tieBetween?_comm] at new
    rw [added.declaration?_eq other,
      declared.declaration?_eq_none before new different.symm] at declares
    contradiction

/-- No other resources are joined by it. -/
theorem tieBetween?_of_ne (kept : next.Declared exempt) (one : first ≠ object.key)
    (two : second ≠ object.key) :
    next.tieBetween? first second = graph.tieBetween? first second := by
  cases joined : graph.tieBetween? first second with
  | some tie => exact added.kept joined
  | none =>
    refine Option.eq_none_iff_forall_ne_some.mpr fun tie found => ?_
    rcases added.declares_of_new before declared after kept joined found with
      ⟨same, _⟩ | ⟨same, _⟩
    · exact one same
    · exact two same

/-- It is joined to all resources that it declares a relation to. -/
theorem tieBetween?_eq (kept : next.Declared fun _ => False) {other : ResourceKey}
    (different : object.key ≠ other) : next.tieBetween? object.key other =
      (graph.tieBetween? object.key other).or (next.declaration? object.key other) := by
  cases joined : graph.tieBetween? object.key other with
  | some tie => exact added.kept joined
  | none =>
    rw [Option.none_or]
    cases found : next.tieBetween? object.key other with
    | some tie =>
      rcases added.declares_of_new before declared after kept joined found with
        ⟨_, declares⟩ | ⟨same, _⟩
      · exact declares.symm
      · exact absurd same.symm different
    | none => exact (kept.declaration?_eq_none after found different).symm

end Added
end FaultCorrelation.Topology
