import FaultCorrelation.Proofs.Collections
import FaultCorrelation.Topology.Inventory

/-! # Well-formed topologies

The tables of a topology repeat each other: the index of keys repeats the vertices, and the
adjacency sets repeat the edges. A topology is well formed if they agree. Every elementary change
keeps it so; a link has to be made between vertices that are there.
-/

namespace FaultCorrelation

open Std

namespace VertexPair

theorem of_low_high (pair : VertexPair) : of pair.low pair.high = pair :=
  dif_pos pair.low_le_high

theorem of_eq_of {a b c d : VertexId} :
    of a b = of c d ↔ a = c ∧ b = d ∨ a = d ∧ b = c := by
  grind [of]

theorem eq_of {pair : VertexPair} {a b : VertexId} :
    pair = of a b ↔ pair.low = a ∧ pair.high = b ∨ pair.low = b ∧ pair.high = a := by
  rw [← of_eq_of, of_low_high]

/-- A pair is the pair of two vertices in the one order or the other. -/
theorem low_high_of (a b : VertexId) : (of a b).low = a ∧ (of a b).high = b ∨
    (of a b).low = b ∧ (of a b).high = a := by
  grind [of]

end VertexPair

namespace Topology

variable {W : Type}

/-- An assignment of neighbours to vertices. -/
abbrev Adjacency := ExtTreeMap VertexId (ExtTreeSet VertexId)

/-- Whether an adjacency lists one vertex with another. -/
def Lists (adjacency : Adjacency) (a b : VertexId) : Prop :=
  ∃ others, adjacency[a]? = some others ∧ b ∈ others

/-- Whether every vertex that has an entry has a neighbour. -/
def IsTidy (adjacency : Adjacency) : Prop :=
  ∀ (id : VertexId) (others : ExtTreeSet VertexId), adjacency[id]? = some others →
    others.isEmpty = false

theorem mem_adjacent {graph : Topology W} {a b : VertexId} :
    b ∈ graph.adjacent a ↔ Lists graph.adjacency a b := by
  rw [adjacent, Lists]
  cases found : graph.adjacency[a]? with
  | none => simp
  | some others => simp

theorem lists_addAdjacent {adjacency : Adjacency} {source target a b : VertexId} :
    Lists (addAdjacent adjacency source target) a b ↔
      source = a ∧ target = b ∨ Lists adjacency a b := by
  simp only [Lists, addAdjacent, ExtTreeMap.getElem?_alter, LawfulEqOrd.compare_eq_iff_eq]
  by_cases here : source = a
  · subst here
    cases found : adjacency[source]? with
    | none => simp
    | some others => simp
  · simp [here]

theorem isTidy_addAdjacent {adjacency : Adjacency} (tidy : IsTidy adjacency)
    (source target : VertexId) : IsTidy (addAdjacent adjacency source target) := by
  intro id others found
  simp only [addAdjacent, ExtTreeMap.getElem?_alter, LawfulEqOrd.compare_eq_iff_eq] at found
  split at found
  · rw [← Option.some.inj found]
    simp
  · exact tidy id others found

theorem lists_removeAdjacent {adjacency : Adjacency} {source target a b : VertexId} :
    Lists (removeAdjacent adjacency source target) a b ↔
      ¬ (source = a ∧ target = b) ∧ Lists adjacency a b := by
  simp only [Lists, removeAdjacent, ExtTreeMap.getElem?_alter, LawfulEqOrd.compare_eq_iff_eq]
  by_cases here : source = a
  · subst here
    cases found : adjacency[source]? with
    | none => simp
    | some others =>
      have remains : b ∈ others.erase target ↔ target ≠ b ∧ b ∈ others := by
        simp [ExtTreeSet.mem_erase]
      simp only [if_true, Option.map_some, Option.filter_eq_some_iff, true_and,
        Option.some.injEq, exists_eq_left', and_assoc, remains]
      constructor
      · exact fun kept => kept.2
      · refine fun kept => ⟨?_, kept⟩
        rw [Bool.not_eq_true', ExtTreeSet.isEmpty_eq_false_iff]
        exact fun empty => ExtTreeSet.not_mem_empty (empty ▸ remains.mpr kept)
  · simp [here]

theorem isTidy_removeAdjacent {adjacency : Adjacency} (tidy : IsTidy adjacency)
    (source target : VertexId) : IsTidy (removeAdjacent adjacency source target) := by
  intro id others found
  simp only [removeAdjacent, ExtTreeMap.getElem?_alter, LawfulEqOrd.compare_eq_iff_eq] at found
  split at found
  · obtain ⟨_, nonempty⟩ := Option.filter_eq_some_iff.mp found
    simpa using nonempty
  · exact tidy id others found

/-- What every topology is like: its tables agree. -/
structure WellFormed (graph : Topology W) : Prop where
  id_eq {id : VertexId} {vertex : Vertex W} : graph.vertices[id]? = some vertex → vertex.id = id
  id_lt {id : VertexId} : id ∈ graph.vertices → id < graph.nextId
  /-- The index finds exactly the vertex of a key. -/
  ids_iff {key : ResourceKey} {id : VertexId} : graph.ids[key]? = some id ↔
    ∃ vertex, graph.vertices[id]? = some vertex ∧ vertex.key = key
  /-- Edges join two vertices that are there. -/
  ends {pair : VertexPair} : pair ∈ graph.edges →
    pair.low ≠ pair.high ∧ pair.low ∈ graph.vertices ∧ pair.high ∈ graph.vertices
  lists_iff {a b : VertexId} : Lists graph.adjacency a b ↔ VertexPair.of a b ∈ graph.edges
  tidy : IsTidy graph.adjacency

/-- The topology of a new engine. -/
def empty (weights : EdgeWeights W) : Topology W := { weights }

theorem wellFormed_empty (weights : EdgeWeights W) : (empty weights).WellFormed where
  id_eq found := by simp [empty] at found
  id_lt member := by simp [empty] at member
  ids_iff := by simp [empty]
  ends member := by simp [empty] at member
  lists_iff := by simp [empty, Lists]
  tidy _ _ found := by simp [empty] at found

namespace WellFormed

variable {graph next : Topology W} {id a b : VertexId}

/-- Changes that are not about the tables. -/
theorem congr (wellFormed : graph.WellFormed) (nextId : next.nextId = graph.nextId)
    (vertices : next.vertices = graph.vertices) (ids : next.ids = graph.ids)
    (edges : next.edges = graph.edges) (adjacency : next.adjacency = graph.adjacency) :
    next.WellFormed where
  id_eq := by
    rw [vertices]
    exact wellFormed.id_eq
  id_lt := by
    rw [vertices, nextId]
    exact wellFormed.id_lt
  ids_iff := by
    rw [vertices, ids]
    exact wellFormed.ids_iff
  ends := by
    rw [vertices, edges]
    exact wellFormed.ends
  lists_iff := by
    rw [edges, adjacency]
    exact wellFormed.lists_iff
  tidy := adjacency ▸ wellFormed.tidy

variable (wellFormed : graph.WellFormed)
include wellFormed

theorem mem_adjacent_iff : b ∈ graph.adjacent a ↔ VertexPair.of a b ∈ graph.edges :=
  mem_adjacent.trans wellFormed.lists_iff

/-- An edge joins two different vertices that are there. -/
theorem of_mem_edges (joined : VertexPair.of a b ∈ graph.edges) :
    a ≠ b ∧ a ∈ graph.vertices ∧ b ∈ graph.vertices := by
  obtain ⟨different, low, high⟩ := wellFormed.ends joined
  rcases VertexPair.low_high_of a b with ⟨first, second⟩ | ⟨first, second⟩ <;>
    rw [first, second] at different <;> rw [first] at low <;> rw [second] at high
  · exact ⟨different, low, high⟩
  · exact ⟨different.symm, high, low⟩

/-- Vertices of one key are one vertex. -/
theorem id_eq_of_key {first second : Vertex W} (here : graph.vertices[a]? = some first)
    (there : graph.vertices[b]? = some second) (same : first.key = second.key) : a = b := by
  have found := wellFormed.ids_iff.mpr ⟨first, here, same⟩
  rw [wellFormed.ids_iff.mpr ⟨second, there, rfl⟩] at found
  exact (Option.some.inj found).symm

theorem vertexFor?_eq {key : ResourceKey} {vertex : Vertex W} :
    graph.vertexFor? key = some vertex ↔
      graph.vertices[vertex.id]? = some vertex ∧ vertex.key = key := by
  rw [vertexFor?, Option.bind_eq_some_iff]
  constructor
  · rintro ⟨id, indexed, found⟩
    obtain ⟨_, same, named⟩ := wellFormed.ids_iff.mp indexed
    obtain rfl := Option.some.inj (found.symm.trans same)
    exact ⟨wellFormed.id_eq found ▸ found, named⟩
  · rintro ⟨found, named⟩
    exact ⟨vertex.id, wellFormed.ids_iff.mpr ⟨vertex, found, named⟩, found⟩

theorem clock (now : Int) : WellFormed { graph with clock := now } :=
  wellFormed.congr rfl rfl rfl rfl rfl

omit wellFormed in
theorem getElem?_updateVertex (graph : Topology W) (id : VertexId) (change : Vertex W → Vertex W)
    (other : VertexId) : (graph.updateVertex id change).vertices[other]? =
      if id = other then graph.vertices[other]?.map change else graph.vertices[other]? := by
  simp only [updateVertex, ExtTreeMap.getElem?_modify, LawfulEqOrd.compare_eq_iff_eq]
  by_cases same : id = other
  · subst same
    simp
  · simp [same]

/-- A change that leaves a vertex its number and its key. -/
theorem updateVertex (id : VertexId) {change : Vertex W → Vertex W}
    (kept : ∀ vertex, (change vertex).id = vertex.id ∧ (change vertex).key = vertex.key) :
    (graph.updateVertex id change).WellFormed := by
  have seen (other : VertexId) := getElem?_updateVertex graph id change other
  have present (other : VertexId) :
      other ∈ (graph.updateVertex id change).vertices ↔ other ∈ graph.vertices := by
    rw [ExtTreeMap.mem_iff_isSome_getElem?, ExtTreeMap.mem_iff_isSome_getElem?, seen]
    split <;> simp
  constructor
  · intro other vertex found
    rw [seen] at found
    split at found
    · obtain ⟨before, there, rfl⟩ := Option.map_eq_some_iff.mp found
      exact (kept before).1.trans (wellFormed.id_eq there)
    · exact wellFormed.id_eq found
  · intro other member
    exact wellFormed.id_lt ((present other).mp member)
  · intro key other
    change graph.ids[key]? = some other ↔ _
    rw [wellFormed.ids_iff, seen]
    split
    · simp [(kept _).2]
    · rfl
  · intro pair member
    simp only [present]
    exact wellFormed.ends member
  · exact wellFormed.lists_iff
  · exact wellFormed.tidy

/-- The vertex of a key is there once it is ensured. -/
theorem ensureVertex_spec (key : ResourceKey) :
    (graph.ensureVertex key).1.WellFormed ∧
      ∃ vertex, (graph.ensureVertex key).1.vertices[(graph.ensureVertex key).2.1]? = some vertex ∧
        vertex.key = key := by
  rw [ensureVertex]
  split
  · rename_i id indexed
    exact ⟨wellFormed, wellFormed.ids_iff.mp indexed⟩
  rename_i unknown
  have fresh : graph.nextId ∉ graph.vertices := fun member =>
    Nat.lt_irrefl _ (wellFormed.id_lt member)
  refine ⟨⟨?_, ?_, ?_, ?_, wellFormed.lists_iff, wellFormed.tidy⟩, ?_⟩
  · intro id vertex found
    simp only [ExtTreeMap.getElem?_insert, LawfulEqOrd.compare_eq_iff_eq] at found
    split at found
    · rename_i same
      rw [← Option.some.inj found]
      exact same
    · exact wellFormed.id_eq found
  · intro id member
    simp only [ExtTreeMap.mem_insert, LawfulEqOrd.compare_eq_iff_eq] at member
    rcases member with rfl | member
    · exact Nat.lt_succ_self _
    · exact Nat.lt_succ_of_lt (wellFormed.id_lt member)
  · intro other id
    simp only [ExtTreeMap.getElem?_insert, LawfulEqOrd.compare_eq_iff_eq]
    by_cases named : key = other
    · subst named
      by_cases same : graph.nextId = id
      · simp [same, Vertex.new]
      · have absent := mt wellFormed.ids_iff.mpr (by rw [unknown]; simp : graph.ids[key]? ≠ some id)
        simp [same, absent]
    · rw [if_neg named, wellFormed.ids_iff]
      by_cases same : graph.nextId = id
      · subst same
        simp [ExtTreeMap.getElem?_eq_none fresh, Vertex.new, named]
      · simp [same]
  · intro pair member
    obtain ⟨different, low, high⟩ := wellFormed.ends member
    simp only [ExtTreeMap.mem_insert]
    exact ⟨different, .inr low, .inr high⟩
  · simp [Vertex.new]

theorem ensureVertex (key : ResourceKey) : (graph.ensureVertex key).1.WellFormed :=
  (wellFormed.ensureVertex_spec key).1

theorem link (tie : Tie W) (here : a ∈ graph.vertices) (there : b ∈ graph.vertices) :
    (graph.link a b tie).1.WellFormed := by
  rw [Topology.link]
  split
  · exact wellFormed
  rename_i apart
  rw [not_or] at apart
  refine ⟨wellFormed.id_eq, wellFormed.id_lt, wellFormed.ids_iff, ?_, ?_,
    isTidy_addAdjacent (isTidy_addAdjacent wellFormed.tidy a b) b a⟩
  · intro pair member
    simp only [ExtTreeMap.mem_insert, LawfulEqOrd.compare_eq_iff_eq] at member
    rcases member with rfl | member
    · rcases VertexPair.low_high_of a b with ⟨low, high⟩ | ⟨low, high⟩ <;> rw [low, high]
      · exact ⟨apart.1, here, there⟩
      · exact ⟨Ne.symm apart.1, there, here⟩
    · exact wellFormed.ends member
  · intro c d
    rw [lists_addAdjacent, lists_addAdjacent, wellFormed.lists_iff]
    simp only [ExtTreeMap.mem_insert, LawfulEqOrd.compare_eq_iff_eq, VertexPair.of_eq_of]
    tauto

theorem unlink (pair : VertexPair) : (graph.unlink pair).WellFormed := by
  rw [Topology.unlink]
  split
  · refine ⟨wellFormed.id_eq, wellFormed.id_lt, wellFormed.ids_iff, ?_, ?_,
      isTidy_removeAdjacent (isTidy_removeAdjacent wellFormed.tidy _ _) _ _⟩
    · intro other member
      exact wellFormed.ends (ExtTreeMap.mem_erase.mp member).2
    · intro a b
      rw [lists_removeAdjacent, lists_removeAdjacent, wellFormed.lists_iff]
      simp only [ExtTreeMap.mem_erase, ne_eq, LawfulEqOrd.compare_eq_iff_eq, VertexPair.eq_of]
      tauto
  · exact wellFormed

theorem handOver (pair : VertexPair) (tie : Tie W) : (graph.handOver pair tie).WellFormed := by
  have same (other : VertexPair) :
      other ∈ (graph.handOver pair tie).edges ↔ other ∈ graph.edges := ExtTreeMap.mem_modify
  refine ⟨wellFormed.id_eq, wellFormed.id_lt, wellFormed.ids_iff, ?_, ?_, wellFormed.tidy⟩
  · intro other member
    exact wellFormed.ends ((same other).mp member)
  · intro a b
    exact wellFormed.lists_iff.trans (same _).symm

/-- A vertex that is not used has no edge. -/
theorem not_mem_edges_of_isUnused (unused : graph.isUnused id) (other : VertexId) :
    VertexPair.of id other ∉ graph.edges := by
  rw [isUnused, Bool.and_eq_true, List.isEmpty_iff] at unused
  rw [← wellFormed.mem_adjacent_iff, unused.2]
  exact List.not_mem_nil

omit wellFormed in
/-- A vertex is dropped if it is there and not used. -/
theorem prune_cases (graph : Topology W) (id : VertexId) :
    graph.prune id = (graph, false) ∨
      ∃ vertex, graph.vertices[id]? = some vertex ∧ graph.isUnused id ∧
        graph.prune id = ({ graph with
          vertices := graph.vertices.erase id
          ids := graph.ids.erase vertex.key
          adjacency := graph.adjacency.erase id }, true) := by
  rw [Topology.prune]
  split
  · rename_i vertex found
    split
    · rename_i unused
      exact .inr ⟨vertex, found, unused, rfl⟩
    · exact .inl rfl
  · exact .inl rfl

theorem prune (id : VertexId) : (graph.prune id).1.WellFormed := by
  rcases prune_cases graph id with same | ⟨vertex, found, unused, dropped⟩
  · rw [same]
    exact wellFormed
  rw [dropped]
  have apart := wellFormed.not_mem_edges_of_isUnused unused
  have seen (other : VertexId) : (graph.vertices.erase id)[other]? =
      if id = other then none else graph.vertices[other]? := by
    simp only [ExtTreeMap.getElem?_erase, LawfulEqOrd.compare_eq_iff_eq]
  constructor
  · intro other vertex there
    rw [seen] at there
    split at there
    · contradiction
    · exact wellFormed.id_eq there
  · intro other member
    exact wellFormed.id_lt (ExtTreeMap.mem_erase.mp member).2
  · intro key other
    simp only [ExtTreeMap.getElem?_erase, LawfulEqOrd.compare_eq_iff_eq]
    by_cases named : vertex.key = key
    · rw [if_pos named]
      refine iff_of_false (fun absurd => nomatch absurd) ?_
      rintro ⟨second, there, key_eq⟩
      split at there
      · contradiction
      · rename_i different
        exact absurd (wellFormed.id_eq_of_key found there (named.trans key_eq.symm)) different
    · rw [if_neg named, wellFormed.ids_iff]
      by_cases same : id = other
      · subst same
        simp [found, named]
      · simp [same]
  · intro pair member
    obtain ⟨different, low, high⟩ := wellFormed.ends member
    have present {other : VertexId} (there : other ∈ graph.vertices) (away : id ≠ other) :
        other ∈ graph.vertices.erase id :=
      ExtTreeMap.mem_erase.mpr ⟨by simpa using away, there⟩
    refine ⟨different, present low ?_, present high ?_⟩
    · rintro rfl
      exact apart pair.high (pair.of_low_high.symm ▸ member)
    · rintro rfl
      exact apart pair.low (VertexPair.of_comm _ _ ▸ pair.of_low_high.symm ▸ member)
  · intro a b
    simp only [Lists, ExtTreeMap.getElem?_erase, LawfulEqOrd.compare_eq_iff_eq]
    by_cases same : id = a
    · subst same
      simp [apart b]
    · simp only [same, if_false]
      exact wellFormed.lists_iff
  · intro other others there
    simp only [ExtTreeMap.getElem?_erase, LawfulEqOrd.compare_eq_iff_eq] at there
    split at there
    · contradiction
    · exact wellFormed.tidy other others there

end WellFormed
end Topology
end FaultCorrelation
