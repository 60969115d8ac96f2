import Mathlib.Data.List.Nodup
import FaultCorrelation.Distance.Cache
import FaultCorrelation.Proofs.Topology.WellFormed

/-! # What a table of distances lets go

Whatever a table is asked, and about whatever topologies, its entries and their stamps list each
other (`Orderly`), so that `recency` lists the pairs in the order of their last use. What an
operation does to a table is told by that list and by the distances that stay known (`Retains`): a
use takes a pair to the end, and only what is asked of a full table takes the first pair away.
-/

namespace FaultCorrelation

open Std

variable {W : Type}

/-- What a table can be told to do. -/
inductive CacheCall (W : Type) where
  | ask (order : VisitOrder W) (graph : Topology W) (a b : VertexId)
  | forget

namespace DistanceCache

variable {cache next : DistanceCache W} {pair other : VertexPair} {memo : Memo W} {distance : W}

/-- The pairs that are remembered, least recently used first. -/
def usage (cache : DistanceCache W) : List VertexPair := cache.recency.values

/-- The distance that is remembered for a pair. -/
def known? (cache : DistanceCache W) (pair : VertexPair) : Option W :=
  cache.entries[pair]?.map Memo.distance

theorem mem_of_known? (known : cache.known? pair = some distance) : pair ∈ cache.entries := by
  obtain ⟨memo, found, _⟩ := Option.map_eq_some_iff.mp known
  exact Collections.mem_of_getElem? found

/-- What every table is like: `recency` finds the entries by their stamps and nothing else, a new
stamp is beyond all others, and there is never more than there is room for. -/
structure Orderly (cache : DistanceCache W) : Prop where
  inverse (stamp : Nat) (pair : VertexPair) :
    cache.recency[stamp]? = some pair ↔ cache.entries[pair]?.map Memo.stamp = some stamp
  stamped {stamp : Nat} : stamp ∈ cache.recency → stamp < cache.nextStamp
  bounded : cache.size ≤ cache.capacity

theorem orderly_ofCapacity (capacity : Nat) : (ofCapacity capacity : DistanceCache W).Orderly where
  inverse stamp pair := by simp [ofCapacity]
  stamped absurd := by simp [ofCapacity] at absurd
  bounded := Nat.zero_le _

theorem orderly_invalidate (cache : DistanceCache W) : cache.invalidate.Orderly where
  inverse stamp pair := by simp [invalidate]
  stamped absurd := by simp [invalidate] at absurd
  bounded := Nat.zero_le _

namespace Orderly

/-- The counters do not bear on the tables. -/
theorem recount (orderly : cache.Orderly) (generation : Option Nat)
    (hits misses invalidations : Nat) :
    Orderly { cache with generation, hits, misses, invalidations } :=
  ⟨orderly.inverse, orderly.stamped, orderly.bounded⟩

theorem noted (orderly : cache.Orderly) (found : cache.entries[pair]? = some memo) :
    cache.recency[memo.stamp]? = some pair :=
  (orderly.inverse memo.stamp pair).mpr (by rw [found, Option.map_some])

theorem mem_usage (orderly : cache.Orderly) : pair ∈ cache.usage ↔ pair ∈ cache.entries := by
  rw [usage, Collections.mem_values]
  constructor
  · rintro ⟨stamp, found⟩
    obtain ⟨memo, there, _⟩ := Option.map_eq_some_iff.mp ((orderly.inverse stamp pair).mp found)
    exact Collections.mem_of_getElem? there
  · intro member
    obtain ⟨memo, found⟩ := Collections.exists_getElem? member
    exact ⟨memo.stamp, orderly.noted found⟩

/-- No two entries have the same stamp, and no pair has two. -/
theorem nodup_usage (orderly : cache.Orderly) : cache.usage.Nodup := by
  rw [usage, Collections.values_eq, List.nodup_map_iff_inj_on]
  · rintro ⟨stamp, pair⟩ here ⟨stamp', _⟩ there rfl
    rw [ExtTreeMap.mem_toList_iff_getElem?_eq_some, orderly.inverse] at here there
    rw [here] at there
    rw [Option.some.inj there]
  · exact ExtTreeMap.distinct_keys_toList.imp fun {first second} different same =>
      different (by rw [same, compare_self])

theorem usage_perm_keys (orderly : cache.Orderly) : cache.usage.Perm cache.entries.keys := by
  rw [List.perm_ext_iff_of_nodup orderly.nodup_usage ExtTreeMap.nodup_keys]
  intro pair
  rw [orderly.mem_usage, ExtTreeMap.mem_keys]

theorem length_usage (orderly : cache.Orderly) : cache.usage.length = cache.size :=
  orderly.usage_perm_keys.length_eq.trans ExtTreeMap.length_keys

theorem usage_erase (orderly : cache.Orderly) (found : cache.entries[pair]? = some memo) :
    (cache.recency.erase memo.stamp).values = cache.usage.erase pair := by
  rw [orderly.nodup_usage.erase_eq_filter, usage, Collections.values_eq, Collections.values_eq,
    Collections.toList_erase, List.filter_map]
  congr 1
  apply List.filter_congr
  rintro ⟨stamp, noted⟩ member
  rw [ExtTreeMap.mem_toList_iff_getElem?_eq_some] at member
  have same : stamp = memo.stamp ↔ noted = pair := by
    constructor
    · rintro rfl
      rw [orderly.noted found] at member
      exact (Option.some.inj member).symm
    · rintro rfl
      rw [orderly.inverse, found] at member
      exact (Option.some.inj member).symm
  by_cases noted = pair <;> simp_all

/-- A pair with the next stamp goes to the end. -/
theorem usage_append {recency : ExtTreeMap Nat VertexPair} {stamp : Nat}
    (beyond : ∀ other ∈ recency, other < stamp) (pair : VertexPair) :
    (recency.insert stamp pair).values = recency.values ++ [pair] := by
  rw [Collections.values_eq, Collections.values_eq, Collections.toList_insert_of_lt,
    List.map_append, List.map_singleton]
  intro other member
  exact Nat.compare_eq_lt.mpr (beyond other member)

theorem usage_touch (orderly : cache.Orderly) (found : cache.entries[pair]? = some memo) :
    (cache.touch pair memo).usage = cache.usage.erase pair ++ [pair] := by
  rw [← orderly.usage_erase found]
  refine usage_append (fun other member => ?_) pair
  exact orderly.stamped (ExtTreeMap.mem_of_mem_erase member)

theorem touch (orderly : cache.Orderly) (found : cache.entries[pair]? = some memo) :
    (cache.touch pair memo).Orderly where
  inverse stamp other := by
    have fresh : cache.recency[cache.nextStamp]? ≠ some other := fun taken =>
      absurd (orderly.stamped (Collections.mem_of_getElem? taken)) (Nat.lt_irrefl _)
    have noted := orderly.noted found
    have inverse := orderly.inverse stamp other
    simp only [DistanceCache.touch, ExtTreeMap.getElem?_insert, ExtTreeMap.getElem?_erase,
      LawfulEqOrd.compare_eq_iff_eq]
    grind
  stamped member := by
    rcases ExtTreeMap.mem_insert.mp member with same | member
    · rw [← LawfulEqOrd.eq_of_compare same]
      exact Nat.lt_succ_self _
    · exact Nat.lt_succ_of_lt (orderly.stamped (ExtTreeMap.mem_of_mem_erase member))
  bounded := by
    have size_eq : (cache.touch pair memo).size = cache.size := by
      rw [size, DistanceCache.touch, ExtTreeMap.size_insert,
        if_pos (ExtTreeMap.mem_iff_contains.mp (Collections.mem_of_getElem? found))]
      rfl
    exact Nat.le_trans (Nat.le_of_eq size_eq) orderly.bounded

theorem known?_touch (found : cache.entries[pair]? = some memo) :
    (cache.touch pair memo).known? = cache.known? := by
  funext other
  simp only [known?, DistanceCache.touch, ExtTreeMap.getElem?_insert,
    LawfulEqOrd.compare_eq_iff_eq]
  split
  · rename_i same
    rw [← same, found]
    rfl
  · rfl

/-- The oldest entry is the one that goes. -/
theorem dropOldest_eq (orderly : cache.Orderly) {rest : List VertexPair}
    (used : cache.usage = pair :: rest) : ∃ memo, cache.entries[pair]? = some memo ∧
      cache.recency.minKey? = some memo.stamp ∧
      cache.dropOldest = { cache with
        entries := cache.entries.erase pair, recency := cache.recency.erase memo.stamp } := by
  obtain ⟨stamp, first⟩ : ∃ stamp, cache.recency.toList.head? = some (stamp, pair) := by
    have first : (cache.recency.toList.map Prod.snd).head? = some pair := by
      rw [← Collections.values_eq, ← usage, used, List.head?_cons]
    rw [List.head?_map, Option.map_eq_some_iff] at first
    obtain ⟨⟨stamp, _⟩, first, rfl⟩ := first
    exact ⟨stamp, first⟩
  have least : cache.recency.minKey? = some stamp := by
    rw [ExtTreeMap.minKey?_eq_head?_keys, ← ExtTreeMap.map_fst_toList_eq_keys, List.head?_map,
      first, Option.map_some]
  have noted := ExtTreeMap.mem_toList_iff_getElem?_eq_some.mp (List.mem_of_head? first)
  obtain ⟨memo, found, rfl⟩ := Option.map_eq_some_iff.mp ((orderly.inverse stamp pair).mp noted)
  exact ⟨memo, found, least, by rw [DistanceCache.dropOldest, least]; simp [noted]⟩

end Orderly

/-- The table with room for one more entry. -/
def makeRoom (cache : DistanceCache W) : DistanceCache W :=
  if cache.capacity ≤ cache.size then cache.dropOldest else cache

/-- The table with an entry for a pair that had none. -/
def note (cache : DistanceCache W) (pair : VertexPair) (distance : W) : DistanceCache W :=
  { cache with
    entries := cache.entries.insert pair ⟨distance, cache.nextStamp⟩
    recency := cache.recency.insert cache.nextStamp pair
    nextStamp := cache.nextStamp + 1 }

theorem remember_of_not_mem (absent : pair ∉ cache.entries) (distance : W) :
    cache.remember pair distance = cache.makeRoom.note pair distance := by
  have nothing : cache.dropPair pair = cache := by
    rw [dropPair, ExtTreeMap.getElem?_eq_none absent]
  rw [remember, nothing]
  rfl

/-- What becomes of a table: the pairs `kept` are still there, in the order they were and with their
distances, and the pairs `added` come behind them. -/
structure Retains (cache next : DistanceCache W) (kept added : List VertexPair) : Prop where
  orderly : next.Orderly
  usage_eq : next.usage = kept ++ added
  known?_eq : ∀ pair ∈ kept, next.known? pair = cache.known? pair
  capacity_eq : next.capacity = cache.capacity
  generation_eq : next.generation = cache.generation
  hits_eq : next.hits = cache.hits
  misses_eq : next.misses = cache.misses

theorem Orderly.retains (orderly : cache.Orderly) : cache.Retains cache cache.usage [] :=
  ⟨orderly, (List.append_nil _).symm, fun _ _ => rfl, rfl, rfl, rfl, rfl⟩

theorem Retains.trans {last : DistanceCache W} {kept added more : List VertexPair}
    (first : cache.Retains next kept added) (second : next.Retains last (kept ++ added) more) :
    cache.Retains last kept (added ++ more) where
  orderly := second.orderly
  usage_eq := second.usage_eq.trans (List.append_assoc ..)
  known?_eq pair member :=
    (second.known?_eq pair (List.mem_append_left _ member)).trans (first.known?_eq pair member)
  capacity_eq := second.capacity_eq.trans first.capacity_eq
  generation_eq := second.generation_eq.trans first.generation_eq
  hits_eq := second.hits_eq.trans first.hits_eq
  misses_eq := second.misses_eq.trans first.misses_eq

namespace Orderly

theorem retains_dropOldest (orderly : cache.Orderly) {rest : List VertexPair}
    (used : cache.usage = pair :: rest) : cache.Retains cache.dropOldest rest [] := by
  obtain ⟨memo, found, least, dropped⟩ := orderly.dropOldest_eq used
  have nodup := used ▸ orderly.nodup_usage
  rw [dropped]
  refine ⟨⟨fun stamp other => ?_, fun member => ?_, ?_⟩, ?_, fun other member => ?_, rfl, rfl,
    rfl, rfl⟩
  · have noted := orderly.noted found
    have inverse := orderly.inverse stamp other
    simp only [ExtTreeMap.getElem?_erase, LawfulEqOrd.compare_eq_iff_eq]
    grind
  · exact orderly.stamped (ExtTreeMap.mem_of_mem_erase member)
  · exact Nat.le_trans ExtTreeMap.size_erase_le orderly.bounded
  · simp only [usage, Collections.values_eq, Collections.toList_erase_of_minKey? least]
    rw [List.map_tail, ← Collections.values_eq, ← usage, used, List.tail_cons, List.append_nil]
  · have different : pair ≠ other := fun same =>
      (List.nodup_cons.mp nodup).1 (same ▸ member)
    simp only [known?, ExtTreeMap.getElem?_erase, LawfulEqOrd.compare_eq_iff_eq, different,
      if_false]

/-- A full table loses its oldest entry, any other none. -/
theorem retains_makeRoom (orderly : cache.Orderly) :
    cache.Retains cache.makeRoom
      (if cache.capacity ≤ cache.size then cache.usage.tail else cache.usage) [] ∧
    cache.makeRoom.size < cache.capacity := by
  rw [makeRoom]
  split
  · rename_i full
    cases used : cache.usage with
    | nil =>
      have empty := orderly.length_usage
      rw [used, List.length_nil] at empty
      exact absurd cache.capacity_pos (by omega)
    | cons pair rest =>
      have retains := orderly.retains_dropOldest used
      refine ⟨retains, ?_⟩
      have before := orderly.length_usage
      have after := retains.orderly.length_usage
      rw [used, List.length_cons] at before
      rw [retains.usage_eq, List.append_nil] at after
      have bounded := orderly.bounded
      omega
  · exact ⟨orderly.retains, by omega⟩

theorem retains_note (orderly : cache.Orderly) (absent : pair ∉ cache.entries)
    (room : cache.size < cache.capacity) (distance : W) :
    cache.Retains (cache.note pair distance) cache.usage [pair] where
  orderly := {
    inverse stamp other := by
      have fresh (other : VertexPair) : cache.recency[cache.nextStamp]? ≠ some other :=
        fun taken => absurd (orderly.stamped (Collections.mem_of_getElem? taken))
          (Nat.lt_irrefl _)
      have inverse := orderly.inverse stamp other
      have none := ExtTreeMap.getElem?_eq_none absent
      simp only [note, ExtTreeMap.getElem?_insert, LawfulEqOrd.compare_eq_iff_eq]
      grind
    stamped member := by
      rcases ExtTreeMap.mem_insert.mp member with same | member
      · rw [← LawfulEqOrd.eq_of_compare same]
        exact Nat.lt_succ_self _
      · exact Nat.lt_succ_of_lt (orderly.stamped member)
    bounded := Nat.le_trans ExtTreeMap.size_insert_le room }
  usage_eq := usage_append (fun _ member => orderly.stamped member) pair
  known?_eq other member := by
    have different : pair ≠ other := fun same => absent (same ▸ orderly.mem_usage.mp member)
    simp only [known?, note, ExtTreeMap.getElem?_insert, LawfulEqOrd.compare_eq_iff_eq, different,
      if_false]
  capacity_eq := rfl
  generation_eq := rfl
  hits_eq := rfl
  misses_eq := rfl

/-- A new pair takes the last place, in a full table at the cost of the oldest entry. -/
theorem retains_remember (orderly : cache.Orderly) (absent : pair ∉ cache.entries)
    (distance : W) : cache.Retains (cache.remember pair distance)
      (if cache.capacity ≤ cache.size then cache.usage.tail else cache.usage) [pair] := by
  obtain ⟨made, room⟩ := orderly.retains_makeRoom
  have still : pair ∉ cache.makeRoom.entries := by
    rw [← made.orderly.mem_usage, made.usage_eq, List.append_nil]
    intro member
    refine absent (orderly.mem_usage.mp ?_)
    split at member
    · exact List.mem_of_mem_tail member
    · exact member
  rw [remember_of_not_mem absent]
  have noted := made.orderly.retains_note still (made.capacity_eq ▸ room) distance
  exact made.trans (made.usage_eq ▸ noted)

variable {source requested : VertexId}

/-- Side results fill a table up without taking anything away, and leave a place free. -/
theorem retains_rememberSides (orderly : cache.Orderly) (room : cache.size < cache.capacity)
    (absent : .of source requested ∉ cache.entries) (results : List (VertexId × W)) :
    ∃ sides, cache.Retains (rememberSides source requested cache results) cache.usage sides ∧
      (rememberSides source requested cache results).size < cache.capacity ∧
      .of source requested ∉ (rememberSides source requested cache results).entries := by
  induction results generalizing cache with
  | nil => exact ⟨[], orderly.retains, room, absent⟩
  | cons first rest ih =>
    rw [rememberSides]
    dsimp only
    split
    · exact ⟨[], orderly.retains, room, absent⟩
    rename_i free
    split
    · exact ih orderly room absent
    rename_i new
    obtain ⟨elsewhere, other, new⟩ : first.1 ≠ source ∧ first.1 ≠ requested ∧
        VertexPair.of source first.1 ∉ cache.entries := by tauto
    have noted := orderly.retains_remember new first.2
    rw [if_neg (by omega)] at noted
    have size_eq := noted.orderly.length_usage
    rw [noted.usage_eq, List.length_append, orderly.length_usage, List.length_singleton] at size_eq
    have still : .of source requested ∉ (cache.remember (.of source first.1) first.2).entries := by
      rw [← noted.orderly.mem_usage, noted.usage_eq, List.mem_append, orderly.mem_usage,
        List.mem_singleton, VertexPair.of_eq_of]
      rintro (member | ⟨_, same⟩ | ⟨same, _⟩)
      · exact absent member
      · exact other same.symm
      · exact elsewhere same.symm
    obtain ⟨sides, filled, left, away⟩ :=
      ih noted.orderly (by rw [noted.capacity_eq]; omega) still
    exact ⟨_, noted.trans (noted.usage_eq ▸ filled), noted.capacity_eq ▸ left, away⟩

end Orderly

theorem rememberSides_of_full {source requested : VertexId}
    (full : cache.capacity ≤ cache.size) (results : List (VertexId × W)) :
    rememberSides source requested cache results = cache := by
  cases results with
  | nil => rfl
  | cons first rest => rw [rememberSides, if_pos (Nat.le_succ_of_le full)]

/-- What a search brings takes the oldest entry from a full table, and from any other none. -/
theorem Orderly.retains_search (orderly : cache.Orderly) {source target : VertexId}
    (absent : .of source target ∉ cache.entries) (results : List (VertexId × W)) (distance : W) :
    ∃ sides, (cache.capacity ≤ cache.size → sides = []) ∧
      cache.Retains
        ((rememberSides source target cache results).remember (.of source target) distance)
        (if cache.capacity ≤ cache.size then cache.usage.tail else cache.usage)
        (sides ++ [.of source target]) := by
  by_cases full : cache.capacity ≤ cache.size
  · rw [rememberSides_of_full full]
    exact ⟨[], fun _ => rfl, orderly.retains_remember absent distance⟩
  · obtain ⟨sides, filled, room, away⟩ :=
      orderly.retains_rememberSides (Nat.not_le.mp full) absent results
    have remembered := filled.orderly.retains_remember away distance
    rw [if_neg (by rw [filled.capacity_eq]; exact Nat.not_le.mpr room)] at remembered
    rw [if_neg full]
    exact ⟨sides, fun holds => absurd holds full, filled.trans (filled.usage_eq ▸ remembered)⟩

/-- What becomes of a table when it tells the distance of a pair. -/
inductive Tells (kept : DistanceCache W) (pair : VertexPair) (distance : W) :
    DistanceCache W → Prop where
  | hit {next : DistanceCache W} (known : kept.known? pair = some distance)
      (retains : Retains { kept with hits := kept.hits + 1 } next (kept.usage.erase pair) [pair])
      (known?_eq : next.known? = kept.known?) : Tells kept pair distance next
  | miss {next : DistanceCache W} (sides : List VertexPair) (absent : pair ∉ kept.entries)
      (retains : Retains { kept with misses := kept.misses + 1 } next
        (if kept.capacity ≤ kept.size then kept.usage.tail else kept.usage) (sides ++ [pair]))
      (full : kept.capacity ≤ kept.size → sides = [])
      (known : next.known? pair = some distance) : Tells kept pair distance next

/-- Every answer is counted once. -/
theorem Tells.counted {kept : DistanceCache W} (tells : kept.Tells pair distance next) :
    next.Orderly ∧ next.generation = kept.generation ∧ next.capacity = kept.capacity ∧
      next.hits + next.misses = kept.hits + kept.misses + 1 := by
  cases tells with
  | hit _ retains =>
    refine ⟨retains.orderly, retains.generation_eq, retains.capacity_eq, ?_⟩
    rw [retains.hits_eq, retains.misses_eq]
    exact Nat.add_right_comm ..
  | miss _ _ retains =>
    refine ⟨retains.orderly, retains.generation_eq, retains.capacity_eq, ?_⟩
    rw [retains.hits_eq, retains.misses_eq, Nat.add_assoc]

theorem Orderly.tells_touch (orderly : cache.Orderly) (found : cache.entries[pair]? = some memo) :
    cache.Tells pair memo.distance { cache.touch pair memo with hits := cache.hits + 1 } := by
  have same := known?_touch found
  exact .hit (by rw [known?, found, Option.map_some])
    ⟨(orderly.touch found).recount _ _ _ _, orderly.usage_touch found,
      fun other _ => congrFun same other, rfl, rfl, rfl, rfl⟩ same

variable [Weight W] {order : VisitOrder W} {graph : Topology W} {a b : VertexId}

theorem Orderly.tells_compute (orderly : cache.Orderly) (absent : .of a b ∉ cache.entries)
    (order : VisitOrder W) (graph : Topology W) : cache.Tells (.of a b)
      (cache.compute order graph a b).1 (cache.compute order graph a b).2 := by
  have missed := orderly.recount cache.generation cache.hits (cache.misses + 1) cache.invalidations
  obtain ⟨sides, full, retains⟩ := missed.retains_search absent
    (order.arrange (graph.distancesFrom a).toList) ((graph.distancesFrom a)[b]?.getD Weight.noPath)
  refine .miss sides absent retains full ?_
  simp only [compute, known?, remember, ExtTreeMap.getElem?_insert_self, Option.map_some]

/-- What a question comes to. -/
theorem distance_cases (orderly : (cache.sync graph.generation).Orderly) (order : VisitOrder W)
    (a b : VertexId) :
    (cache.distance order graph a b).2 = cache.sync graph.generation ∧
        (∀ distance, (cache.distance order graph a b).1 = .ok distance → a = b) ∨
      a ≠ b ∧ ∃ distance, (cache.distance order graph a b).1 = .ok distance ∧
        (cache.sync graph.generation).Tells (.of a b) distance
          (cache.distance order graph a b).2 := by
  rw [distance]
  generalize cache.sync graph.generation = kept at orderly
  dsimp only
  split
  · exact .inl ⟨rfl, fun _ absurd => nomatch absurd⟩
  split
  · exact .inl ⟨rfl, fun _ absurd => nomatch absurd⟩
  split
  · rename_i same
    exact .inl ⟨rfl, fun _ _ => same⟩
  rename_i different
  refine .inr ⟨different, ?_⟩
  split
  · rename_i memo found
    exact ⟨memo.distance, rfl, orderly.tells_touch found⟩
  · rename_i none
    have absent : .of a b ∉ kept.entries := fun member => by
      obtain ⟨memo, found⟩ := Collections.exists_getElem? member
      rw [none] at found
      contradiction
    exact ⟨_, rfl, orderly.tells_compute absent order graph⟩

/-- The table after a call. -/
def call (cache : DistanceCache W) : CacheCall W → DistanceCache W
  | .ask order graph a b => (cache.distance order graph a b).2
  | .forget => cache.invalidate

/-- The table after calls. -/
def callAll (cache : DistanceCache W) (calls : List (CacheCall W)) : DistanceCache W :=
  calls.foldl call cache

/-- Whether a call is answered with the distance between two different vertices. -/
def tells (cache : DistanceCache W) : CacheCall W → Bool
  | .ask order graph a b => decide (a ≠ b) && (cache.distance order graph a b).1.isOk
  | .forget => false

/-- How many calls are answered so. -/
def countTold (cache : DistanceCache W) : List (CacheCall W) → Nat
  | [] => 0
  | first :: rest => (cache.tells first).toNat + (cache.call first).countTold rest

/-- What a table is like that was asked: `told` counts the distances between two different vertices
that were told. -/
structure IsAsked (cache : DistanceCache W) (capacity told : Nat) : Prop where
  orderly : cache.Orderly
  bare : cache.generation = none → cache.usage = []
  capacity_eq : cache.capacity = max capacity 1
  told_eq : cache.hits + cache.misses = told

omit [Weight W] in
theorem isAsked_ofCapacity (capacity : Nat) :
    (ofCapacity capacity : DistanceCache W).IsAsked capacity 0 :=
  ⟨orderly_ofCapacity capacity, fun _ => rfl, rfl, rfl⟩

namespace IsAsked

variable {capacity told : Nat}

omit [Weight W] in
/-- The table is emptied where the edges have changed, and only there. -/
theorem sync (asked : cache.IsAsked capacity told) (generation : Nat) :
    (cache.sync generation).IsAsked capacity told ∧
      (cache.sync generation).generation = some generation ∧
      (cache.sync generation).usage =
        if cache.generation = some generation then cache.usage else [] := by
  rw [DistanceCache.sync]
  split
  · rename_i same
    exact ⟨asked, same, rfl⟩
  dsimp only
  split
  · exact ⟨⟨(orderly_invalidate cache).recount _ _ _ _, fun _ => rfl, asked.capacity_eq,
      asked.told_eq⟩, rfl, rfl⟩
  · rename_i none
    have empty := asked.bare (by simpa using none)
    exact ⟨⟨asked.orderly.recount _ _ _ _, fun _ => empty, asked.capacity_eq, asked.told_eq⟩, rfl,
      empty⟩

omit [Weight W] in
theorem full_iff (asked : cache.IsAsked capacity told) :
    cache.size = max capacity 1 ↔ cache.capacity ≤ cache.size := by
  have bounded := asked.orderly.bounded
  rw [asked.capacity_eq] at bounded ⊢
  omega

theorem call (asked : cache.IsAsked capacity told) (next : CacheCall W) :
    (cache.call next).IsAsked capacity (told + (cache.tells next).toNat) := by
  cases next with
  | forget => exact ⟨orderly_invalidate cache, fun _ => rfl, asked.capacity_eq, asked.told_eq⟩
  | ask order graph a b =>
    obtain ⟨kept, current, _⟩ := asked.sync graph.generation
    rw [DistanceCache.call, DistanceCache.tells]
    rcases distance_cases kept.orderly order a b with
      ⟨same, none⟩ | ⟨different, distance, ok, tells⟩
    · have untold : (decide (a ≠ b) && (cache.distance order graph a b).1.isOk) = false := by
        cases answer : (cache.distance order graph a b).1 with
        | error cause => simp [Except.isOk, Except.toBool]
        | ok distance => simp [none distance answer]
      rw [same, untold]
      exact kept
    · have answered : (decide (a ≠ b) && (cache.distance order graph a b).1.isOk) = true := by
        rw [ok]
        simpa [Except.isOk, Except.toBool] using different
      rw [answered]
      obtain ⟨orderly, generation_eq, capacity_eq, counted⟩ := tells.counted
      refine ⟨orderly, fun none => ?_, capacity_eq.trans kept.capacity_eq, ?_⟩
      · rw [generation_eq, current] at none
        contradiction
      · rw [counted, kept.told_eq, Bool.toNat_true]

theorem callAll (asked : cache.IsAsked capacity told) (calls : List (CacheCall W)) :
    (cache.callAll calls).IsAsked capacity (told + cache.countTold calls) := by
  induction calls generalizing cache told with
  | nil => exact asked
  | cons first rest ih =>
    rw [countTold, ← Nat.add_assoc]
    exact ih (asked.call first)

end IsAsked

/-- The entries are listed by their stamps at all times, and there are never too many. A distance
between two different vertices that is told is remembered, as the one that was used last; so that
`hits` and `misses` together count those answers. If it was remembered already, nothing is lost.
Otherwise the side results fill the table up, and only a table that was full beforehand loses an
entry, the one that was used least recently. -/
theorem oldest_makes_room (capacity : Nat) (calls : List (CacheCall W)) :
    let cache := (ofCapacity capacity : DistanceCache W).callAll calls
    cache.Orderly ∧ cache.usage.Perm cache.entries.keys ∧ cache.size ≤ max capacity 1 ∧
    cache.hits + cache.misses = (ofCapacity capacity : DistanceCache W).countTold calls ∧
    ∀ (order : VisitOrder W) (graph : Topology W) (a b : VertexId),
      let kept := cache.sync graph.generation
      let answer := (cache.distance order graph a b).1
      let next := (cache.distance order graph a b).2
      (cache.generation = some graph.generation → kept = cache) ∧
      (cache.generation ≠ some graph.generation → kept.usage = []) ∧
      ((∀ distance, answer = .ok distance → a = b) → next = kept) ∧
      ∀ distance, answer = .ok distance → a ≠ b →
        next.known? (.of a b) = some distance ∧
        next.usage.getLast? = some (.of a b) ∧
        (.of a b ∈ kept.entries →
          next.hits = kept.hits + 1 ∧ next.misses = kept.misses ∧
          next.usage = kept.usage.erase (.of a b) ++ [.of a b] ∧
          ∀ other, next.known? other = kept.known? other) ∧
        (.of a b ∉ kept.entries →
          next.hits = kept.hits ∧ next.misses = kept.misses + 1 ∧
          let survivors := if kept.size = max capacity 1 then kept.usage.tail else kept.usage
          ∃ sides, (kept.size = max capacity 1 → sides = []) ∧
            next.usage = survivors ++ (sides ++ [.of a b]) ∧
            ∀ other ∈ survivors, next.known? other = kept.known? other) := by
  intro cache
  have asked : cache.IsAsked capacity _ := (isAsked_ofCapacity capacity).callAll calls
  clear_value cache
  refine ⟨asked.orderly, asked.orderly.usage_perm_keys,
    asked.capacity_eq ▸ asked.orderly.bounded, asked.told_eq.trans (Nat.zero_add _), ?_⟩
  intro order graph a b kept answer next
  obtain ⟨still, _, usage_eq⟩ : kept.IsAsked capacity _ ∧ _ ∧ kept.usage = _ :=
    asked.sync graph.generation
  have cases : next = kept ∧ (∀ distance, answer = .ok distance → a = b) ∨
      a ≠ b ∧ ∃ distance, answer = .ok distance ∧ kept.Tells (.of a b) distance next :=
    distance_cases still.orderly order a b
  refine ⟨fun same => if_pos same, fun changed => usage_eq.trans (if_neg changed), ?_, ?_⟩ <;>
    clear_value answer next kept
  · intro none
    rcases cases with ⟨same, _⟩ | ⟨different, distance, ok, _⟩
    · exact same
    · exact absurd (none distance ok) different
  · intro distance ok different
    have tells : kept.Tells (.of a b) distance next := by
      rcases cases with ⟨_, none⟩ | ⟨_, told, answered, tells⟩
      · exact absurd (none distance ok) different
      · obtain rfl := Except.ok.inj (ok.symm.trans answered)
        exact tells
    simp only [still.full_iff]
    cases tells with
    | hit known retains same =>
      refine ⟨same ▸ known, ?_, fun _ => ?_, fun absent => absurd (mem_of_known? known) absent⟩
      · rw [retains.usage_eq, List.getLast?_concat]
      · exact ⟨retains.hits_eq, retains.misses_eq, retains.usage_eq, congrFun same⟩
    | miss sides absent retains full known =>
      refine ⟨known, ?_, fun member => absurd member absent, fun _ => ?_⟩
      · rw [retains.usage_eq, ← List.append_assoc, List.getLast?_concat]
      · exact ⟨retains.hits_eq, retains.misses_eq, sides, full, retains.usage_eq,
          retains.known?_eq⟩

end DistanceCache
end FaultCorrelation
