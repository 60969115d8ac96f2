import FaultCorrelation.Proofs.Cluster.Growth
import FaultCorrelation.Proofs.Cluster.Relation

/-! # Clusters by density

`IsClustering` says what the clusters of points are without saying how they are found: core points
are together if chains of core points join them, and every other point near a core point is in the
first cluster that has a core point near it. The sweep over the seeds finds them, if nearness is
symmetric; what it has found is such a clustering as far as it has come (`Sweeping`). That distances
are asked for in a monad makes no difference, as long as each answer is the same at any time.
-/

namespace FaultCorrelation

namespace Density

variable {D : Type} [LE D] [DecidableLE D] {n : Nat}

/-- Whether clusters are the ones that density calls for. -/
structure IsClustering (density : Density D) (distance : Fin n → Fin n → D)
    (clusters : List (List (Fin n))) : Prop where
  distinct : clusters.flatten.Nodup
  mem_iff (point : Fin n) : point ∈ clusters.flatten ↔ density.IsCorePoint distance point ∨
    ∃ core, density.IsCorePoint distance core ∧ density.Near distance core point
  together_iff {first second : Fin n} :
    density.IsCorePoint distance first → density.IsCorePoint distance second →
      ((∃ cluster ∈ clusters, first ∈ cluster ∧ second ∈ cluster) ↔
        density.Chained distance first second)
  /-- Every point of a cluster is near a core point of it, -/
  reached : ∀ cluster ∈ clusters, ∀ point ∈ cluster,
    ∃ core ∈ cluster, density.IsCorePoint distance core ∧ density.Near distance core point
  /-- and near no core point of an earlier cluster. -/
  earliest : clusters.Pairwise fun earlier later => ∀ core ∈ earlier,
    density.IsCorePoint distance core → ∀ point ∈ later, ¬ density.Near distance core point
  /-- A cluster begins with the first of its core points. -/
  seeded : ∀ cluster ∈ clusters, ∃ seed ∈ cluster.head?, density.IsCorePoint distance seed ∧
    ∀ core ∈ cluster, density.IsCorePoint distance core → seed ≤ core
  ordered : clusters.Pairwise fun earlier later =>
    ∀ seed ∈ earlier.head?, ∀ next ∈ later.head?, seed < next

/-- What a cluster is like in itself. -/
structure IsCluster (density : Density D) (distance : Fin n → Fin n → D) (seed : Fin n)
    (cluster : List (Fin n)) : Prop where
  begun : seed ∈ cluster.head?
  core : density.IsCorePoint distance seed
  least {other : Fin n} : other ∈ cluster → density.IsCorePoint distance other → seed ≤ other
  chained {other : Fin n} :
    other ∈ cluster → density.IsCorePoint distance other → density.Chained distance seed other
  reached {point : Fin n} : point ∈ cluster →
    ∃ core ∈ cluster, density.IsCorePoint distance core ∧ density.Near distance core point

/-- How things stand during a sweep: the clusters found, the labels and the seeds that are left. -/
structure Sweeping (density : Density D) (distance : Fin n → Fin n → D)
    (found : List (List (Fin n))) (labels : Vector Label n) (seeds : List (Fin n)) : Prop where
  clustered_iff (point : Fin n) : IsClustered labels point ↔ point ∈ found.flatten
  noise (point : Fin n) : getElem labels point point.isLt = .noise →
    ¬ density.IsCorePoint distance point
  ahead (point : Fin n) : getElem labels point point.isLt = .unvisited → point ∈ seeds
  /-- What is near a core point of a cluster is in a cluster. -/
  closed {core point : Fin n} : IsClustered labels core → density.IsCorePoint distance core →
    density.Near distance core point → IsClustered labels point
  distinct : found.flatten.Nodup
  clusters : ∀ cluster ∈ found, ∃ seed, density.IsCluster distance seed cluster ∧
    ∀ next ∈ seeds, seed < next
  earliest : found.Pairwise fun earlier later => ∀ core ∈ earlier,
    density.IsCorePoint distance core → ∀ point ∈ later, ¬ density.Near distance core point
  ordered : found.Pairwise fun earlier later =>
    ∀ seed ∈ earlier.head?, ∀ next ∈ later.head?, seed < next
  sorted : seeds.Pairwise (· < ·)

variable {density : Density D} {distance : Fin n → Fin n → D} {found : List (List (Fin n))}
  {labels : Vector Label n} {seed : Fin n} {seeds : List (Fin n)}

theorem Chained.symm {first second : Fin n} (chained : density.Chained distance first second)
    (symmetric : ∀ first second, density.Near distance first second →
      density.Near distance second first) : density.Chained distance second first := by
  induction chained with
  | refl => exact .refl
  | tail _ step ih => exact ih.head ⟨step.2.1, step.1, symmetric _ _ step.2.2⟩

theorem sweeping_start (density : Density D) (distance : Fin n → Fin n → D) :
    Sweeping density distance [] (Vector.replicate n .unvisited) (List.finRange n) where
  clustered_iff point := by simp [IsClustered]
  noise point absurd := by simp at absurd
  ahead point _ := List.mem_finRange point
  closed inside := by simp [IsClustered] at inside
  distinct := List.nodup_nil
  clusters _ member := absurd member List.not_mem_nil
  earliest := .nil
  ordered := .nil
  sorted := List.pairwise_lt_finRange n

namespace Sweeping

/-- A core point that is in no cluster is still ahead. -/
theorem mem_seeds_of_core (sweeping : Sweeping density distance found labels seeds)
    {point : Fin n} (outside : ¬ IsClustered labels point)
    (isCore : density.IsCorePoint distance point) : point ∈ seeds := by
  cases label : getElem labels point point.isLt with
  | unvisited => exact sweeping.ahead point label
  | noise => exact absurd isCore (sweeping.noise point label)
  | clustered => exact absurd label outside

/-- With a seed less ahead, the clusters begin before all that are left. -/
theorem clusters_before (sweeping : Sweeping density distance found labels (seed :: seeds)) :
    ∀ cluster ∈ found, ∃ first, density.IsCluster distance first cluster ∧
      ∀ next ∈ seeds, first < next := by
  intro cluster listed
  obtain ⟨first, isCluster, before⟩ := sweeping.clusters cluster listed
  exact ⟨first, isCluster, fun next left => before next (List.mem_cons_of_mem _ left)⟩

/-- A seed that was visited is passed over. -/
theorem pass (sweeping : Sweeping density distance found labels (seed :: seeds))
    (visited : getElem labels seed seed.isLt ≠ .unvisited) :
    Sweeping density distance found labels seeds where
  clustered_iff := sweeping.clustered_iff
  noise := sweeping.noise
  ahead point unvisited := (List.mem_cons.mp (sweeping.ahead point unvisited)).resolve_left
    fun same => visited (same ▸ unvisited)
  closed := sweeping.closed
  distinct := sweeping.distinct
  clusters := sweeping.clusters_before
  earliest := sweeping.earliest
  ordered := sweeping.ordered
  sorted := sweeping.sorted.of_cons

/-- A seed that is no core point is noise. -/
theorem reject (sweeping : Sweeping density distance found labels (seed :: seeds))
    (unvisited : getElem labels seed seed.isLt = .unvisited)
    (notCore : ¬ density.IsCorePoint distance seed) :
    Sweeping density distance found (labels.set seed .noise seed.isLt) seeds := by
  have label (point : Fin n) : getElem (labels.set seed .noise seed.isLt) point point.isLt =
      if seed = point then .noise else getElem labels point point.isLt :=
    getElem_set_label labels seed point _
  have clustered (point : Fin n) :
      IsClustered (labels.set seed .noise seed.isLt) point ↔ IsClustered labels point := by
    rw [IsClustered, IsClustered, label]
    split
    · rename_i same
      rw [← same, unvisited]
      decide
    · rfl
  refine ⟨fun point => (clustered point).trans (sweeping.clustered_iff point),
    fun point noise => ?_, fun point waiting => ?_, fun inside core near => ?_, sweeping.distinct,
    sweeping.clusters_before, sweeping.earliest, sweeping.ordered, sweeping.sorted.of_cons⟩
  · rw [label] at noise
    split at noise
    · rename_i same
      exact same ▸ notCore
    · exact sweeping.noise point noise
  · rw [label] at waiting
    split at waiting
    · contradiction
    · rename_i different
      exact (List.mem_cons.mp (sweeping.ahead point waiting)).resolve_left (Ne.symm different)
  · exact (clustered _).mpr (sweeping.closed ((clustered _).mp inside) core near)

/-- A cluster that has grown from a seed is added to those that were found. -/
theorem add (sweeping : Sweeping density distance found labels (seed :: seeds))
    (core : density.IsCorePoint distance seed) {after : Vector Label n} {members : List (Fin n)}
    (grown : Growing density distance labels seed after members []) :
    Sweeping density distance (found ++ [members]) after seeds := by
  obtain ⟨before, sorted⟩ := List.pairwise_cons.mp sweeping.sorted
  have old {point : Fin n} : IsClustered labels point ↔ point ∈ found.flatten :=
    sweeping.clustered_iff point
  have begun : seed ∈ members.head? := by
    obtain ⟨rest, rfl⟩ := grown.begun
    rfl
  have flat : (found ++ [members]).flatten = found.flatten ++ members := by simp
  have isCluster : density.IsCluster distance seed members := by
    refine ⟨begun, core, fun {other} member isCore => ?_, grown.chained,
      fun member => grown.reached (.inl member)⟩
    have ahead := sweeping.mem_seeds_of_core (grown.free member) isCore
    rcases List.mem_cons.mp ahead with rfl | left
    · exact le_refl _
    · exact le_of_lt (before other left)
  refine ⟨fun point => ?_, fun point noise => ?_, fun point waiting => ?_,
    fun {inner point} inside isCore near => ?_, ?_, fun cluster member => ?_, ?_, ?_, sorted⟩
  · rw [grown.clustered_iff, old, flat, List.mem_append]
  · have outside : ¬ IsClustered after point := by simp [IsClustered, noise]
    exact sweeping.noise point ((grown.kept point outside).symm.trans noise)
  · have outside : ¬ IsClustered after point := by simp [IsClustered, waiting]
    have unvisited := sweeping.ahead point ((grown.kept point outside).symm.trans waiting)
    refine (List.mem_cons.mp unvisited).resolve_left ?_
    rintro rfl
    exact outside ((grown.clustered_iff _).mpr (.inr (List.mem_of_mem_head? begun)))
  · rcases (grown.clustered_iff inner).mp inside with earlier | member
    · exact (grown.clustered_iff point).mpr (.inl (sweeping.closed earlier isCore near))
    · exact (grown.pending member isCore near).resolve_right List.not_mem_nil
  · rw [flat]
    refine List.nodup_append.mpr ⟨sweeping.distinct, grown.distinct, ?_⟩
    rintro point earlier _ member rfl
    exact grown.free member (old.mpr earlier)
  · rcases List.mem_append.mp member with member | same
    · exact sweeping.clusters_before cluster member
    · exact ⟨seed, List.mem_singleton.mp same ▸ isCluster, before⟩
  · refine List.pairwise_append.mpr ⟨sweeping.earliest, List.pairwise_singleton _ _, ?_⟩
    intro cluster listed _ same inner member isCore point taken near
    obtain rfl := List.mem_singleton.mp same
    have inside := old.mpr (List.mem_flatten_of_mem listed member)
    exact grown.free taken (sweeping.closed inside isCore near)
  · refine List.pairwise_append.mpr ⟨sweeping.ordered, List.pairwise_singleton _ _, ?_⟩
    intro cluster listed _ same first begins next starts
    obtain rfl := List.mem_singleton.mp same
    obtain ⟨origin, isCluster, earlier⟩ := sweeping.clusters cluster listed
    obtain rfl : origin = first := Option.mem_unique isCluster.begun begins
    obtain rfl : seed = next := Option.mem_unique begun starts
    exact earlier seed (List.mem_cons_self ..)

/-- A whole sweep. -/
theorem sweep (sweeping : Sweeping density distance found labels seeds) :
    ∃ (clusters : List (List (Fin n))) (after : Vector Label n),
      density.sweep (m := Id) distance labels seeds = clusters ∧
        Sweeping density distance (found ++ clusters) after [] := by
  induction seeds generalizing found labels with
  | nil => exact ⟨[], labels, rfl, by rwa [List.append_nil]⟩
  | cons seed rest ih =>
    rw [Density.sweep, region_eq]
    split
    · rename_i visited
      exact ih (sweeping.pass (by simpa using visited))
    rename_i unvisited
    have unvisited : getElem labels seed seed.isLt = .unvisited := by simpa using unvisited
    have outside : ¬ IsClustered labels seed := by simp [IsClustered, unvisited]
    by_cases isCore : density.isCore (density.neighborhood distance seed)
    · have core := (isCore_neighborhood_iff seed).mp isCore
      have grown :=
        (growing_start outside core).grow sweeping.noise (start_le_growthSteps unvisited)
      obtain ⟨_, after, rfl, sweeping⟩ := ih (sweeping.add core grown)
      rw [List.append_assoc] at sweeping
      exact ⟨_, after, if_pos isCore, sweeping⟩
    · obtain ⟨clusters, after, swept, sweeping⟩ :=
        ih (sweeping.reject unvisited (mt (isCore_neighborhood_iff seed).mpr isCore))
      exact ⟨clusters, after, (if_neg isCore).trans swept, sweeping⟩

/-- A core point that is near a core point of a cluster is in that cluster. -/
theorem mem_of_near (sweeping : Sweeping density distance found labels seeds)
    (symmetric : ∀ first second, density.Near distance first second →
      density.Near distance second first)
    {cluster : List (Fin n)} (listed : cluster ∈ found) {first second : Fin n}
    (member : first ∈ cluster) (core : density.IsCorePoint distance first)
    (next : density.IsCorePoint distance second) (near : density.Near distance first second) :
    second ∈ cluster := by
  have inside := sweeping.closed
    ((sweeping.clustered_iff first).mpr (List.mem_flatten_of_mem listed member)) core near
  obtain ⟨other, there, present⟩ := List.mem_flatten.mp ((sweeping.clustered_iff second).mp inside)
  -- Of two different clusters one would be the later, with a point near a core point of the other.
  obtain ⟨i, hi, rfl⟩ := List.mem_iff_getElem.mp listed
  obtain ⟨j, hj, rfl⟩ := List.mem_iff_getElem.mp there
  have earliest := List.pairwise_iff_getElem.mp sweeping.earliest
  rcases Nat.lt_trichotomy i j with before | rfl | after
  · exact absurd near (earliest i j hi hj before first member core second present)
  · exact present
  · exact absurd (symmetric first second near)
      (earliest j i hj hi after second present next first member)

theorem isClustering (sweeping : Sweeping density distance found labels [])
    (symmetric : ∀ first second, density.Near distance first second →
      density.Near distance second first) : density.IsClustering distance found := by
  have clustered {core : Fin n} (isCore : density.IsCorePoint distance core) :
      IsClustered labels core := by
    by_contra outside
    exact absurd (sweeping.mem_seeds_of_core outside isCore) List.not_mem_nil
  refine ⟨sweeping.distinct, fun point => ⟨fun member => ?_, fun either => ?_⟩,
    fun {first second} here there => ⟨?_, fun chained => ?_⟩, fun cluster listed => ?_,
    sweeping.earliest, fun cluster listed => ?_, sweeping.ordered⟩
  · obtain ⟨cluster, listed, member⟩ := List.mem_flatten.mp member
    obtain ⟨_, isCluster, _⟩ := sweeping.clusters cluster listed
    obtain ⟨core, _, isCore, near⟩ := isCluster.reached member
    exact .inr ⟨core, isCore, near⟩
  · refine (sweeping.clustered_iff point).mp ?_
    rcases either with core | ⟨core, isCore, near⟩
    · exact clustered core
    · exact sweeping.closed (clustered isCore) isCore near
  · rintro ⟨cluster, listed, one, two⟩
    obtain ⟨_, isCluster, _⟩ := sweeping.clusters cluster listed
    exact ((isCluster.chained one here).symm symmetric).trans (isCluster.chained two there)
  · obtain ⟨cluster, listed, member⟩ :=
      List.mem_flatten.mp ((sweeping.clustered_iff first).mp (clustered here))
    refine ⟨cluster, listed, member, ?_⟩
    clear there
    induction chained with
    | refl => exact member
    | tail _ step ih => exact sweeping.mem_of_near symmetric listed ih step.1 step.2.1 step.2.2
  · obtain ⟨_, isCluster, _⟩ := sweeping.clusters cluster listed
    exact fun point member => isCluster.reached member
  · obtain ⟨seed, isCluster, _⟩ := sweeping.clusters cluster listed
    exact ⟨seed, isCluster.begun, isCluster.core, fun core member => isCluster.least member⟩

end Sweeping

/-- Whether a computation comes to a value in every usual state, and to a usual state again. -/
def Answers {ε σ α : Type} (Usual : σ → Prop) (action : ExceptT ε (StateM σ) α) (value : α) :
    Prop :=
  ∀ state, Usual state →
    (action.run.run state).1 = .ok value ∧ Usual (action.run.run state).2

theorem answers_sequential {ε σ : Type} (Usual : σ → Prop) :
    Sequential fun (α : Type) (action : ExceptT ε (StateM σ) α) (value : Id α) =>
      Answers Usual action value where
  pure _ _ usual := ⟨rfl, usual⟩
  bind first next state usual := by
    obtain ⟨came, kept⟩ := first state usual
    rw [run_bind, came]
    exact next _ _ kept

/-- Where nearness is symmetric and each distance is answered without fail and the same at any time,
clustering comes to the clusters that density calls for. -/
theorem clusters_by_density {ε σ : Type} (density : Density D) {Usual : σ → Prop}
    {asked : Fin n → Fin n → ExceptT ε (StateM σ) D} {distance : Fin n → Fin n → D}
    (answers : ∀ first second, Answers Usual (asked first second) (distance first second))
    (symmetric : ∀ first second, distance first second ≤ density.epsilon →
      distance second first ≤ density.epsilon) :
    ∃ clusters, Answers Usual (density.clusters asked) clusters ∧
      density.IsClustering distance clusters := by
  have near (first second : Fin n) (near : density.Near distance first second) :
      density.Near distance second first := near.imp Eq.symm (symmetric first second)
  obtain ⟨clusters, _, swept, sweeping⟩ := (sweeping_start density distance).sweep
  have related : Answers Usual (density.clusters asked) (density.clusters (m := Id) distance) :=
    related_clusters (answers_sequential Usual) answers
  exact ⟨clusters, swept ▸ related, sweeping.isClustering near⟩

/-- Places on a line. The first is near a core point on either side of it, and none itself. -/
def places : Vector Nat 8 := #v[2, 0, 0, 1, 3, 4, 4, 10]

/-- How far two places are apart. -/
def gap (first second : Fin 8) : Nat :=
  (places[first] - places[second]) + (places[second] - places[first])

/-- The distance of two places, with the questions counted. -/
def countedGap (first second : Fin 8) : ExceptT Unit (StateM Nat) Nat := do
  modify (· + 1)
  return gap first second

/-- The shared place is taken for noise at first, and then is in the earlier cluster. -/
theorem clusters_by_density_shared :
    (∀ first second, Answers (fun _ => True) (countedGap first second) (gap first second)) ∧
      (∀ first second, gap first second ≤ 1 → gap second first ≤ 1) ∧
      (Density.mk 1 4 : Density Nat).IsClustering gap [[3, 0, 1, 2], [4, 5, 6]] := by
  have answers (first second : Fin 8) :
      Answers (fun _ => True) (countedGap first second) (gap first second) :=
    fun _ _ => ⟨rfl, trivial⟩
  have symmetric (first second : Fin 8) (near : gap first second ≤ 1) : gap second first ≤ 1 := by
    rwa [gap, Nat.add_comm]
  obtain ⟨clusters, came, clustering⟩ :=
    clusters_by_density (Density.mk 1 4 : Density Nat) answers symmetric
  have found : ((Density.mk 1 4 : Density Nat).clusters countedGap).run.run 0 =
      (.ok [[3, 0, 1, 2], [4, 5, 6]], 56) := rfl
  obtain ⟨same, _⟩ := came 0 trivial
  rw [found] at same
  exact ⟨answers, symmetric, Except.ok.inj same ▸ clustering⟩

end Density
end FaultCorrelation
