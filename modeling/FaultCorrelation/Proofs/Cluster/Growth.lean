import Mathlib.Data.Fintype.Card
import Mathlib.Logic.Relation
import FaultCorrelation.Proofs.Cluster.Apart

/-! # The growth of a cluster

Where distances are plain values, a neighbourhood is the list of the points near its centre. A
cluster that grows from a core point takes in points that are near its core points, and has taken in
or queued all of them at any time (`Growing`). The steps that a growth is given suffice to empty its
queue: each step takes a point off the queue, and only points that were not visited put points on
it.
-/

namespace FaultCorrelation.Density

variable {D : Type} [LE D] [DecidableLE D] {n : Nat}

section Notions

variable (density : Density D) (distance : Fin n → Fin n → D)

/-- Whether a point is near a centre. Every point is near itself. -/
def Near (center point : Fin n) : Prop :=
  center = point ∨ distance center point ≤ density.epsilon

instance (center point : Fin n) : Decidable (density.Near distance center point) :=
  inferInstanceAs (Decidable (center = point ∨ distance center point ≤ density.epsilon))

/-- Whether a point has enough points nearby, itself included. -/
def IsCorePoint (center : Fin n) : Prop :=
  density.minPoints ≤ (Finset.univ.filter (density.Near distance center)).card

/-- Whether core points lead from one point to another, each near the one before it. -/
def Chained : Fin n → Fin n → Prop :=
  Relation.ReflTransGen fun first second => density.IsCorePoint distance first ∧
    density.IsCorePoint distance second ∧ density.Near distance first second

end Notions

variable {density : Density D} {distance : Fin n → Fin n → D}

/-- The points near a centre, in order. -/
def neighborhood (density : Density D) (distance : Fin n → Fin n → D) (center : Fin n) :
    List (Fin n) :=
  (List.finRange n).filter fun point => density.Near distance center point

theorem region_eq (center : Fin n) :
    density.region (m := Id) distance center = density.neighborhood distance center := by
  rw [region, neighborhood]
  generalize List.finRange n = points
  induction points with
  | nil => rfl
  | cons first rest ih =>
    rw [gather, List.filter_cons]
    by_cases same : first = center
    · rw [if_pos same, if_pos (decide_eq_true (.inl same.symm))]
      exact congrArg (first :: ·) ih
    · rw [if_neg same]
      by_cases close : distance center first ≤ density.epsilon
      · rw [if_pos (decide_eq_true (.inr close)), ← ih]
        exact if_pos close
      · rw [if_neg, ← ih]
        · exact if_neg close
        · simpa [Near, close] using Ne.symm same

theorem mem_neighborhood {center point : Fin n} :
    point ∈ density.neighborhood distance center ↔ density.Near distance center point := by
  rw [neighborhood, List.mem_filter, decide_eq_true_iff]
  exact and_iff_right (List.mem_finRange point)

theorem length_neighborhood_le (center : Fin n) :
    (density.neighborhood distance center).length ≤ n :=
  (List.length_filter_le _ _).trans_eq List.length_finRange

theorem isCore_neighborhood_iff (center : Fin n) :
    density.isCore (density.neighborhood distance center) ↔
      density.IsCorePoint distance center := by
  rw [isCore, decide_eq_true_iff]
  rfl

/-- A queue once a point has been explored: a core point puts the points near it there that are in
no cluster yet. -/
def extended (density : Density D) (distance : Fin n → Fin n → D) (labels : Vector Label n)
    (point : Fin n) (queue : List (Fin n)) : List (Fin n) :=
  if density.isCore (density.neighborhood distance point) then
    queue ++ (density.neighborhood distance point).filter fun other =>
      getElem labels other other.isLt != .clustered
  else queue

theorem length_extended_le (density : Density D) (distance : Fin n → Fin n → D)
    (labels : Vector Label n) (point : Fin n) (queue : List (Fin n)) :
    (density.extended distance labels point queue).length ≤ queue.length + n := by
  rw [extended]
  split
  · rw [List.length_append]
    exact Nat.add_le_add_left
      ((List.length_filter_le _ _).trans (length_neighborhood_le point)) queue.length
  · exact Nat.le_add_right queue.length n

/-- How things stand while a cluster grows from a seed, with the labels there were before it. -/
structure Growing (density : Density D) (distance : Fin n → Fin n → D) (base : Vector Label n)
    (seed : Fin n) (labels : Vector Label n) (members queue : List (Fin n)) : Prop where
  begun : ∃ rest, members = seed :: rest
  clustered_iff (point : Fin n) :
    IsClustered labels point ↔ IsClustered base point ∨ point ∈ members
  kept (point : Fin n) : ¬ IsClustered labels point →
    getElem labels point point.isLt = getElem base point point.isLt
  free {point : Fin n} : point ∈ members → ¬ IsClustered base point
  distinct : members.Nodup
  chained {core : Fin n} :
    core ∈ members → density.IsCorePoint distance core → density.Chained distance seed core
  /-- What is taken in or queued is near a core point that was taken in. -/
  reached {point : Fin n} : point ∈ members ∨ point ∈ queue →
    ∃ core ∈ members, density.IsCorePoint distance core ∧ density.Near distance core point
  /-- What is near a core point that was taken in is taken in or queued. -/
  pending {core point : Fin n} : core ∈ members → density.IsCorePoint distance core →
    density.Near distance core point → IsClustered labels point ∨ point ∈ queue

/-- A growth begins with a core point and the points near it. -/
theorem growing_start {labels : Vector Label n} {seed : Fin n} (free : ¬ IsClustered labels seed)
    (core : density.IsCorePoint distance seed) :
    Growing density distance labels seed (labels.set seed .clustered seed.isLt) [seed]
      ((density.neighborhood distance seed).filter (· != seed)) where
  begun := ⟨[], rfl⟩
  clustered_iff point := by
    rw [isClustered_set, List.mem_singleton, eq_comm, or_comm]
  kept point outside := by
    rw [isClustered_set, not_or] at outside
    exact (getElem_set_label labels seed point _).trans (if_neg outside.1)
  free member := List.mem_singleton.mp member ▸ free
  distinct := List.nodup_singleton seed
  chained member _ := List.mem_singleton.mp member ▸ .refl
  reached {point} either := by
    refine ⟨seed, List.mem_singleton_self seed, core, ?_⟩
    rcases either with member | queued
    · exact .inl (List.mem_singleton.mp member).symm
    · exact mem_neighborhood.mp (List.mem_filter.mp queued).1
  pending {other point} member _ near := by
    obtain rfl := List.mem_singleton.mp member
    by_cases same : other = point
    · exact .inl (isClustered_set.mpr (.inl same))
    · exact .inr (List.mem_filter.mpr ⟨mem_neighborhood.mpr near, by simpa using Ne.symm same⟩)

namespace Growing

variable {base labels : Vector Label n} {seed point : Fin n} {members queue next : List (Fin n)}

/-- A queued point that is in a cluster already is passed over. -/
theorem pass (growing : Growing density distance base seed labels members (point :: queue))
    (inside : IsClustered labels point) :
    Growing density distance base seed labels members queue where
  begun := growing.begun
  clustered_iff := growing.clustered_iff
  kept := growing.kept
  free := growing.free
  distinct := growing.distinct
  chained := growing.chained
  reached either := growing.reached (either.imp_right (List.mem_cons_of_mem point))
  pending member core near := by
    rcases growing.pending member core near with clustered | queued
    · exact .inl clustered
    · rcases List.mem_cons.mp queued with rfl | queued
      · exact .inl inside
      · exact .inr queued

/-- A queued point is taken in. If it is a core point, the points near it are queued. -/
theorem take (growing : Growing density distance base seed labels members (point :: queue))
    (outside : ¬ IsClustered labels point) (queued : queue ⊆ next)
    (near : ∀ other ∈ next, other ∈ queue ∨
      density.IsCorePoint distance point ∧ density.Near distance point other)
    (explored : density.IsCorePoint distance point → ∀ other, density.Near distance point other →
      IsClustered (labels.set point .clustered point.isLt) other ∨ other ∈ next) :
    Growing density distance base seed (labels.set point .clustered point.isLt) (members ++ [point])
      next := by
  have mem_iff {other : Fin n} : other ∈ members ++ [point] ↔ other ∈ members ∨ other = point := by
    rw [List.mem_append, List.mem_singleton]
  have new : ¬ IsClustered base point ∧ point ∉ members := by
    rw [growing.clustered_iff, not_or] at outside
    exact outside
  have earlier {other : Fin n} (either : other ∈ members ∨ other ∈ point :: queue) :
      ∃ core ∈ members ++ [point], density.IsCorePoint distance core ∧
        density.Near distance core other := by
    obtain ⟨core, member, found⟩ := growing.reached either
    exact ⟨core, mem_iff.mpr (.inl member), found⟩
  refine ⟨?_, fun other => ?_, fun other free => ?_, fun {other} member => ?_, ?_,
    fun {core} member isCore => ?_, fun {other} either => ?_,
    fun {core other} member isCore close => ?_⟩
  · obtain ⟨rest, rfl⟩ := growing.begun
    exact ⟨rest ++ [point], rfl⟩
  · rw [isClustered_set, growing.clustered_iff, mem_iff, eq_comm]
    tauto
  · rw [isClustered_set, not_or] at free
    exact ((getElem_set_label labels point other _).trans (if_neg free.1)).trans
      (growing.kept other free.2)
  · rcases mem_iff.mp member with member | rfl
    · exact growing.free member
    · exact new.1
  · refine List.nodup_append.mpr ⟨growing.distinct, List.nodup_singleton point, ?_⟩
    rintro other member _ same rfl
    exact new.2 (List.mem_singleton.mp same ▸ member)
  · rcases mem_iff.mp member with member | rfl
    · exact growing.chained member isCore
    · obtain ⟨origin, member, starts, close⟩ := growing.reached (.inr (List.mem_cons_self ..))
      exact (growing.chained member starts).tail ⟨starts, isCore, close⟩
  · rcases either with member | queued
    · rcases mem_iff.mp member with member | rfl
      · exact earlier (.inl member)
      · exact earlier (.inr (List.mem_cons_self ..))
    · rcases near other queued with before | ⟨isCore, close⟩
      · exact earlier (.inr (List.mem_cons_of_mem point before))
      · exact ⟨point, mem_iff.mpr (.inr rfl), isCore, close⟩
  · rcases mem_iff.mp member with member | rfl
    · rcases growing.pending member isCore close with clustered | waiting
      · exact .inl (isClustered_set.mpr (.inr clustered))
      · rcases List.mem_cons.mp waiting with rfl | waiting
        · exact .inl (isClustered_set.mpr (.inl rfl))
        · exact .inr (queued waiting)
    · exact explored isCore other close

/-- A queued point that was not visited is taken in and explored. -/
theorem explore (growing : Growing density distance base seed labels members (point :: queue))
    (outside : ¬ IsClustered labels point) :
    Growing density distance base seed (labels.set point .clustered point.isLt) (members ++ [point])
      (density.extended distance (labels.set point .clustered point.isLt) point queue) := by
  by_cases isCore : density.isCore (density.neighborhood distance point)
  · rw [extended, if_pos isCore]
    refine growing.take outside (List.subset_append_left _ _) (fun other listed => ?_)
      fun _ other near => ?_
    · refine (List.mem_append.mp listed).imp_right fun listed => ?_
      exact ⟨(isCore_neighborhood_iff point).mp isCore,
        mem_neighborhood.mp (List.mem_filter.mp listed).1⟩
    · by_cases inside : IsClustered (labels.set point .clustered point.isLt) other
      · exact .inl inside
      · refine .inr (List.mem_append_right _
          (List.mem_filter.mpr ⟨mem_neighborhood.mpr near, ?_⟩))
        simpa [IsClustered] using inside
  · rw [extended, if_neg isCore]
    exact growing.take outside (List.Subset.refl queue) (fun _ listed => .inl listed)
      fun core => absurd ((isCore_neighborhood_iff point).mpr core) isCore

end Growing

/-- The points that were not visited. -/
def unvisited (labels : Vector Label n) : Finset (Fin n) :=
  Finset.univ.filter fun point => getElem labels point point.isLt = .unvisited

theorem unvisited_set_subset (labels : Vector Label n) (point : Fin n) :
    unvisited (labels.set point .clustered point.isLt) ⊆ unvisited labels := by
  intro other member
  simp only [unvisited, Finset.mem_filter, Finset.mem_univ, true_and] at member ⊢
  rw [getElem_set_label] at member
  split at member
  · contradiction
  · exact member

theorem card_unvisited_set {labels : Vector Label n} {point : Fin n}
    (waiting : getElem labels point point.isLt = .unvisited) :
    (unvisited (labels.set point .clustered point.isLt)).card < (unvisited labels).card := by
  refine Finset.card_lt_card ((Finset.ssubset_iff_of_subset
    (unvisited_set_subset labels point)).mpr ⟨point, ?_, ?_⟩)
  · simpa [unvisited] using waiting
  · simp [unvisited]

/-- A growth has enough steps to begin with. -/
theorem le_growthSteps {labels : Vector Label n} {seed : Fin n} {queue : List (Fin n)}
    (queued : queue.length ≤ n) (waiting : getElem labels seed seed.isLt = .unvisited) :
    queue.length + n * (unvisited (labels.set seed .clustered seed.isLt)).card ≤
      growthSteps n := by
  have visits : (unvisited (labels.set seed .clustered seed.isLt)).card + 1 ≤ n :=
    (card_unvisited_set waiting).trans_le (card_finset_fin_le _)
  have bound := Nat.mul_le_mul_left n visits
  rw [Nat.mul_succ] at bound
  rw [growthSteps]
  omega

theorem start_le_growthSteps {labels : Vector Label n} {seed : Fin n}
    (waiting : getElem labels seed seed.isLt = .unvisited) :
    ((density.neighborhood distance seed).filter (· != seed)).length +
      n * (unvisited (labels.set seed .clustered seed.isLt)).card ≤ growthSteps n :=
  le_growthSteps ((List.length_filter_le _ _).trans (length_neighborhood_le seed)) waiting

/-- A growth that is given enough steps empties its queue. -/
theorem Growing.grow {base labels : Vector Label n} {seed : Fin n} {members queue : List (Fin n)}
    (growing : Growing density distance base seed labels members queue)
    (noise : ∀ point : Fin n, getElem base point point.isLt = .noise →
      ¬ density.IsCorePoint distance point)
    {steps : Nat} (enough : queue.length + n * (unvisited labels).card ≤ steps) :
    let grown : Vector Label n × List (Fin n) :=
      density.grow (m := Id) distance steps labels members queue
    Growing density distance base seed grown.1 grown.2 [] := by
  induction steps generalizing labels members queue with
  | zero =>
    obtain rfl : queue = [] := List.length_eq_zero_iff.mp (by omega)
    exact growing
  | succ steps ih =>
    cases queue with
    | nil => exact growing
    | cons point queue =>
      rw [List.length_cons] at enough
      rw [Density.grow]
      split
      · rename_i inside
        exact ih (growing.pass inside) (by omega)
      · rename_i isNoise
        have outside : ¬ IsClustered labels point := by simp [IsClustered, isNoise]
        have notCore := noise point ((growing.kept point outside).symm.trans isNoise)
        have fewer :=
          Nat.mul_le_mul_left n (Finset.card_le_card (unvisited_set_subset labels point))
        exact ih (growing.take outside (List.Subset.refl queue) (fun _ listed => .inl listed)
          fun isCore => absurd isCore notCore) (by omega)
      · rename_i isUnvisited
        have outside : ¬ IsClustered labels point := by simp [IsClustered, isUnvisited]
        have fewer := Nat.mul_le_mul_left n (card_unvisited_set isUnvisited)
        rw [Nat.mul_succ] at fewer
        rw [region_eq]
        have few := length_extended_le density distance
          (labels.set point .clustered point.isLt) point queue
        exact ih (growing.explore outside) ((Nat.add_le_add_right few _).trans (by omega))

end FaultCorrelation.Density
