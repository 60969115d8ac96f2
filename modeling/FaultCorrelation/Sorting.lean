/-! # Sorting

Insertion sort by a Boolean order. Items that the order does not tell apart stay as they were given.
The recursion is on the list, so that closed instances can be computed within proofs. A sorted list
is a permutation of what was given, and in order if the order is total and transitive.
-/

namespace FaultCorrelation.Sorting

variable {α : Type}

/-- Insert an item in front of the first item that is not before it. -/
def insertBy (le : α → α → Bool) (item : α) : List α → List α
  | [] => [item]
  | first :: rest =>
    if le item first then item :: first :: rest else first :: insertBy le item rest

/-- Sort a list. -/
def sortBy (le : α → α → Bool) : List α → List α
  | [] => []
  | item :: rest => insertBy le item (sortBy le rest)

theorem insertBy_perm (le : α → α → Bool) (item : α) (items : List α) :
    (insertBy le item items).Perm (item :: items) := by
  induction items with
  | nil => exact .refl _
  | cons first rest ih =>
    simp only [insertBy]
    split
    · exact .refl _
    · exact (ih.cons first).trans (.swap item first rest)

theorem sortBy_perm (le : α → α → Bool) (items : List α) : (sortBy le items).Perm items := by
  induction items with
  | nil => exact .refl _
  | cons item rest ih => exact (insertBy_perm le item _).trans (ih.cons item)

theorem mem_sortBy {le : α → α → Bool} {item : α} {items : List α} :
    item ∈ sortBy le items ↔ item ∈ items :=
  (sortBy_perm le items).mem_iff

theorem length_sortBy (le : α → α → Bool) (items : List α) :
    (sortBy le items).length = items.length :=
  (sortBy_perm le items).length_eq

theorem pairwise_insertBy {le : α → α → Bool} (total : ∀ a b, le a b || le b a)
    (transitive : ∀ a b c, le a b → le b c → le a c) (item : α) {items : List α}
    (sorted : items.Pairwise fun a b => le a b) :
    (insertBy le item items).Pairwise fun a b => le a b := by
  induction items with
  | nil => exact List.pairwise_singleton _ _
  | cons first rest ih =>
    obtain ⟨before, sorted⟩ := List.pairwise_cons.mp sorted
    simp only [insertBy]
    split
    case isTrue h =>
      refine List.pairwise_cons.mpr ⟨fun other mem => ?_, List.pairwise_cons.mpr ⟨before, sorted⟩⟩
      rcases List.mem_cons.mp mem with rfl | mem
      · exact h
      · exact transitive _ _ _ h (before _ mem)
    case isFalse h =>
      refine List.pairwise_cons.mpr ⟨fun other mem => ?_, ih sorted⟩
      rcases List.mem_cons.mp ((insertBy_perm le item rest).mem_iff.mp mem) with rfl | mem
      · have := total first other
        simp_all
      · exact before _ mem

theorem pairwise_sortBy {le : α → α → Bool} (total : ∀ a b, le a b || le b a)
    (transitive : ∀ a b c, le a b → le b c → le a c) (items : List α) :
    (sortBy le items).Pairwise fun a b => le a b := by
  induction items with
  | nil => exact .nil
  | cons item rest ih => exact pairwise_insertBy total transitive item ih

section Comparison

variable {β : Type} {cmp : α → α → Ordering} [Std.TransCmp cmp]

theorem pairwise_sortBy_isLE (items : List α) :
    (sortBy (fun a b => (cmp a b).isLE) items).Pairwise fun a b => (cmp a b).isLE := by
  refine pairwise_sortBy (fun a b => ?_) (fun _ _ _ => Std.TransCmp.isLE_trans) items
  have swapped : cmp b a = (cmp a b).swap := Std.OrientedCmp.eq_swap
  rw [swapped]
  cases cmp a b <;> rfl

/-- Sorting tells the same of lists whose items are the same in some respect, if the order goes by
that respect first and tells the items apart by it. -/
theorem map_sortBy_eq {f : α → β} {coarse : β → β → Ordering}
    (coarser : ∀ a b, (cmp a b).isLE → (coarse (f a) (f b)).isLE) {items others : List α}
    (permuted : (items.map f).Perm (others.map f))
    (apart : ∀ a ∈ items.map f, ∀ b ∈ items.map f,
      (coarse a b).isLE → (coarse b a).isLE → a = b) :
    (sortBy (fun a b => (cmp a b).isLE) items).map f =
      (sortBy (fun a b => (cmp a b).isLE) others).map f := by
  have sorted (items : List α) : ((sortBy (fun a b => (cmp a b).isLE) items).map f).Pairwise
      fun a b => (coarse a b).isLE :=
    List.pairwise_map.mpr ((pairwise_sortBy_isLE items).imp fun {a b} => coarser a b)
  have same (items : List α) := (sortBy_perm (fun a b => (cmp a b).isLE) items).map f
  refine List.Perm.eq_of_pairwise (fun a b here there => ?_) (sorted items) (sorted others)
    ((same items).trans (permuted.trans (same others).symm))
  exact apart a ((same items).mem_iff.mp here) b
    (permuted.mem_iff.mpr ((same others).mem_iff.mp there))

theorem sortBy_eq_of_perm {items others : List α} (permuted : items.Perm others)
    (apart : ∀ a ∈ items, ∀ b ∈ items, (cmp a b).isLE → (cmp b a).isLE → a = b) :
    sortBy (fun a b => (cmp a b).isLE) items = sortBy (fun a b => (cmp a b).isLE) others := by
  have same := map_sortBy_eq (f := id) (fun _ _ before => before) (permuted.map id) (by simpa)
  simpa using same

end Comparison

end FaultCorrelation.Sorting
