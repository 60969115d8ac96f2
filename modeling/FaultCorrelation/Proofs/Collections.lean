import Std.Data.ExtTreeMap.Lemmas
import Std.Data.ExtTreeSet.Lemmas
import Mathlib.Tactic.Tauto

/-! # Folds over maps and sets

A map lists its entries by key, so that a new last key goes to the end of the list and the least
one is its head. A fold over a map visits every key once. Where the step for one key bears only on
what is seen at that key, the whole fold is understood key by key. For sets, folds that insert or
erase every item are the union and the difference. A count kept beside a fold over a list can be
left out.
-/

namespace FaultCorrelation.Collections

open Std

section Maps

variable {α β : Type} [Ord α] [TransOrd α]

theorem values_eq (map : ExtTreeMap α β) : map.values = map.toList.map Prod.snd := by
  obtain ⟨⟨tree⟩⟩ := map
  induction tree using Quotient.inductionOn with
  | _ tree =>
    change tree.inner.values = (DTreeMap.Internal.Impl.Const.toList tree.inner).map Prod.snd
    rw [DTreeMap.Internal.Impl.values_eq_map_snd,
      DTreeMap.Internal.Impl.Const.toList_eq_toListModel_map, List.map_map]
    rfl

theorem mem_of_getElem? {map : ExtTreeMap α β} {key : α} {value : β}
    (found : map[key]? = some value) : key ∈ map :=
  ExtTreeMap.mem_iff_isSome_getElem?.mpr (Option.isSome_of_mem found)

theorem exists_getElem? {map : ExtTreeMap α β} {key : α} (member : key ∈ map) :
    ∃ value, map[key]? = some value :=
  Option.isSome_iff_exists.mp (ExtTreeMap.mem_iff_isSome_getElem?.mp member)

theorem size_erase_of_mem {map : ExtTreeMap α β} {key : α} (member : key ∈ map) :
    (map.erase key).size + 1 = map.size := by
  have occupied : map.size ≠ 0 :=
    mt ExtTreeMap.eq_empty_iff_size_eq_zero.mpr (ExtTreeMap.ne_empty_of_mem member)
  have shrunk : (map.erase key).size = map.size - 1 := ExtTreeMap.size_erase.trans (if_pos member)
  omega

variable [LawfulEqOrd α]

theorem mem_values {map : ExtTreeMap α β} {value : β} :
    value ∈ map.values ↔ ∃ key : α, map[key]? = some value := by
  rw [values_eq, List.mem_map]
  constructor
  · rintro ⟨pair, member, rfl⟩
    exact ⟨pair.1, ExtTreeMap.mem_toList_iff_getElem?_eq_some.mp member⟩
  · rintro ⟨key, found⟩
    exact ⟨(key, value), ExtTreeMap.mem_toList_iff_getElem?_eq_some.mpr found, rfl⟩

/-- Values that carry their keys give the keys back. -/
theorem map_values_eq_keys {map : ExtTreeMap α β} {name : β → α}
    (named : ∀ (key : α) (value : β), map[key]? = some value → name value = key) :
    map.values.map name = map.keys := by
  rw [values_eq, List.map_map, ← ExtTreeMap.map_fst_toList_eq_keys]
  apply List.map_congr_left
  intro entry member
  exact named entry.1 entry.2 (ExtTreeMap.mem_toList_iff_getElem?_eq_some.mp member)

theorem insert_insert_self (map : ExtTreeMap α β) (key : α) (first second : β) :
    (map.insert key first).insert key second = map.insert key second := by
  apply ExtTreeMap.ext_getElem?
  intro other
  simp only [ExtTreeMap.getElem?_insert]
  split <;> rfl

theorem insert_of_getElem? {map : ExtTreeMap α β} {key : α} {value : β}
    (found : map[key]? = some value) : map.insert key value = map := by
  apply ExtTreeMap.ext_getElem?
  intro other
  rw [ExtTreeMap.getElem?_insert]
  split
  · rename_i same
    rw [← LawfulEqOrd.eq_of_compare same, found]
  · rfl

/-- A map lists its entries by key: no other list in that order has the same entries. -/
theorem toList_eq_of_getElem? {map : ExtTreeMap α β} {entries : List (α × β)}
    (ordered : entries.Pairwise fun a b => compare a.1 b.1 = .lt)
    (same : ∀ key value, (key, value) ∈ entries ↔ map[key]? = some value) :
    map.toList = entries := by
  have distinct {entries : List (α × β)}
      (ordered : entries.Pairwise fun a b => compare a.1 b.1 = .lt) : entries.Nodup :=
    ordered.imp fun {a b} less equal => by
      rw [equal, compare_self] at less
      contradiction
  have listed := ExtTreeMap.ordered_keys_toList (t := map)
  refine List.Perm.eq_of_pairwise (fun a b _ _ less greater => ?_) listed ordered ?_
  · rw [OrientedOrd.eq_swap, greater] at less
    contradiction
  · rw [List.perm_ext_iff_of_nodup (distinct listed) (distinct ordered)]
    rintro ⟨key, value⟩
    rw [ExtTreeMap.mem_toList_iff_getElem?_eq_some, same]

/-- A key beyond all others goes to the end. -/
theorem toList_insert_of_lt {map : ExtTreeMap α β} {key : α} (value : β)
    (beyond : ∀ other ∈ map, compare other key = .lt) :
    (map.insert key value).toList = map.toList ++ [(key, value)] := by
  have there {entry : α × β} (member : entry ∈ map.toList) : compare entry.1 key = .lt :=
    beyond _ (mem_of_getElem? (ExtTreeMap.mem_toList_iff_getElem?_eq_some.mp member))
  apply toList_eq_of_getElem?
  · rw [List.pairwise_append]
    refine ⟨ExtTreeMap.ordered_keys_toList, List.pairwise_singleton .., ?_⟩
    rintro entry member _ last
    obtain rfl := List.mem_singleton.mp last
    exact there member
  · intro other found
    rw [List.mem_append, List.mem_singleton, ExtTreeMap.mem_toList_iff_getElem?_eq_some,
      ExtTreeMap.getElem?_insert]
    split
    · rename_i equal
      obtain rfl := LawfulEqOrd.eq_of_compare equal
      have fresh : map[key]? ≠ some found := by
        intro taken
        have less := beyond key (mem_of_getElem? taken)
        rw [compare_self] at less
        contradiction
      simp [fresh, eq_comm]
    · rename_i different
      have other_ne : other ≠ key := by
        rintro rfl
        exact different compare_self
      simp [other_ne]

variable [DecidableEq α]

theorem toList_erase (map : ExtTreeMap α β) (key : α) :
    (map.erase key).toList = map.toList.filter fun entry => decide (entry.1 ≠ key) := by
  apply toList_eq_of_getElem?
  · exact ExtTreeMap.ordered_keys_toList.filter _
  · intro other value
    rw [List.mem_filter, ExtTreeMap.mem_toList_iff_getElem?_eq_some, ExtTreeMap.getElem?_erase]
    by_cases same : key = other
    · simp [same]
    · simp [same, eq_comm (a := other)]

/-- Without its least key a map lists all but its first entry. -/
theorem toList_erase_of_minKey? {map : ExtTreeMap α β} {key : α}
    (least : map.minKey? = some key) : (map.erase key).toList = map.toList.tail := by
  rw [ExtTreeMap.minKey?_eq_head?_keys, ← ExtTreeMap.map_fst_toList_eq_keys] at least
  have ordered := ExtTreeMap.ordered_keys_toList (t := map)
  rw [toList_erase]
  generalize map.toList = entries at least ordered
  cases entries with
  | nil => contradiction
  | cons first rest =>
    obtain rfl : first.1 = key := Option.some.inj least
    have behind := (List.pairwise_cons.mp ordered).1
    rw [List.filter_cons_of_neg (by simp), List.tail_cons, List.filter_eq_self]
    intro entry member
    refine decide_eq_true fun same => ?_
    have less := behind entry member
    rw [same, compare_self] at less
    contradiction

omit [TransOrd α] in
private theorem foldl_pairs {σ ρ : Type} {step : σ → α → β → σ} {seen : σ → α → ρ}
    {change : α → β → ρ → ρ}
    (atKey : ∀ state key value other, seen (step state key value) other =
      if key = other then change key value (seen state other) else seen state other)
    (pairs : List (α × β)) (distinct : pairs.Pairwise fun a b => ¬compare a.1 b.1 = .eq)
    (state : σ) (key : α) :
    (∀ value, (key, value) ∈ pairs →
      seen (pairs.foldl (fun state pair => step state pair.1 pair.2) state) key =
        change key value (seen state key)) ∧
    ((∀ value, (key, value) ∉ pairs) →
      seen (pairs.foldl (fun state pair => step state pair.1 pair.2) state) key =
        seen state key) := by
  induction pairs generalizing state with
  | nil => simp
  | cons pair rest ih =>
    obtain ⟨others, distinct⟩ := List.pairwise_cons.mp distinct
    obtain ⟨present, absent⟩ := ih distinct (step state pair.1 pair.2)
    refine ⟨fun value member => ?_, fun missing => ?_⟩
    · rw [List.foldl_cons]
      rcases List.mem_cons.mp member with rfl | member
      · rw [absent, atKey, if_pos rfl]
        intro value member
        exact others _ member (compare_self)
      · rw [present value member, atKey, if_neg]
        intro same
        exact others _ member (same ▸ compare_self)
    · rw [List.foldl_cons, absent fun value member => missing value (List.mem_cons_of_mem _ member),
        atKey, if_neg]
      rintro rfl
      exact missing pair.2 (List.mem_cons_self ..)

/-- A fold whose step bears only on what is seen at the key it visits. -/
theorem seen_foldl {σ ρ : Type} (step : σ → α → β → σ) (seen : σ → α → ρ)
    (change : α → β → ρ → ρ)
    (atKey : ∀ state key value other, seen (step state key value) other =
      if key = other then change key value (seen state other) else seen state other)
    (map : ExtTreeMap α β) (state : σ) (key : α) :
    seen (map.foldl step state) key =
      map[key]?.elim (seen state key) fun value => change key value (seen state key) := by
  rw [ExtTreeMap.foldl_eq_foldl_toList]
  obtain ⟨present, absent⟩ :=
    foldl_pairs atKey map.toList ExtTreeMap.distinct_keys_toList state key
  cases found : map[key]? with
  | none =>
    apply absent
    intro value member
    rw [ExtTreeMap.mem_toList_iff_getElem?_eq_some.mp member] at found
    contradiction
  | some value => exact present value (ExtTreeMap.mem_toList_iff_getElem?_eq_some.mpr found)

theorem foldl_insert_toList (map : ExtTreeMap α β) :
    map.toList.foldl (fun done entry => done.insert entry.1 entry.2) ∅ = map := by
  have atKey (done : ExtTreeMap α β) (key : α) (value : β) (other : α) :
      (done.insert key value)[other]? = if key = other then some value else done[other]? := by
    simp [ExtTreeMap.getElem?_insert]
  apply ExtTreeMap.ext_getElem?
  intro key
  have seen := seen_foldl ExtTreeMap.insert (fun done key => done[key]?)
    (fun _ value _ => some value) atKey map ∅ key
  rw [ExtTreeMap.foldl_eq_foldl_toList] at seen
  rw [seen]
  cases map[key]? <;> simp

end Maps

section Sets

variable {α : Type} [Ord α] [TransOrd α] [LawfulEqOrd α]

theorem mem_filter {set : ExtTreeSet α} {keep : α → Bool} {item : α} :
    item ∈ set.filter keep ↔ item ∈ set ∧ keep item := by
  rw [ExtTreeSet.mem_filter]
  simp only [ExtTreeSet.get_eq, exists_prop]

theorem mem_foldl_insert {source target : ExtTreeSet α} {item : α} :
    item ∈ source.foldl (fun set item => set.insert item) target ↔
      item ∈ source ∨ item ∈ target := by
  rw [ExtTreeSet.foldl_eq_foldl_toList, ← ExtTreeSet.mem_toList (t := source)]
  induction source.toList generalizing target with
  | nil => simp
  | cons first rest ih =>
    simp only [List.foldl_cons, ih, ExtTreeSet.mem_insert, List.mem_cons,
      LawfulEqOrd.compare_eq_iff_eq, eq_comm (a := first)]
    tauto

theorem mem_foldl_erase {source target : ExtTreeSet α} {item : α} :
    item ∈ source.foldl (fun set item => set.erase item) target ↔
      item ∉ source ∧ item ∈ target := by
  rw [ExtTreeSet.foldl_eq_foldl_toList, ← ExtTreeSet.mem_toList (t := source)]
  induction source.toList generalizing target with
  | nil => simp
  | cons first rest ih =>
    simp only [List.foldl_cons, ih, ExtTreeSet.mem_erase, List.mem_cons, ne_eq,
      LawfulEqOrd.compare_eq_iff_eq, eq_comm (a := first)]
    tauto

end Sets

/-- A count that is kept beside a fold does not bear on it. -/
theorem foldl_counted {σ α : Type} (step : σ → α → σ) (gain : σ → α → Nat) (items : List α)
    (state : σ) (count : Nat) :
    (items.foldl (fun (pair : σ × Nat) item => (step pair.1 item, pair.2 + gain pair.1 item))
      (state, count)).1 = items.foldl step state := by
  induction items generalizing state count with
  | nil => rfl
  | cons first rest ih => exact ih (step state first) _

end FaultCorrelation.Collections
