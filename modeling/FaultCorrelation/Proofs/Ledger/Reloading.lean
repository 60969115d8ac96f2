import FaultCorrelation.Proofs.Ledger.Coherence

/-! # Loading what a ledger held

A ledger is kept by listing its situations, in whichever order. Situations that do not get in each
other's way are loaded as they are, so that a coherent ledger without a nameless situation comes
back: all of its situations, and the memberships of the alarms that they show. A listing does not
tell where hidden alarms belong, nor what keeps them out.
-/

namespace FaultCorrelation

open Std

/-- Whether two situations have neither an id nor an alarm in common. -/
structure Situation.Apart (first second : Situation) : Prop where
  id_ne : first.id ≠ second.id
  disjoint {alarm : String} : alarm ∈ first.alarms → alarm ∉ second.alarms

namespace Ledger

/-- Whether a situation can be loaded as it is. -/
structure Welcomes (ledger : Ledger) (situation : Situation) : Prop where
  named : situation.id ≠ ""
  unknown : situation.id ∉ ledger.situations
  homeless {alarm : String} : alarm ∈ situation.alarms → alarm ∉ ledger.homes
  severity_eq : situation.severity = situation.computedSeverity

/-- What a ledger is like once it has taken all situations of a listing as they are. -/
structure TakesAll (ledger : Ledger) (listing : List Situation) (after : Ledger) : Prop where
  situations_iff (id : String) (situation : Situation) :
    after.situations[id]? = some situation ↔
      situation ∈ listing ∧ situation.id = id ∨ ledger.situations[id]? = some situation
  homes_iff (alarm id : String) : after.homes[alarm]? = some id ↔
    (∃ situation ∈ listing, situation.id = id ∧ alarm ∈ situation.alarms) ∨
      ledger.homes[alarm]? = some id
  exclusions_eq : after.exclusions = ledger.exclusions

variable {ledger after : Ledger} {situation other : Situation} {listing : List Situation}

namespace Welcomes

/-- No alarm is dropped, and the severity is right already. -/
theorem unclaimed_eq (welcomes : ledger.Welcomes situation) :
    ledger.unclaimed situation = situation := by
  have kept : situation.alarms.filter (fun alarm _ => decide (alarm ∉ ledger.homes)) =
      situation.alarms := by
    apply ExtTreeMap.ext_getElem?
    intro alarm
    rw [ExtTreeMap.getElem?_filter']
    cases found : situation.alarms[alarm]? with
    | none => rfl
    | some copy =>
      exact if_pos (decide_eq_true (welcomes.homeless (Collections.mem_of_getElem? found)))
  rw [unclaimed, kept, Situation.refreshed, Situation.computedSeverity]
  exact congrArg (fun severity => { situation with severity }) welcomes.severity_eq.symm

/-- What can be loaded before a situation that is apart from it can be loaded after it. -/
theorem of_takes (welcomes : ledger.Welcomes other) (first : ledger.Welcomes situation)
    (apart : situation.Apart other) (takes : ledger.Takes situation after) :
    after.Welcomes other where
  named := welcomes.named
  unknown member := by
    rcases (takes.mem_situations _).mp member with same | known
    · exact apart.id_ne same
    · exact welcomes.unknown known
  homeless {alarm} shown belongs := by
    rw [ExtTreeMap.mem_iff_isSome_getElem?, takes.getElem?_homes, first.unclaimed_eq] at belongs
    split at belongs
    · rename_i claimed
      exact apart.disjoint claimed shown
    · exact welcomes.homeless shown (ExtTreeMap.mem_iff_isSome_getElem?.mpr belongs)
  severity_eq := welcomes.severity_eq

end Welcomes

namespace TakesAll

theorem nil (ledger : Ledger) : ledger.TakesAll [] ledger where
  situations_iff id situation := by simp
  homes_iff alarm id := by simp
  exclusions_eq := rfl

/-- A situation is taken, and then the others of a listing. -/
theorem cons {next : Ledger} (welcomes : ledger.Welcomes situation)
    (takes : ledger.Takes situation next) (rest : next.TakesAll listing after) :
    ledger.TakesAll (situation :: listing) after where
  situations_iff id other := by
    rw [rest.situations_iff, takes.getElem?_situations, welcomes.unclaimed_eq, List.mem_cons]
    by_cases same : situation.id = id
    · have absent : ledger.situations[id]? = none := by
        rw [← same]
        exact ExtTreeMap.getElem?_eq_none welcomes.unknown
      rw [if_pos same, absent]
      grind
    · rw [if_neg same]
      grind
  homes_iff alarm id := by
    rw [rest.homes_iff, takes.getElem?_homes, welcomes.unclaimed_eq]
    simp only [List.mem_cons, or_and_right, exists_or, exists_eq_left]
    by_cases shown : alarm ∈ situation.alarms
    · have absent : ledger.homes[alarm]? = none :=
        ExtTreeMap.getElem?_eq_none (welcomes.homeless shown)
      rw [if_pos shown, absent]
      grind
    · rw [if_neg shown]
      grind
  exclusions_eq := rest.exclusions_eq.trans takes.exclusions_eq

end TakesAll

/-- Situations that are apart from each other are all taken. -/
theorem loadAll_of_apart (welcomed : ∀ situation ∈ listing, ledger.Welcomes situation)
    (apart : listing.Pairwise Situation.Apart) :
    (ledger.loadAll listing).2 = listing.length ∧
      ledger.TakesAll listing (ledger.loadAll listing).1 := by
  suffices counted : ∀ count, ∃ after, listing.foldl (fun (pair : Ledger × Nat) situation =>
      ((pair.1.load situation).1, pair.2 + (pair.1.load situation).2.toNat)) (ledger, count) =
        (after, count + listing.length) ∧ ledger.TakesAll listing after by
    obtain ⟨after, loaded, takes⟩ := counted 0
    have result : ledger.loadAll listing = (after, 0 + listing.length) := loaded
    rw [result]
    exact ⟨Nat.zero_add _, takes⟩
  induction listing generalizing ledger with
  | nil => exact fun count => ⟨ledger, rfl, .nil ledger⟩
  | cons first rest ih =>
    intro count
    obtain ⟨others, apart⟩ := List.pairwise_cons.mp apart
    have welcomes := welcomed first (List.mem_cons_self ..)
    have takes := takes_load welcomes.named welcomes.unknown
    have taken : (ledger.load first).2 = true := by
      rw [load_of_fresh welcomes.named welcomes.unknown]
    have later : ∀ situation ∈ rest, (ledger.load first).1.Welcomes situation :=
      fun situation member => (welcomed situation (List.mem_cons_of_mem _ member)).of_takes
        welcomes (others situation member) takes
    obtain ⟨after, loaded, others⟩ := ih later apart (count + 1)
    refine ⟨after, ?_, others.cons welcomes takes⟩
    rw [List.foldl_cons, taken, List.length_cons, Nat.add_comm rest.length, ← Nat.add_assoc]
    exact loaded

theorem not_mem_load (named : "" ∉ ledger.situations) (situation : Situation) :
    "" ∉ (ledger.load situation).1.situations := by
  rw [load]
  split
  · exact named
  · rename_i taken
    rw [String.isEmpty_iff] at taken
    intro member
    rcases ExtTreeMap.mem_insert.mp member with same | known
    · exact taken (.inl (LawfulEqOrd.compare_eq_iff_eq.mp same))
    · exact named known

/-- No situation without an id is loaded. -/
theorem not_mem_loadAll (named : "" ∉ ledger.situations) (listing : List Situation) :
    "" ∉ (ledger.loadAll listing).1.situations := by
  rw [loadAll_eq]
  exact List.foldlRecOn listing _ (motive := fun (ledger : Ledger) => "" ∉ ledger.situations)
    named fun _ before situation _ => not_mem_load before situation

section Coherent

variable (coherent : ledger.Coherent)
include coherent

theorem Coherent.mem_values : situation ∈ ledger.situations.values ↔
    ledger.situations[situation.id]? = some situation := by
  rw [Collections.mem_values]
  refine ⟨fun ⟨id, found⟩ => ?_, fun found => ⟨_, found⟩⟩
  rwa [coherent.id_eq found]

theorem Coherent.pairwise_apart : ledger.situations.values.Pairwise Situation.Apart := by
  have distinct : (ledger.situations.values.map Situation.id).Nodup := by
    rw [Collections.map_values_eq_keys fun _ _ => coherent.id_eq]
    exact ExtTreeMap.nodup_keys
  refine (List.pairwise_map.mp distinct).imp_of_mem fun here there different => ⟨different, ?_⟩
  rw [coherent.mem_values] at here there
  intro alarm shown twice
  have belongs := coherent.home_of_shown ⟨_, here, shown⟩
  rw [coherent.home_of_shown ⟨_, there, twice⟩] at belongs
  exact different (Option.some.inj belongs).symm

/-- The situations of a coherent ledger can be loaded into an empty one as they are. -/
theorem Coherent.welcomed (named : "" ∉ ledger.situations) :
    ∀ situation ∈ ledger.situations.values, ({} : Ledger).Welcomes situation := by
  intro situation member
  have found := coherent.mem_values.mp member
  refine ⟨fun nameless => ?_, by simp, by simp, coherent.severity_eq found⟩
  exact named (nameless ▸ Collections.mem_of_getElem? found)

/-- A listing of a coherent ledger, in whichever order, gives back its situations and the
memberships of the alarms that they show. -/
theorem Coherent.loadAll_listing (named : "" ∉ ledger.situations)
    (listed : listing.Perm ledger.situations.values) :
    (({} : Ledger).loadAll listing).2 = ledger.situations.size ∧
    (({} : Ledger).loadAll listing).1.situations = ledger.situations ∧
    (∀ alarm id : String, (({} : Ledger).loadAll listing).1.homes[alarm]? = some id ↔
      ledger.homes[alarm]? = some id ∧ ledger.Shows id alarm) ∧
    (({} : Ledger).loadAll listing).1.exclusions = ∅ := by
  have welcomed : ∀ situation ∈ listing, ({} : Ledger).Welcomes situation :=
    fun situation member => coherent.welcomed named situation (listed.mem_iff.mp member)
  have apart : listing.Pairwise Situation.Apart := listed.symm.pairwise coherent.pairwise_apart
    fun ⟨different, disjoint⟩ =>
      ⟨different.symm, fun shown twice => disjoint twice shown⟩
  obtain ⟨counted, takes⟩ := loadAll_of_apart welcomed apart
  have known (situation : Situation) : situation ∈ listing ↔
      ledger.situations[situation.id]? = some situation :=
    listed.mem_iff.trans coherent.mem_values
  refine ⟨?_, ?_, fun alarm id => ?_, takes.exclusions_eq⟩
  · rw [counted, listed.length_eq, Collections.values_eq, List.length_map,
      ExtTreeMap.length_toList]
  · apply ExtTreeMap.ext_getElem?
    intro id
    apply Option.ext
    intro situation
    rw [takes.situations_iff, known]
    constructor
    · rintro (⟨found, rfl⟩ | found)
      · exact found
      · simp at found
    · intro found
      have same := coherent.id_eq found
      exact .inl ⟨same.symm ▸ found, same⟩
  · rw [takes.homes_iff]
    constructor
    · rintro (⟨situation, member, rfl, shown⟩ | belongs)
      · have shows : ledger.Shows situation.id alarm := ⟨situation, (known _).mp member, shown⟩
        exact ⟨coherent.home_of_shown shows, shows⟩
      · simp at belongs
    · rintro ⟨_, situation, found, shown⟩
      have same := coherent.id_eq found
      exact .inl ⟨situation, (known _).mpr (same.symm ▸ found), same, shown⟩

end Coherent
end Ledger
end FaultCorrelation
