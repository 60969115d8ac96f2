import FaultCorrelation.Proofs.Ledger.Coherence
import Mathlib.Data.List.Induction

/-! # The first claim wins

Loading into an empty ledger keeps the first situation of every id, and an alarm stays with the
first situation, of those kept, whose map has it. Both are said by what stands before a situation
in the listing, so that they are told of a listing from its end: the last situation is kept and
shows its alarms depending on the listing before it, and changes nothing about the earlier ones.
-/

namespace FaultCorrelation.Ledger

open Std

/-- A situation that loading a listing keeps, with what stands before it in the listing: it has an
id, which no situation before it has. -/
structure Kept (listing earlier : List Situation) (situation : Situation) : Prop where
  split : earlier ++ [situation] <+: listing
  named : situation.id ≠ ""
  first : ∀ other ∈ earlier, other.id ≠ situation.id

/-- Whether an alarm is in the map of a situation that is kept. -/
def Claimed (listing : List Situation) (alarm : String) : Prop :=
  ∃ earlier situation, Kept listing earlier situation ∧ alarm ∈ situation.alarms

/-- What is left of a situation behind others: the alarms that none of those kept has in its map,
and the severity that these call for. -/
structure Leaves (earlier : List Situation) (situation left : Situation) : Prop where
  id_eq : left.id = situation.id
  created_eq : left.created = situation.created
  diagnostic_eq : left.diagnostic = situation.diagnostic
  severity_eq : left.severity = left.computedSeverity
  getElem?_alarms_iff (alarm : String) (copy : Alarm) : left.alarms[alarm]? = some copy ↔
    situation.alarms[alarm]? = some copy ∧ ¬Claimed earlier alarm

/-- What a ledger holds that a listing was loaded into while it was empty, with the number of
situations that were taken. -/
structure Holds (ledger : Ledger) (number : Nat) (listing : List Situation) : Prop where
  mem_situations_iff (id : String) : id ∈ ledger.situations ↔
    ∃ earlier situation, Kept listing earlier situation ∧ situation.id = id
  number_eq : number = ledger.situations.size
  getElem?_situations {earlier : List Situation} {situation : Situation} :
    Kept listing earlier situation →
      ∃ left, ledger.situations[situation.id]? = some left ∧ Leaves earlier situation left
  getElem?_homes_iff (alarm id : String) :
    ledger.homes[alarm]? = some id ↔ ledger.Shows id alarm
  mem_homes_iff (alarm : String) : alarm ∈ ledger.homes ↔ Claimed listing alarm
  exclusions_eq : ledger.exclusions = ∅

variable {ledger after : Ledger} {number : Nat} {listing earlier : List Situation}
  {situation last : Situation} {alarm id : String}

theorem not_kept_nil : ¬Kept [] earlier situation := by
  intro kept
  simpa using kept.split.length_le

theorem kept_concat_iff : Kept (listing ++ [last]) earlier situation ↔
    Kept listing earlier situation ∨ (earlier = listing ∧ situation = last) ∧
      last.id ≠ "" ∧ ∀ other ∈ listing, other.id ≠ last.id := by
  constructor
  · rintro ⟨split, named, first⟩
    rcases List.prefix_concat_iff.mp split with whole | split
    · obtain ⟨rfl, same⟩ := List.append_inj' whole rfl
      obtain rfl := List.singleton_inj.mp same
      exact .inr ⟨⟨rfl, rfl⟩, named, first⟩
    · exact .inl ⟨split, named, first⟩
  · rintro (⟨split, named, first⟩ | ⟨⟨rfl, rfl⟩, named, first⟩)
    · exact ⟨split.trans (List.prefix_append ..), named, first⟩
    · exact ⟨List.prefix_rfl, named, first⟩

/-- Of every id in a listing but the empty one a situation is kept. -/
theorem exists_kept_iff :
    (∃ earlier situation, Kept listing earlier situation ∧ situation.id = id) ↔
      id ≠ "" ∧ ∃ situation ∈ listing, situation.id = id := by
  induction listing using List.reverseRecOn with
  | nil => simp [not_kept_nil]
  | append_singleton listing last ih =>
    simp only [kept_concat_iff, List.mem_append, List.mem_singleton, or_and_right, exists_or, ih,
      exists_eq_left]
    grind

/-- A situation that is passed over leaves no trace in what is kept. -/
theorem kept_concat_of_passed (passed : last.id = "" ∨ ∃ other ∈ listing, other.id = last.id) :
    Kept (listing ++ [last]) earlier situation ↔ Kept listing earlier situation := by
  rw [kept_concat_iff, or_iff_left]
  rintro ⟨-, named, first⟩
  rcases passed with nameless | ⟨other, member, same⟩
  · exact named nameless
  · exact first other member same

theorem claimed_concat_of_fresh (named : last.id ≠ "")
    (first : ∀ other ∈ listing, other.id ≠ last.id) :
    Claimed (listing ++ [last]) alarm ↔ Claimed listing alarm ∨ alarm ∈ last.alarms := by
  simp only [Claimed, kept_concat_iff, or_and_right, exists_or]
  refine or_congr_right ⟨?_, fun shown => ⟨listing, last, ⟨⟨rfl, rfl⟩, named, first⟩, shown⟩⟩
  rintro ⟨earlier, situation, ⟨⟨-, rfl⟩, -⟩, shown⟩
  exact shown

namespace Holds

theorem empty : Holds {} 0 [] where
  mem_situations_iff id := by simp [not_kept_nil]
  number_eq := rfl
  getElem?_situations kept := absurd kept not_kept_nil
  getElem?_homes_iff alarm id := by simp [Shows]
  mem_homes_iff alarm := by simp [Claimed, not_kept_nil]
  exclusions_eq := rfl

variable (holds : ledger.Holds number listing)
include holds

/-- A ledger knows the id of a situation if that is kept or one before it is. -/
theorem mem_situations_id_iff (named : last.id ≠ "") :
    last.id ∈ ledger.situations ↔ ∃ other ∈ listing, other.id = last.id := by
  rw [holds.mem_situations_iff, exists_kept_iff]
  exact and_iff_right named

theorem leaves_unclaimed : Leaves listing last (ledger.unclaimed last) where
  id_eq := rfl
  created_eq := rfl
  diagnostic_eq := rfl
  severity_eq := rfl
  getElem?_alarms_iff alarm copy := by
    have kept : (ledger.unclaimed last).alarms[alarm]? =
        last.alarms[alarm]?.filter fun _ => decide (alarm ∉ ledger.homes) :=
      ExtTreeMap.getElem?_filter'
    rw [kept, Option.filter_eq_some_iff, decide_eq_true_eq, holds.mem_homes_iff]

theorem concat_of_passed (passed : last.id = "" ∨ ∃ other ∈ listing, other.id = last.id) :
    ledger.Holds number (listing ++ [last]) where
  mem_situations_iff id := by
    simp only [kept_concat_of_passed passed]
    exact holds.mem_situations_iff id
  number_eq := holds.number_eq
  getElem?_situations kept := holds.getElem?_situations ((kept_concat_of_passed passed).mp kept)
  getElem?_homes_iff := holds.getElem?_homes_iff
  mem_homes_iff alarm := by
    simp only [Claimed, kept_concat_of_passed passed]
    exact holds.mem_homes_iff alarm
  exclusions_eq := holds.exclusions_eq

theorem concat_of_fresh (named : last.id ≠ "") (first : ∀ other ∈ listing, other.id ≠ last.id)
    (takes : ledger.Takes last after)
    (grown : after.situations.size = ledger.situations.size + 1) :
    after.Holds (number + 1) (listing ++ [last]) where
  mem_situations_iff id := by
    simp only [takes.mem_situations, holds.mem_situations_iff, kept_concat_iff, or_and_right,
      exists_or]
    grind
  number_eq := by rw [grown, holds.number_eq]
  getElem?_situations {earlier situation} kept := by
    rw [takes.getElem?_situations]
    rcases kept_concat_iff.mp kept with kept | ⟨⟨rfl, rfl⟩, -⟩
    · have known := (holds.mem_situations_iff _).mpr ⟨earlier, situation, kept, rfl⟩
      rw [if_neg fun same : last.id = situation.id => takes.unknown (same ▸ known)]
      exact holds.getElem?_situations kept
    · exact ⟨_, if_pos rfl, holds.leaves_unclaimed⟩
  getElem?_homes_iff alarm id := by
    refine ⟨fun belongs => ?_, takes.home_of_shown (holds.getElem?_homes_iff _ _).mpr⟩
    rw [takes.getElem?_homes] at belongs
    split at belongs
    · rename_i shown
      exact ⟨_, by rw [takes.getElem?_situations, if_pos (Option.some.inj belongs)], shown⟩
    · obtain ⟨holder, found, shown⟩ := (holds.getElem?_homes_iff ..).mp belongs
      have different : last.id ≠ id := by
        rintro rfl
        exact takes.unknown (Collections.mem_of_getElem? found)
      exact ⟨holder, by rw [takes.getElem?_situations, if_neg different, found], shown⟩
  mem_homes_iff alarm := by
    rw [claimed_concat_of_fresh named first, ← holds.mem_homes_iff, takes.mem_homes]
  exclusions_eq := takes.exclusions_eq.trans holds.exclusions_eq

/-- One situation more. -/
theorem load (last : Situation) :
    (ledger.load last).1.Holds (number + (ledger.load last).2.toNat) (listing ++ [last]) := by
  by_cases passed : last.id = "" ∨ ∃ other ∈ listing, other.id = last.id
  · have same : ledger.load last = (ledger, false) := by
      apply load_of_passed
      by_cases named : last.id = ""
      · exact .inl named
      · exact .inr ((holds.mem_situations_id_iff named).mpr (passed.resolve_left named))
    rw [same]
    exact holds.concat_of_passed passed
  · obtain ⟨named, first⟩ := not_or.mp passed
    have unknown := mt (holds.mem_situations_id_iff named).mp first
    have fresh : ∀ other ∈ listing, other.id ≠ last.id :=
      fun other member same => first ⟨other, member, same⟩
    have takes := takes_load named unknown
    rw [load_of_fresh named unknown] at takes ⊢
    exact holds.concat_of_fresh named fresh takes (ExtTreeMap.size_insert.trans (if_neg unknown))

end Holds

/-- The first claim wins: of every id the first situation is kept, and their number is told; of
every alarm the first situation kept that has it goes on showing it, and the alarm belongs to that
one; all else about a situation stays, but for the severity, which its remaining alarms call for. -/
theorem first_claim_wins (listing : List Situation) :
    (({} : Ledger).loadAll listing).1.Holds (({} : Ledger).loadAll listing).2 listing := by
  induction listing using List.reverseRecOn with
  | nil => exact .empty
  | append_singleton listing last ih =>
    have step : ({} : Ledger).loadAll (listing ++ [last]) =
        (((({} : Ledger).loadAll listing).1.load last).1,
          (({} : Ledger).loadAll listing).2 +
            ((({} : Ledger).loadAll listing).1.load last).2.toNat) :=
      List.foldl_append
    rw [step]
    exact ih.load last

/-- Situations that are passed over claim nothing. -/
example :
    let alarm (id : String) : Alarm := ⟨id, 0, .major, none, none⟩
    let loaded := ({} : Ledger).loadAll
      [(Situation.new "s" 0).withAlarm (alarm "a"), (Situation.new "s" 1).withAlarm (alarm "b"),
        (Situation.new "" 2).withAlarm (alarm "c"),
        ((Situation.new "t" 3).withAlarm (alarm "a")).withAlarm (alarm "b")]
    loaded.2 = 2 ∧ loaded.1.homes.toList = [("a", "s"), ("b", "t")] := by
  decide +kernel

end FaultCorrelation.Ledger
