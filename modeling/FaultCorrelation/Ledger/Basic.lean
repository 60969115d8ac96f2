import FaultCorrelation.Situation.Basic
import Std.Data.ExtTreeSet

/-! # The ledger of situations

The `Ledger` holds the situations, the situation each alarm belongs to, and which alarms feedback
has excluded from which situations. An alarm belongs to one situation at most. It goes on belonging
to it after it was excluded: the situation then no longer shows it, and the exclusion keeps it out.
-/

namespace FaultCorrelation

/-- An alarm kept out of a situation. -/
structure Exclusion where
  situation : String
  alarm : String
  deriving DecidableEq, Repr

namespace Exclusion

instance : Ord Exclusion := ⟨compareLex (compareOn situation) (compareOn alarm)⟩

theorem compare_def (a b : Exclusion) :
    compare a b = compareLex (compareOn situation) (compareOn alarm) a b := rfl

instance : Std.TransOrd Exclusion :=
  inferInstanceAs (Std.TransCmp (compareLex (compareOn situation) (compareOn alarm)))

instance : Std.LawfulEqOrd Exclusion where
  compare_self :=
    (inferInstance :
      Std.ReflCmp (compareLex (compareOn situation) (compareOn alarm))).compare_self
  eq_of_compare {a b} h := by
    rw [compare_def, compareLex_eq_eq] at h
    obtain ⟨situation, alarm⟩ := a
    obtain ⟨situation', alarm'⟩ := b
    simp only [compareOn, Std.LawfulEqCmp.compare_eq_iff_eq] at h
    obtain ⟨rfl, rfl⟩ := h
    rfl

end Exclusion

/-- Exclusions, in order of situation and alarm. -/
abbrev ExclusionSet := Std.ExtTreeSet Exclusion

namespace ExclusionSet

/-- Turn the exclusions from one situation into exclusions from another. -/
def redirect (exclusions : ExclusionSet) (source target : String) : ExclusionSet :=
  .ofList (exclusions.toList.map fun exclusion =>
    if exclusion.situation = source then { exclusion with situation := target } else exclusion)

end ExclusionSet

/-- The situations and the memberships of alarms. -/
structure Ledger where
  situations : Std.ExtTreeMap String Situation := ∅
  /-- The situation each alarm belongs to. -/
  homes : Std.ExtTreeMap String String := ∅
  exclusions : ExclusionSet := ∅
  deriving DecidableEq

namespace Ledger

/-- Whether an alarm is kept out of a situation. -/
def isExcluded (ledger : Ledger) (situation alarm : String) : Bool :=
  ledger.exclusions.contains ⟨situation, alarm⟩

/-- The alarms kept out of a situation, in order. -/
def excludedFrom (ledger : Ledger) (situation : String) : List String :=
  (ledger.exclusions.toList.filter fun exclusion => exclusion.situation == situation).map
    Exclusion.alarm

/-- What is left of a situation once alarms that belong elsewhere are dropped from it. -/
def unclaimed (ledger : Ledger) (situation : Situation) : Situation :=
  { situation with
    alarms := situation.alarms.filter fun alarm _ => alarm ∉ ledger.homes }.refreshed

/-- Make alarms belong to a situation. -/
def claim (homes : Std.ExtTreeMap String String) (situation : String) (alarms : List String) :
    Std.ExtTreeMap String String :=
  alarms.foldl (fun homes alarm => homes.insert alarm situation) homes

/-- Load one situation; and whether it was taken. A situation without an id or with the id of one
already there is passed over. -/
def load (ledger : Ledger) (situation : Situation) : Ledger × Bool :=
  if situation.id.isEmpty ∨ situation.id ∈ ledger.situations then (ledger, false)
  else
    let situation := ledger.unclaimed situation
    ({ ledger with
        situations := ledger.situations.insert situation.id situation
        homes := claim ledger.homes situation.id situation.alarms.keys }, true)

/-- Load situations in order; and how many were taken. An alarm stays with the first situation that
shows it. -/
def loadAll (ledger : Ledger) (situations : List Situation) : Ledger × Nat :=
  situations.foldl (fun (ledger, taken) situation =>
    let (ledger, isTaken) := ledger.load situation
    (ledger, taken + isTaken.toNat)) (ledger, 0)

/-- Forget a situation with its memberships and exclusions. -/
def delete (ledger : Ledger) (id : String) : Ledger :=
  { situations := ledger.situations.erase id
    homes := ledger.homes.filter fun _ home => home != id
    exclusions := ledger.exclusions.filter fun exclusion => exclusion.situation != id }

end Ledger
end FaultCorrelation
