import FaultCorrelation.Ledger.Draft
import FaultCorrelation.Situation.Spread

/-! # Committing a draft

The changes of a tick enter the ledger in a fixed order: absorptions, memberships, exclusions and
inclusions, the drafted situations with their diagnostic texts, releases. Exclusions from
situations that are gone go with them.
-/

namespace FaultCorrelation.Ledger

/-- Let one situation vanish into another. -/
def absorb (ledger : Ledger) (absorbed survivor : String) : Ledger :=
  { situations := ledger.situations.erase absorbed
    homes := ledger.homes.map fun _ home => if home = absorbed then survivor else home
    exclusions := ledger.exclusions.redirect absorbed survivor }

/-- Carry out the absorptions of a draft. -/
def applyAbsorptions (ledger : Ledger) (draft : Draft) : Ledger :=
  draft.absorbed.foldl absorb ledger

/-- Set or end the membership of one alarm. -/
def applyHome (homes : Std.ExtTreeMap String String) (alarm : String) (home : Option String) :
    Std.ExtTreeMap String String :=
  match home with
  | some situation => homes.insert alarm situation
  | none => homes.erase alarm

/-- Carry out the new memberships of a draft. -/
def applyHomes (ledger : Ledger) (draft : Draft) : Ledger :=
  { ledger with homes := draft.homes.foldl applyHome ledger.homes }

/-- Carry out the exclusions of a draft, then lift those it includes again. -/
def applyExclusions (ledger : Ledger) (draft : Draft) : Ledger :=
  { ledger with
    exclusions :=
      draft.inclusions.foldl (fun exclusions exclusion => exclusions.erase exclusion)
        (draft.exclusions.foldl (fun exclusions exclusion => exclusions.insert exclusion)
          ledger.exclusions) }

/-- Store a situation and make the alarms it shows belong to it. -/
def store (ledger : Ledger) (situation : Situation) : Ledger :=
  { ledger with
    situations := ledger.situations.insert situation.id situation
    homes := claim ledger.homes situation.id situation.alarms.keys }

/-- End the membership of an alarm that is gone, if its situation is gone too. -/
def applyRelease (ledger : Ledger) (alarm : String) : Ledger :=
  if ledger.homes[alarm]?.any fun home => home ∉ ledger.situations then
    { ledger with homes := ledger.homes.erase alarm }
  else ledger

/-- Carry out the releases of a draft. -/
def applyReleases (ledger : Ledger) (draft : Draft) : Ledger :=
  draft.releases.foldl applyRelease ledger

/-- Drop exclusions from situations that are gone. -/
def dropVoidExclusions (ledger : Ledger) : Ledger :=
  { ledger with
    exclusions := ledger.exclusions.filter fun exclusion =>
      ledger.situations.contains exclusion.situation }

variable {W : Type} [Weight W]

/-- The situation that a draft comes to, with its diagnostic text. A text that cannot be made is
left out. -/
def finish (graph : Topology W) (drafted : SituationDraft) :
    StateM (DistanceCache W) Situation := do
  let situation := drafted.situation
  let diagnostic ← (situation.diagnose graph).run
  return { situation with diagnostic := diagnostic.toOption }

/-- Enter a draft into the ledger. Answers with the situations that were started or revised, in
order of their ids. -/
def commit (ledger : Ledger) (draft : Draft) (graph : Topology W) :
    StateM (DistanceCache W) (Ledger × List Situation) := do
  let prepared := ((ledger.applyAbsorptions draft).applyHomes draft).applyExclusions draft
  let committed ← draft.situations.values.mapM (finish graph)
  let stored := committed.foldl store prepared
  return ((stored.applyReleases draft).dropVoidExclusions, committed)

end FaultCorrelation.Ledger
