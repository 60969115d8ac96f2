import FaultCorrelation.Ledger.Basic

/-! # Drafts of one tick

A `Draft` gathers the changes that the rules of a policy ask for during one tick. Nothing of it is
in the ledger until it is committed, but the look-ups here answer as if it were: situations being
revised are read from their drafts, memberships from the draft first, and a situation that was
absorbed leads to the one that absorbed it.
-/

namespace FaultCorrelation

/-- A situation being started or revised. -/
structure SituationDraft where
  id : String
  created : Int
  alarms : AlarmMap
  /-- Whether the situation is started in this tick. -/
  isNew : Bool
  deriving DecidableEq

namespace SituationDraft

/-- Revise a situation from its present state. -/
def ofSituation (situation : Situation) : SituationDraft :=
  { id := situation.id, created := situation.created, alarms := situation.alarms, isNew := false }

/-- Start a situation. -/
def start (id : String) (created : Int) : SituationDraft :=
  { id, created, alarms := ∅, isNew := true }

/-- Show an alarm, in place of an earlier instance of it. -/
def put (draft : SituationDraft) (alarm : Alarm) : SituationDraft :=
  { draft with alarms := draft.alarms.insert alarm.id alarm }

/-- Show alarms in order. -/
def putAll (draft : SituationDraft) (alarms : List Alarm) : SituationDraft :=
  alarms.foldl put draft

/-- Stop showing an alarm. -/
def erase (draft : SituationDraft) (alarm : String) : SituationDraft :=
  { draft with alarms := draft.alarms.erase alarm }

/-- The situation drafted, without its diagnostic text. -/
def situation (draft : SituationDraft) : Situation :=
  { Situation.new draft.id draft.created with alarms := draft.alarms }.refreshed

end SituationDraft

/-- The changes gathered in one tick. -/
structure Draft where
  time : Int := 0
  situations : Std.ExtTreeMap String SituationDraft := ∅
  /-- New memberships; `none` ends one. -/
  homes : Std.ExtTreeMap String (Option String) := ∅
  exclusions : ExclusionSet := ∅
  /-- Exclusions to lift. -/
  inclusions : ExclusionSet := ∅
  /-- Alarms that are gone from working memory. -/
  releases : Std.ExtTreeSet String := ∅
  /-- For each absorbed situation the one that absorbed it. -/
  absorbed : Std.ExtTreeMap String String := ∅
  deriving DecidableEq

namespace Draft

/-- Nothing gathered yet. -/
def new (time : Int) : Draft := { time }

/-- Whether nothing is gathered. -/
def isEmpty (draft : Draft) : Bool :=
  draft.situations.isEmpty && draft.homes.isEmpty && draft.exclusions.isEmpty &&
    draft.inclusions.isEmpty && draft.releases.isEmpty && draft.absorbed.isEmpty

/-- Follow redirections from an id, at most `steps` of them. -/
def follow (absorbed : Std.ExtTreeMap String String) : (steps : Nat) → String → String
  | 0, id => id
  | steps + 1, id =>
    match absorbed[id]? with
    | some survivor => follow absorbed steps survivor
    | none => id

/-- The situation that an id stands for after absorptions. -/
def resolve (draft : Draft) (id : String) : String :=
  follow draft.absorbed draft.absorbed.size id

/-- The situation an alarm belongs to. -/
def homeOf? (draft : Draft) (ledger : Ledger) (alarm : String) : Option String :=
  ((draft.homes[alarm]?).getD ledger.homes[alarm]?).map draft.resolve

/-- Whether a situation is in the ledger or was started, and was not absorbed. -/
def hasSituation (draft : Draft) (ledger : Ledger) (id : String) : Bool :=
  !draft.absorbed.contains id && (draft.situations.contains id || ledger.situations.contains id)

/-- Whether an alarm is kept out of a situation. -/
def isExcluded (draft : Draft) (ledger : Ledger) (situation alarm : String) : Bool :=
  !draft.inclusions.contains ⟨situation, alarm⟩ &&
    (draft.exclusions.contains ⟨situation, alarm⟩ || ledger.isExcluded situation alarm)

/-- The ids of the situations started. -/
def newIds (draft : Draft) : List String :=
  (draft.situations.values.filter SituationDraft.isNew).map SituationDraft.id

/-- The draft of a situation: the one under way, or one from its present state. -/
def opened (draft : Draft) (situation : Situation) : SituationDraft :=
  draft.situations.getD situation.id (.ofSituation situation)

/-- The draft of a new situation: the one under way, or an empty one. -/
def openedNew (draft : Draft) (id : String) : SituationDraft :=
  draft.situations.getD id (.start id draft.time)

/-- Put a draft of a situation in place. -/
def store (draft : Draft) (id : String) (situation : SituationDraft) : Draft :=
  { draft with situations := draft.situations.insert id situation }

/-- Change the draft of a situation in the ledger. -/
def revise (draft : Draft) (situation : Situation) (change : SituationDraft → SituationDraft) :
    Draft :=
  draft.store situation.id (change (draft.opened situation))

/-- Change the draft of a new situation. -/
def reviseNew (draft : Draft) (id : String) (change : SituationDraft → SituationDraft) : Draft :=
  draft.store id (change (draft.openedNew id))

/-- Make an alarm belong to a situation. -/
def associate (draft : Draft) (alarm situation : String) : Draft :=
  { draft with homes := draft.homes.insert alarm (some situation) }

/-- Make alarms belong to a situation. -/
def associateAll (draft : Draft) (alarms : List String) (situation : String) : Draft :=
  alarms.foldl (fun draft alarm => draft.associate alarm situation) draft

/-- Make an alarm belong to no situation. -/
def disassociate (draft : Draft) (alarm : String) : Draft :=
  { draft with homes := draft.homes.insert alarm none }

/-- Keep an alarm out of a situation. -/
def exclude (draft : Draft) (situation alarm : String) : Draft :=
  { draft with
    inclusions := draft.inclusions.erase ⟨situation, alarm⟩
    exclusions := draft.exclusions.insert ⟨situation, alarm⟩ }

/-- Lift an exclusion. -/
def readmit (draft : Draft) (situation alarm : String) : Draft :=
  { draft with
    exclusions := draft.exclusions.erase ⟨situation, alarm⟩
    inclusions := draft.inclusions.insert ⟨situation, alarm⟩ }

/-- Note an alarm as gone from working memory. -/
def release (draft : Draft) (alarm : String) : Draft :=
  { draft with releases := draft.releases.insert alarm }

/-- The alarms that a situation shows. -/
def shown (draft : Draft) (situation : Situation) : AlarmMap :=
  (draft.situations[situation.id]?.map SituationDraft.alarms).getD situation.alarms

/-- Send everything that points at one situation to another. -/
def redirect (draft : Draft) (source target : String) : Draft :=
  { draft with
    homes := draft.homes.map fun _ home => if home = some source then some target else home
    exclusions := draft.exclusions.redirect source target
    absorbed :=
      (draft.absorbed.map fun _ survivor => if survivor = source then target else survivor).insert
        source target }

/-- Fold one situation into another. The alarms it shows move into the survivor's draft, and what
points at it is sent to the situation that the survivor stands for. -/
def absorb (draft : Draft) (absorbed survivor : Situation) : Draft :=
  let target := draft.resolve survivor.id
  if absorbed.id = target then draft
  else
    let moved := draft.shown absorbed
    let draft := { draft with situations := draft.situations.erase absorbed.id }
    (draft.revise survivor fun under => under.putAll moved.values).redirect absorbed.id target

end Draft
end FaultCorrelation
