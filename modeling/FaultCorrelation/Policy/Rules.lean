import FaultCorrelation.Policy.Facts
import FaultCorrelation.Policy.Ids
import FaultCorrelation.Fault
import FaultCorrelation.Sorting

/-! # What the rules do

Each rule reads the facts of a tick and writes into the draft. It answers with the number of changes
it asked for, or with a fault; what it wrote before a fault is still in the draft it hands back.
-/

namespace FaultCorrelation

/-- What rules write to: the draft of the tick and the supply of ids. -/
structure Workbench where
  draft : Draft
  ids : IdSource

/-- The outcome of a rule, with the state it leaves. -/
abbrev RuleResult := Except StateFault Nat × Workbench

namespace Rule

/-- Let go of the alarms that were garbage collected. -/
def runCollection (facts : Facts) (draft : Draft) : Draft × Nat :=
  (facts.collected.foldl (fun draft alarm => draft.release alarm.id) draft, facts.collected.length)

/-- Keep an alarm out of a situation that shows it. An alarm that belongs nowhere belongs to the
situation from now on. -/
def applyFalsePositive (facts : Facts) (draft : Draft) (situation : Situation) (id alarm : String) :
    Draft :=
  let draft := (draft.revise situation fun under => under.erase alarm).exclude id alarm
  if (draft.homeOf? facts.ledger alarm).isNone then draft.associate alarm id else draft

/-- Move an alarm into a situation, out of the one in the ledger that it belongs to. -/
def applyFalseNegative (facts : Facts) (draft : Draft) (situation : Situation) (id : String)
    (alarm : Alarm) : Draft :=
  let previous := (draft.homeOf? facts.ledger alarm.id).bind fun home =>
    if home = id then none else facts.ledger.situations[home]?
  let draft :=
    match previous with
    | some other => draft.revise other fun under => under.erase alarm.id
    | none => draft
  ((draft.readmit id alarm.id).associate alarm.id id).revise situation fun under => under.put alarm

/-- Apply one item of feedback; and whether it changed anything. Feedback on a situation that is
not in the ledger is dropped, and so is a false negative on an alarm that is not known. -/
def applyFeedback (facts : Facts) (draft : Draft) (feedback : Feedback) : Draft × Bool :=
  let id := draft.resolve feedback.situation
  match facts.ledger.situations[id]? with
  | none => (draft, false)
  | some situation =>
    match feedback.verdict with
    | .falsePositive => (applyFalsePositive facts draft situation id feedback.alarm, true)
    | .falseNegative =>
      match facts.findAlarm? draft feedback.alarm with
      | some alarm => (applyFalseNegative facts draft situation id alarm, true)
      | none => (draft, false)
    | _ => (draft, false)

/-- Apply all feedback in order. -/
def runFeedback (facts : Facts) (draft : Draft) : Draft × Nat :=
  facts.feedback.foldl (fun (draft, count) feedback =>
    let (draft, changed) := applyFeedback facts draft feedback
    (draft, count + changed.toNat)) (draft, 0)

/-- The alarms of a cluster that belong to situations, each with its situation. -/
def mappedOf (facts : Facts) (draft : Draft) (cluster : Cluster) : List (Alarm × String) :=
  cluster.filterMap fun located =>
    (draft.homeOf? facts.ledger located.alarm.id).map fun home => (located.alarm, home)

/-- The alarms of a cluster that belong to no situation. -/
def unmappedOf (facts : Facts) (draft : Draft) (cluster : Cluster) : List Alarm :=
  (cluster.filter fun located => (draft.homeOf? facts.ledger located.alarm.id).isNone).map
    LocatedAlarm.alarm

/-- The alarms whose copies are out of date, by the situations that show the copies. -/
def staleOf (facts : Facts) (draft : Draft) (mapped : List (Alarm × String)) :
    Std.ExtTreeMap String (List Alarm) :=
  mapped.foldl (fun stale (alarm, home) =>
    if (facts.shownCopy? draft home alarm.id).any fun copy => copy != alarm then
      stale.alter home fun alarms => some (alarms.getD [] ++ [alarm])
    else stale) ∅

/-- Bring the copies that a situation shows up to date. A situation that is not being revised
anyway is left alone unless its severity would change. -/
def refreshSituation (facts : Facts) (draft : Draft) (home : String) (alarms : List Alarm) :
    Draft × Bool :=
  match facts.ledger.situations[home]? with
  | none => (draft, false)
  | some situation =>
    let refreshed := alarms.foldl (fun map alarm => map.insert alarm.id alarm) situation.alarms
    if home ∉ draft.situations ∧ AlarmMap.severity refreshed = situation.severity then
      (draft, false)
    else (draft.revise situation fun under => under.putAll alarms, true)

/-- Bring the copies of a cluster's alarms up to date. -/
def refreshCopies (facts : Facts) (draft : Draft) (mapped : List (Alarm × String)) : Draft × Nat :=
  (staleOf facts draft mapped).foldl (fun (draft, count) home alarms =>
    let (draft, changed) := refreshSituation facts draft home alarms
    (draft, count + changed.toNat)) (draft, 0)

/-- The order in which situations survive a merge: the oldest first, then by id. -/
def older (a b : Situation) : Bool :=
  ((compare a.created b.created).then (compare a.id b.id)).isLE

/-- Look situations up in the ledger. -/
def lookUpAll (ledger : Ledger) : List String → Except StateFault (List Situation)
  | [] => .ok []
  | id :: rest =>
    match ledger.situations[id]? with
    | none => .error (.unknownSituation id)
    | some situation => (lookUpAll ledger rest).map (situation :: ·)

/-- Fold situations into the first of them and let the alarms of a cluster join it. -/
def foldInto (draft : Draft) (survivor : Situation) (others : List Situation)
    (mapped unmapped : List Alarm) : Draft :=
  let draft := others.foldl (fun draft other => draft.absorb other survivor) draft
  let draft := draft.revise survivor fun under =>
    (mapped.foldl (fun under alarm =>
      if alarm.id ∈ under.alarms then under.put alarm else under) under).putAll unmapped
  draft.associateAll (unmapped.map Alarm.id) survivor.id

/-- Merge one cluster. A cluster that touches no situation is left to other rules; one that brings
no new alarm only refreshes copies. -/
def mergeCluster (facts : Facts) (draft : Draft) (cluster : Cluster) :
    Except StateFault (Draft × Nat) :=
  let mapped := mappedOf facts draft cluster
  let unmapped := unmappedOf facts draft cluster
  if mapped.isEmpty then .ok (draft, 0)
  else if unmapped.isEmpty then .ok (refreshCopies facts draft mapped)
  else
    let referenced := (Std.ExtTreeSet.ofList (mapped.map Prod.snd)).toList
    match lookUpAll facts.ledger referenced with
    | .error cause => .error cause
    | .ok situations =>
      match Sorting.sortBy older situations with
      | [] => .ok (draft, 0)
      | survivor :: others =>
        .ok (foldInto draft survivor others (mapped.map Prod.fst) unmapped, 1)

/-- Merge clusters in order, up to the first fault. -/
def runMerge (facts : Facts) : Draft → Nat → List Cluster → Except StateFault Nat × Draft
  | draft, count, [] => (.ok count, draft)
  | draft, count, cluster :: rest =>
    match mergeCluster facts draft cluster with
    | .error cause => (.error cause, draft)
    | .ok (draft, changes) => runMerge facts draft (count + changes) rest

/-- Start a situation for a cluster, if it has alarms and none of them belongs to a situation. -/
def startSituation (facts : Facts) (bench : Workbench) (cluster : Cluster) : Workbench × Bool :=
  let alarms := cluster.map LocatedAlarm.alarm
  if alarms.isEmpty ∨
      alarms.any fun alarm => (bench.draft.homeOf? facts.ledger alarm.id).isSome then
    (bench, false)
  else
    let (id, ids) := bench.ids.draw
    let draft := bench.draft.reviseNew id fun under => under.putAll alarms
    ({ draft := draft.associateAll (alarms.map Alarm.id) id, ids }, true)

/-- Start situations for the clusters in order. -/
def runNewSituation (facts : Facts) (bench : Workbench) : Workbench × Nat :=
  facts.clusters.foldl (fun (bench, count) cluster =>
    let (bench, started) := startSituation facts bench cluster
    (bench, count + started.toNat)) (bench, 0)

/-- Run a rule. -/
def run (facts : Facts) (bench : Workbench) : Rule → RuleResult
  | .collection =>
    let (draft, count) := runCollection facts bench.draft
    (.ok count, { bench with draft })
  | .feedback =>
    let (draft, count) := runFeedback facts bench.draft
    (.ok count, { bench with draft })
  | .merge =>
    let (result, draft) := runMerge facts bench.draft 0 facts.clusters
    (result, { bench with draft })
  | .newSituation =>
    let (bench, count) := runNewSituation facts bench
    (.ok count, bench)

end Rule
end FaultCorrelation
