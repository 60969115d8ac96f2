import FaultCorrelation.Cluster.Alarms
import FaultCorrelation.Feedback
import FaultCorrelation.Ledger.Draft

/-! # Facts of a tick

What the rules of a policy may look at during one tick. The facts do not change while the rules
run; the rules see each other's work through the draft.
-/

namespace FaultCorrelation

/-- Everything a rule may look at, but for the draft. -/
structure Facts where
  /-- The alarms held by the topology, by id. -/
  active : AlarmMap
  clusters : List Cluster
  /-- Alarms that were garbage collected. -/
  collected : List Alarm
  feedback : List Feedback
  ledger : Ledger

namespace Facts

/-- Index active alarms by id; of two with one id the later counts. -/
def indexActive (active : List LocatedAlarm) : AlarmMap :=
  active.foldl (fun alarms located => alarms.insert located.alarm.id located.alarm) ∅

/-- The latest known instance of an alarm: the active one, else the copy in the draft of the
situation it belongs to, else the copy in the ledger. -/
def findAlarm? (facts : Facts) (draft : Draft) (alarm : String) : Option Alarm :=
  match facts.active[alarm]? with
  | some found => some found
  | none => do
    let home ← draft.homeOf? facts.ledger alarm
    let drafted := draft.situations[home]?.bind fun situation =>
      situation.alarms.values.find? fun copy => copy.id == alarm
    match drafted with
    | some found => some found
    | none => facts.ledger.situations[home]?.bind fun situation => situation.alarms[alarm]?

/-- The copy of an alarm that the situation it belongs to shows. -/
def shownCopy? (facts : Facts) (draft : Draft) (home alarm : String) : Option Alarm :=
  match draft.situations[home]? with
  | some situation => situation.alarms[alarm]?
  | none => facts.ledger.situations[home]?.bind fun situation => situation.alarms[alarm]?

end Facts
end FaultCorrelation
