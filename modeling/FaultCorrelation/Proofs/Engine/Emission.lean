import FaultCorrelation.Proofs.Engine.Correlation
import FaultCorrelation.Proofs.Situation.Diagnosis

/-! # What a tick hands out

With the default policy a tick hands out the situations that it has changed, and no others. They
are the ones that were drafted, and each is handed out as it is stored: storing comes last of all
that a commit does to situations, and a diagnostic text can always be made. What is neither handed
out nor absorbed has been left alone.
-/

namespace FaultCorrelation

open Std

variable {W : Type} [Weight W]

namespace Ledger

variable {ledger : Ledger} {draft : Draft} {graph : Topology W}

/-- Every draft is finished with a diagnostic text. -/
theorem told_of_finished (wellFormed : graph.WellFormed) (drafts : List SituationDraft)
    (cache : DistanceCache W) :
    ∀ situation ∈ ((drafts.mapM (finish graph)).run cache).1, situation.diagnostic.isSome := by
  induction drafts generalizing cache with
  | nil => exact fun _ member => nomatch member
  | cons first rest ih =>
    rw [finish_cons]
    rintro situation (_ | ⟨_, member⟩)
    · obtain ⟨text, came⟩ := first.situation.succeeds_diagnose wellFormed cache
      have finished : (finish graph first cache).1.diagnostic =
          ((first.situation.diagnose graph).run.run cache).1.toOption := rfl
      rw [finished, came]
      rfl
    · exact ih _ situation member

/-- What a commit answers with and leads to: the situations drafted, in order of their ids, each as
it is stored, with the severity of its alarms and with a text. The others stay as they were, but for
those that were absorbed. -/
structure Enters (ledger : Ledger) (draft : Draft) (after : Ledger)
    (situations : List Situation) : Prop where
  ids_eq : situations.map Situation.id = draft.situations.keys
  stored : ∀ situation ∈ situations, after.situations[situation.id]? = some situation
  graded : ∀ situation ∈ situations, situation.severity = situation.computedSeverity
  told : ∀ situation ∈ situations, situation.diagnostic.isSome
  kept {id : String} : id ∉ draft.situations →
    after.situations[id]? = if id ∈ draft.absorbed then none else ledger.situations[id]?

theorem enters_new (time : Int) (ledger : Ledger) : Enters ledger (.new time) ledger [] where
  ids_eq := by simp [Draft.new]
  stored _ member := nomatch member
  graded _ member := nomatch member
  told _ member := nomatch member
  kept _ := by simp [Draft.new]

theorem enters_commit (housed : ledger.Housed) (lodged : draft.Lodged ledger)
    (wellFormed : graph.WellFormed) (cache : DistanceCache W) :
    Enters ledger draft ((ledger.commit draft graph).run cache).1.1
      ((ledger.commit draft graph).run cache).1.2 := by
  have finished := finish_all graph draft.situations.values cache
  have ids := finished.map_id_eq_keys fun _ _ => lodged.id_eq
  rw [commit_eq housed lodged]
  refine ⟨ids, fun situation member => ?_, fun situation member => ?_,
    told_of_finished wellFormed _ cache,
    getElem?_stored_of_not_mem finished fun _ _ => lodged.id_eq⟩
  · refine getElem?_foldl_store_of_mem (ledger.prepared draft) ?_ member
    rw [ids]
    exact ExtTreeMap.nodup_keys
  · obtain ⟨drafted, _, text, rfl⟩ := finished.exists_draft situation member
    rfl

/-- A situation that is gone after a commit has been absorbed. -/
theorem Enters.absorbed_of_gone {after : Ledger} {situations : List Situation}
    (enters : Enters ledger draft after situations) {id : String}
    (present : id ∈ ledger.situations) (gone : id ∉ after.situations) : id ∈ draft.absorbed := by
  have untouched : id ∉ draft.situations := by
    intro underway
    rw [← ExtTreeMap.mem_keys, ← enters.ids_eq] at underway
    obtain ⟨situation, member, rfl⟩ := List.mem_map.mp underway
    exact gone (Collections.mem_of_getElem? (enters.stored situation member))
  by_contra live
  have kept := enters.kept untouched
  rw [if_neg live, ExtTreeMap.getElem?_eq_none gone] at kept
  obtain ⟨situation, found⟩ := Collections.exists_getElem? present
  rw [found] at kept
  contradiction

end Ledger

/-- What is delivered waits behind what has been delivered before. -/
theorem Outlets.back?_deliver {outlets : Outlets} {outlet : Outlet}
    (receiver : outlets.all.back? = some outlet) (isOpen : outlet.isOpen)
    (situations : List Situation) : (outlets.deliver situations).all.back? =
      some { outlet with queue := outlet.queue ++ situations } := by
  rw [Array.back?_eq_getElem?] at receiver ⊢
  rw [deliver, Array.size_modify, Array.getElem?_modify, if_pos rfl, receiver, Option.map_some,
    if_pos isOpen]

namespace Engine

variable {parameters : Parameters W} {engine : Engine W} {now : Int}

/-- The situations that a tick hands out. -/
def handedOut (engine : Engine W) (now : Int) : List Situation :=
  ((engine.state.tick engine.parameters engine.ids now).1.toOption.map
    TickOutcome.emitted).getD []

theorem handedOut_of_ok {outcome : TickOutcome}
    (answer : (engine.state.tick engine.parameters engine.ids now).1 = .ok outcome) :
    engine.handedOut now = outcome.emitted := by
  rw [handedOut, answer]
  rfl

/-- What a tick hands out goes to the outlet registered last. -/
theorem back?_tick {outlet : Outlet} (receiver : engine.outlets.all.back? = some outlet)
    (isOpen : outlet.isOpen) : (engine.tick now).1.outlets.all.back? =
      some { outlet with queue := outlet.queue ++ engine.handedOut now } := by
  rw [tick, handedOut]
  split <;> rename_i ticked <;> rw [ticked]
  · have nothing : { outlet with queue := outlet.queue ++ [] } = outlet := by
      rw [List.append_nil]
    exact receiver.trans (congrArg some nothing.symm)
  · exact Outlets.back?_deliver receiver isOpen _

/-- A tick hands out what its draft enters, and lists it as created or updated. -/
theorem hands_out (default : engine.parameters.rules = Rule.defaultOrder)
    (sturdy : engine.state.Sturdy) (now : Int) :
    Ledger.Enters engine.state.ledger (engine.tickDraft now) (engine.tick now).1.state.ledger
        (engine.handedOut now) ∧
      ∀ summary, (engine.tick now).2 = .ok summary → (summary.created, summary.updated) =
        ((engine.handedOut now).map Situation.id).partition
          (engine.tickDraft now).newIds.contains := by
  rw [(tick_eq engine now).2.1]
  cases found : engine.state.tickFacts? engine.parameters now with
  | none =>
    obtain ⟨same, _, rests⟩ := EngineState.tick_of_none engine.ids found
    have nothing : engine.handedOut now = [] := by
      cases answer : (engine.state.tick engine.parameters engine.ids now).1 with
      | error cause =>
        rw [handedOut, answer]
        rfl
      | ok outcome => exact (handedOut_of_ok answer).trans (rests outcome answer).2.1
    rw [nothing, tickDraft_of_none found, same]
    refine ⟨Ledger.enters_new now _, fun summary ticked => ?_⟩
    obtain ⟨outcome, answer, rfl⟩ := exists_outcome ticked
    obtain ⟨_, _, created, updated⟩ := rests outcome answer
    rw [created, updated]
    rfl
  | some facts =>
    have correlates := EngineState.tick_of_some engine.ids found
    obtain ⟨outcome, answer, _⟩ := correlates.answered
    obtain ⟨⟨cache, entered⟩, listed⟩ := correlates.emits outcome answer
    rw [handedOut_of_ok answer]
    refine ⟨?_, fun summary ticked => ?_⟩
    · have wellFormed :
          (engine.state.tick engine.parameters engine.ids now).2.1.graph.WellFormed :=
        (sturdy.step (.tick engine.ids now)).wellFormed
      have enters := Ledger.enters_commit sturdy.housed (lodged_tickDraft default sturdy found)
        wellFormed cache
      rw [tickDraft, entered] at enters
      exact enters
    · obtain ⟨other, again, rfl⟩ := exists_outcome ticked
      rw [Except.ok.inj (again.symm.trans answer)]
      exact listed

/-- The drafts of situations that the ledger does not have are those that are new. -/
theorem mem_newIds_iff (default : engine.parameters.rules = Rule.defaultOrder)
    (sturdy : engine.state.Sturdy) (fresh : engine.DrawsFresh now) {id : String}
    (underway : id ∈ (engine.tickDraft now).situations) :
    id ∈ (engine.tickDraft now).newIds ↔ id ∉ engine.state.ledger.situations := by
  cases found : engine.state.tickFacts? engine.parameters now with
  | none =>
    rw [tickDraft_of_none found] at underway
    simp [Draft.new] at underway
  | some facts =>
    have correlates := EngineState.tick_of_some engine.ids found
    have labelled : (engine.tickDraft now).IsLabelled engine.state.ledger := by
      rw [tickDraft_of_some default found, ← correlates.ledger_eq]
      exact Policy.finalDraft_labelled (correlates.ledger_eq ▸ sturdy.housed)
        (drawsFresh_facts default found fresh)
    exact labelled.mem_newIds_iff (lodged_tickDraft default sturdy found) underway

/-- A tick lists what it hands out as created if the ledger did not have it, and as updated
otherwise. -/
theorem lists_handed_out (default : engine.parameters.rules = Rule.defaultOrder)
    (sturdy : engine.state.Sturdy) (fresh : engine.DrawsFresh now) {summary : TickSummary}
    (ticked : (engine.tick now).2 = .ok summary) :
    let ids := (engine.handedOut now).map Situation.id
    summary.created = ids.filter (· ∉ engine.state.ledger.situations) ∧
      summary.updated = ids.filter (· ∈ engine.state.ledger.situations) := by
  intro ids
  obtain ⟨enters, lists⟩ := hands_out default sturdy now
  have parts := lists summary ticked
  rw [List.partition_eq_filter_filter] at parts
  obtain ⟨created, updated⟩ := Prod.mk.inj parts
  have new {id : String} (member : id ∈ ids) :
      id ∈ (engine.tickDraft now).newIds ↔ id ∉ engine.state.ledger.situations := by
    refine mem_newIds_iff default sturdy fresh (ExtTreeMap.mem_keys.mp ?_)
    rw [← enters.ids_eq]
    exact member
  rw [created, updated]
  constructor
  · refine List.filter_congr fun id member => ?_
    rw [Bool.eq_iff_iff, List.contains_iff_mem, decide_eq_true_iff, new member]
  · refine List.filter_congr fun id member => ?_
    rw [Bool.eq_iff_iff, decide_eq_true_iff, Function.comp_apply, Bool.not_eq_true',
      ← Bool.not_eq_true, List.contains_iff_mem, new member, not_not]

/-- What a tick changes is what it hands out, in order of the ids. It is listed as created if the
ledger did not have it, and as updated otherwise; and it is handed out as it is stored, with the
severity of its alarms and with a text. A situation that is neither handed out nor absorbed stays as
it was, and a situation that is gone has been absorbed. -/
theorem changes_handed_out {parameters : Parameters W}
    (default : parameters.rules = Rule.defaultOrder) (tickResolution : Int)
    (instanceName : String) (ids : IdSource) (calls : List (Call W)) {now : Int}
    (fresh : ((startWith parameters tickResolution instanceName ids).performAll calls).DrawsFresh
      now) :
    let engine := (startWith parameters tickResolution instanceName ids).performAll calls
    let before := engine.state.ledger
    let after := (engine.tick now).1.state.ledger
    let delivered := engine.handedOut now
    (∀ outlet, engine.outlets.all.back? = some outlet → outlet.isOpen →
      (engine.tick now).1.outlets.all.back? =
        some { outlet with queue := outlet.queue ++ delivered }) ∧
    (delivered.map Situation.id).Pairwise (· < ·) ∧
    (∀ summary, (engine.tick now).2 = .ok summary →
      summary.created = (delivered.map Situation.id).filter (· ∉ before.situations) ∧
      summary.updated = (delivered.map Situation.id).filter (· ∈ before.situations)) ∧
    (∀ situation ∈ delivered, after.situations[situation.id]? = some situation ∧
      situation.severity = situation.computedSeverity ∧ situation.diagnostic.isSome) ∧
    ∀ id : String,
      (id ∉ delivered.map Situation.id → id ∉ (engine.tickDraft now).absorbed →
        after.situations[id]? = before.situations[id]?) ∧
      (id ∈ before.situations → id ∉ after.situations → id ∈ (engine.tickDraft now).absorbed) := by
  intro engine before after delivered
  have sturdy : engine.state.Sturdy :=
    sturdy_performAll parameters tickResolution instanceName ids calls
  have same : engine.parameters = parameters :=
    parameters_performAll parameters tickResolution instanceName ids calls
  rw [← same] at default
  obtain ⟨enters, _⟩ := hands_out default sturdy now
  refine ⟨fun outlet receiver isOpen => back?_tick receiver isOpen, ?_,
    fun summary ticked => lists_handed_out default sturdy fresh ticked,
    fun situation member => ⟨enters.stored situation member, enters.graded situation member,
      enters.told situation member⟩,
    fun id => ⟨fun quiet live => ?_, enters.absorbed_of_gone⟩⟩
  · rw [enters.ids_eq]
    refine ExtTreeMap.ordered_keys.imp fun {first second} (less : compare first second = .lt) => ?_
    exact compareOfLessAndEq_eq_lt.mp less
  · have untouched : id ∉ (engine.tickDraft now).situations := by
      rw [← ExtTreeMap.mem_keys, ← enters.ids_eq]
      exact quiet
    rw [enters.kept untouched, if_neg live]

/-- A run in which two situations wait to be merged, and an alarm that came much later waits for a
situation of its own. -/
def awaitingCalls : List (Call Nat) :=
  [.init
    { alarms := ["a", "b", "c"].map nodeAlarm ++ [{ nodeAlarm "d" with time := 1000000 }]
      situations := [nodeSituation "s" 0 ["a"], nodeSituation "t" 1 ["b"]] },
    .registerOutlet]

/-- The engine after these calls. -/
def awaitingEngine : Engine Nat :=
  (startWith .whole 1000 "node" .counting).performAll awaitingCalls

theorem changes_handed_out_awaiting :
    awaitingEngine.DrawsFresh 0 ∧
      ∃ delivered summary,
        (awaitingEngine.tick 0).1.outlets.all.back? = some { queue := delivered } ∧
        (awaitingEngine.tick 0).2 = .ok summary ∧
        summary.created = ["00000000-0000-4000-8000-000000000001"] ∧ summary.updated = ["s"] ∧
        "t" ∈ (awaitingEngine.tickDraft 0).absorbed := by
  have fresh : awaitingEngine.DrawsFresh 0 := by
    intro n lower upper
    have drawn : (awaitingEngine.tick 0).1.ids.next = 2 := by decide +kernel
    have first : 1 ≤ n := lower
    obtain rfl : n = 1 := by omega
    decide +kernel
  obtain ⟨queued, _, split, _, rest⟩ :=
    changes_handed_out rfl 1000 "node" .counting awaitingCalls fresh
  have names : (awaitingEngine.handedOut 0).map Situation.id =
      ["00000000-0000-4000-8000-000000000001", "s"] := by decide +kernel
  obtain ⟨summary, ticked, _⟩ := exists_summary
    (show (awaitingEngine.tick 0).2.toOption.map TickSummary.skipped = some false by decide +kernel)
  obtain ⟨created, updated⟩ := split summary ticked
  rw [← awaitingEngine, names] at created updated
  refine ⟨fresh, _, summary, queued {} rfl rfl, ticked, ?_, ?_, ?_⟩
  · rw [created]
    decide +kernel
  · rw [updated]
    decide +kernel
  · exact (rest "t").2 (by decide +kernel) (by decide +kernel)

end Engine
end FaultCorrelation
