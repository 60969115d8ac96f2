import FaultCorrelation.Proofs.Engine.Reliability
import FaultCorrelation.Proofs.Engine.Severity
import FaultCorrelation.Proofs.Policy.Stillness

/-! # Correlations that change nothing

With the default policy a correlation that is given neither collected alarms nor feedback changes
nothing just in case every alarm of its clusters has a situation, and no cluster by itself calls for
another severity of some situation. Otherwise it commits a situation at least.
-/

namespace FaultCorrelation

open Std

/-- The alarm of an id in a cluster. -/
def Cluster.instance? (cluster : Cluster) (id : String) : Option Alarm :=
  (cluster.find? fun located => located.alarm.id == id).map LocatedAlarm.alarm

namespace Ledger

/-- Whether all alarms of a cluster have a situation. -/
def Houses (ledger : Ledger) (cluster : Cluster) : Prop :=
  ∀ located ∈ cluster, located.alarm.id ∈ ledger.homes

/-- Whether every situation keeps its severity if the alarms of a cluster are put in place of the
copies that it shows of them. -/
def Steady (ledger : Ledger) (cluster : Cluster) : Prop :=
  ∀ (id : String) (situation : Situation), ledger.situations[id]? = some situation →
    (situation.alarms.overlaid cluster.instance?).severity = situation.severity

section Commit

variable {W : Type} [Weight W] (ledger : Ledger) (graph : Topology W) (cache : DistanceCache W)

/-- A commit answers with a situation at least if one is drafted. -/
theorem commit_ne_nil {draft : Draft} (stirred : draft.IsStirred) :
    ((ledger.commit draft graph).run cache).1.2 ≠ [] := by
  obtain ⟨id, member⟩ := stirred
  obtain ⟨drafted, found⟩ := Collections.exists_getElem? member
  have finished := finish_all graph draft.situations.values cache
  obtain ⟨text, listed⟩ :=
    finished.exists_situation drafted (Collections.mem_values.mpr ⟨id, found⟩)
  exact List.ne_nil_of_mem listed

variable {ledger}

/-- Ledgers after the commit of a draft in which no situation is drafted are the same. -/
theorem Committed.unique {draft : Draft} {first second : Ledger} (none : draft.situations = ∅)
    (one : Committed ledger draft first) (other : Committed ledger draft second) :
    first = second := by
  have undrafted (id : String) : id ∉ draft.situations := by simp [none]
  have situations : first.situations = second.situations :=
    ExtTreeMap.ext_getElem? fun id =>
      (one.kept (undrafted id)).trans (other.kept (undrafted id)).symm
  have homes : first.homes = second.homes :=
    ExtTreeMap.ext_getElem? fun alarm => (one.home_eq alarm).trans (other.home_eq alarm).symm
  have exclusions : first.exclusions = second.exclusions := by
    refine ExtTreeSet.ext_mem fun ⟨id, alarm⟩ => ?_
    rw [one.mem_exclusions, other.mem_exclusions, situations]
  obtain ⟨_, _, _⟩ := first
  obtain ⟨_, _, _⟩ := second
  exact Ledger.mk.injEq .. ▸ ⟨situations, homes, exclusions⟩

/-- The commit of a new draft changes nothing. -/
theorem commit_new (grounded : ledger.Coherent) (time : Int) :
    ((ledger.commit (.new time) graph).run cache).1 = (ledger, []) :=
  have committed := commit_committed grounded (Draft.coherent_new grounded.orderly time) graph cache
  Prod.ext (committed.unique rfl (committed_new grounded time)) rfl

end Commit
end Ledger

namespace SituationDraft

theorem putAll_alarms (drafted : SituationDraft) (alarms : List Alarm) :
    (drafted.putAll alarms).alarms =
      alarms.foldl (fun map alarm => map.insert alarm.id alarm) drafted.alarms := by
  induction alarms generalizing drafted with
  | nil => rfl
  | cons first rest ih => exact ih (drafted.put first)

/-- Putting the instances that are out of date in place is putting all instances in place. -/
theorem putAll_eq_overlaid {drafted : SituationDraft} {instance? : String → Option Alarm}
    {stale : List Alarm}
    (brought : ∀ alarm ∈ stale, instance? alarm.id = some alarm ∧ alarm.id ∈ drafted.alarms)
    (complete : ∀ (id : String) (copy alarm : Alarm), drafted.alarms[id]? = some copy →
      instance? id = some alarm → copy ≠ alarm → ∃ other ∈ stale, other.id = id) :
    (drafted.putAll stale).alarms = drafted.alarms.overlaid instance? := by
  refine ExtTreeMap.ext_getElem? fun id => ?_
  rw [AlarmMap.overlaid, ExtTreeMap.getElem?_map]
  by_cases listed : ∃ alarm ∈ stale, alarm.id = id
  · obtain ⟨alarm, listed, rfl⟩ := listed
    obtain ⟨copy, shown⟩ := Collections.exists_getElem? (brought alarm listed).2
    have renewed : ((drafted.putAll stale).alarms[alarm.id]?).isSome :=
      isSome_getElem?_putAll.mpr (.inr ⟨alarm, listed, rfl⟩)
    obtain ⟨present, found⟩ := Option.isSome_iff_exists.mp renewed
    have current : instance? alarm.id = some present := isCurrent_foldl listed
      (fun under => under.isCurrent_put (brought alarm listed).1)
      (fun other member under current => current.put (brought other member).1) drafted present found
    rw [found, shown, Option.map_some, current, Option.getD_some]
  · rw [getElem?_putAll_of_not_mem fun alarm member same => listed ⟨alarm, member, same⟩]
    cases shown : drafted.alarms[id]? with
    | none => rfl
    | some copy =>
      rw [Option.map_some]
      cases held : instance? id with
      | none => rfl
      | some alarm =>
        by_contra different
        refine listed (complete id copy alarm shown held fun same => different ?_)
        rw [same, Option.getD_some]

end SituationDraft

namespace Rule

variable {facts : Facts} {cluster : Cluster} {now : Int}

/-- Bringing outdated copies up to date is putting the alarms of the cluster in place. -/
theorem renewed_eq (sound : facts.Sound)
    (brings : ∀ located ∈ cluster, cluster.instance? located.alarm.id = some located.alarm)
    {situation : Situation}
    (known : facts.ledger.situations[situation.id]? = some situation) :
    renewed facts now cluster situation = situation.alarms.overlaid cluster.instance? := by
  have live : situation.id ∉ (Draft.new now).absorbed := by simp [Draft.new]
  have copies (alarm : String) : facts.shownCopy? (.new now) situation.id alarm =
      situation.alarms[alarm]? := by
    rw [shownCopy?_eq live, Draft.copy?_new, Ledger.copy?, known, Option.bind_some]
  have opened : (SituationDraft.ofSituation situation).alarms = situation.alarms := rfl
  rw [renewed, ← opened, ← SituationDraft.putAll_alarms]
  refine SituationDraft.putAll_eq_overlaid (fun alarm listed => ?_) fun id copy alarm shown held
    outdated => ?_
  · obtain ⟨mapped, copy, shown, _⟩ := mem_staleAt.mp listed
    obtain ⟨⟨located, member, rfl⟩, _⟩ := mem_mappedOf.mp mapped
    rw [copies] at shown
    exact ⟨brings located member, Collections.mem_of_getElem? shown⟩
  · obtain ⟨located, found, rfl⟩ := Option.map_eq_some_iff.mp held
    have named := List.find?_some found
    obtain rfl := beq_iff_eq.mp named
    have home : facts.ledger.homes[located.alarm.id]? = some situation.id :=
      sound.coherent.home_of_shown ⟨situation, known, Collections.mem_of_getElem? shown⟩
    refine ⟨located.alarm, mem_staleAt.mpr ⟨mem_mappedOf.mpr ⟨⟨located,
      List.mem_of_find?_eq_some found, rfl⟩, ?_⟩, copy, ?_, outdated⟩, rfl⟩
    · rw [Draft.homeOf?_new, home]
    · rw [copies]
      exact shown

/-- A cluster asks for nothing just in case its alarms have situations and call for no other
severity of any of them. -/
theorem isStill_iff (sound : facts.Sound)
    (brings : ∀ located ∈ cluster, cluster.instance? located.alarm.id = some located.alarm) :
    IsStill facts now cluster ↔ facts.ledger.Houses cluster ∧ facts.ledger.Steady cluster := by
  have steady : IsSteady facts now cluster ↔ facts.ledger.Steady cluster := by
    refine forall_congr' fun id => forall_congr' fun situation => forall_congr' fun known => ?_
    rw [renewed_eq sound brings ((sound.coherent.id_eq known).symm ▸ known)]
  have complete : unmappedOf facts (.new now) cluster = [] ↔ facts.ledger.Houses cluster := by
    rw [unmappedOf_eq_nil_iff]
    refine forall_congr' fun located => forall_congr' fun _ => ?_
    rw [Draft.IsHoused, Draft.homeOf?_new, ExtTreeMap.mem_iff_isSome_getElem?]
  exact ⟨fun still => ⟨complete.mp still.complete, steady.mp still.steady⟩,
    fun both => ⟨complete.mpr both.1, steady.mpr both.2⟩⟩

end Rule

namespace EngineState

variable {W : Type} [Weight W] {parameters : Parameters W} {state : EngineState W}

/-- Whether a full correlation, given neither collected alarms nor feedback, would commit no
situation, ask for no membership and leave the ledger as it is. -/
def RestsAt (parameters : Parameters W) (state : EngineState W) (ids : IdSource) (now : Int) :
    Prop :=
  ∃ clusters, (state.cluster parameters).1 = .ok clusters ∧
    let clustered := (state.cluster parameters).2
    let draft := (clustered.deliberate parameters ids now clusters [] []).1.draft
    (clustered.commit draft).2 = [] ∧ draft.homes = ∅ ∧
      (clustered.commit draft).1.ledger = state.ledger

omit [Weight W] in
/-- Of alarms that are held each is the one of its id in its cluster. -/
theorem Indexed.cluster_instance?_eq {vertices : ExtTreeMap String VertexId}
    (indexed : Indexed state.graph vertices) {cluster : Cluster}
    (active : ∀ located ∈ cluster, located ∈ state.graph.activeAlarms) :
    ∀ located ∈ cluster, cluster.instance? located.alarm.id = some located.alarm := by
  intro located member
  rw [Cluster.instance?]
  cases found : cluster.find? fun other => other.alarm.id == located.alarm.id with
  | none => simpa using List.find?_eq_none.mp found located member
  | some other =>
    have named := List.find?_some found
    rw [beq_iff_eq] at named
    rw [Option.map_some, indexed.alarm_eq (active other (List.mem_of_find?_eq_some found))
      (active located member) named]

/-- When a correlation changes nothing. -/
theorem Sturdy.rests_iff (sturdy : state.Sturdy) (coherent : state.ledger.Coherent)
    (default : parameters.rules = Rule.defaultOrder) (ids : IdSource) (now : Int) :
    ∃ clusters, (state.cluster parameters).1 = .ok clusters ∧
      (state.RestsAt parameters ids now ↔
        ∀ cluster ∈ clusters, state.ledger.Houses cluster ∧ state.ledger.Steady cluster) := by
  obtain ⟨clusters, clustered, apart⟩ := sturdy.cluster parameters
  refine ⟨clusters, clustered, ?_⟩
  let facts := state.facts clusters [] []
  have sound : facts.Sound := ⟨coherent, Facts.indexActive_keyed _⟩
  have brings : ∀ cluster ∈ clusters, ∀ located ∈ cluster,
      cluster.instance? located.alarm.id = some located.alarm :=
    fun cluster listed => sturdy.indexed.cluster_instance?_eq fun located member =>
      AlarmClusterer.mem_of_canReturn (DistanceM.canReturn_of_run clustered) cluster listed located
        member
  have drafted :
      ((state.cluster parameters).2.deliberate parameters ids now clusters [] []).1.draft =
        Policy.finalDraft facts now ids := by
    rw [deliberate, default]
    rfl
  have still : Policy.finalDraft facts now ids = .new now ↔
      ∀ cluster ∈ clusters, state.ledger.Houses cluster ∧ state.ledger.Steady cluster := by
    rw [Policy.finalDraft_eq_new_iff sound rfl rfl apart now ids]
    exact forall_congr' fun cluster => forall_congr' fun listed =>
      Rule.isStill_iff sound (brings cluster listed)
  rw [← still]
  constructor
  · rintro ⟨_, same, nothing, _⟩
    obtain rfl := Except.ok.inj (clustered.symm.trans same)
    rw [drafted] at nothing
    rcases Policy.finalDraft_cases sound rfl rfl now ids with new | stirred
    · exact new.2
    · exact absurd nothing (state.ledger.commit_ne_nil state.graph _ stirred)
  · intro new
    refine ⟨clusters, clustered, ?_⟩
    dsimp only
    rw [drafted, new]
    have committed :=
      Ledger.commit_new state.graph (state.cluster parameters).2.distances coherent now
    exact ⟨congrArg Prod.snd committed, rfl, congrArg Prod.fst committed⟩

end EngineState
end FaultCorrelation
