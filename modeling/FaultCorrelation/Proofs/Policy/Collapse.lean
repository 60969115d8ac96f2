import FaultCorrelation.Proofs.Engine.Run
import FaultCorrelation.Proofs.Policy.Housing

/-! # What merging comes to

A cluster that brings a new alarm links the situations it refers to. Clusters are merged one by one,
and the survivor of one cluster may be absorbed for the sake of another, but in the end the order
does not count: situations that links connect have all gone to the oldest of them, which shows what
they showed and the new alarms of the clusters that refer to them.

`Collapsing` says so of the clusters merged so far. It does not look for the classes of connected
situations: it says that linked situations have gone to one survivor, that links lead from each
situation to its survivor, and that the survivor is no younger.
-/

namespace FaultCorrelation

open Std

variable {ledger : Ledger} {clusters done : List Cluster} {cluster : Cluster}

namespace Rule

theorem older_refl (situation : Situation) : older situation situation := by
  rw [older_eq]
  exact ReflCmp.isLE_rfl

theorem older_antisymm {first second : Situation} (one : older first second)
    (other : older second first) : first.id = second.id := by
  rw [older_eq] at *
  exact (compareLex_eq_eq.mp (OrientedCmp.isLE_antisymm one other)).2 |> LawfulEqCmp.eq_of_compare

theorem older_trans {first second third : Situation} (one : older first second)
    (other : older second third) : older first third := by
  rw [older_eq] at *
  exact TransCmp.isLE_trans one other

end Rule

namespace Cluster

/-- Whether a cluster has an alarm that belongs to a situation. -/
def RefersTo (ledger : Ledger) (cluster : Cluster) (id : String) : Prop :=
  ∃ located ∈ cluster, ledger.homes[located.alarm.id]? = some id

/-- Whether a cluster has an alarm that belongs nowhere. -/
def BringsNew (ledger : Ledger) (cluster : Cluster) : Prop :=
  ∃ located ∈ cluster, ledger.homes[located.alarm.id]? = none

theorem RefersTo.known {id : String} (refers : cluster.RefersTo ledger id)
    (orderly : ledger.Orderly) : id ∈ ledger.situations := by
  obtain ⟨_, _, home⟩ := refers
  exact orderly.home_known home

end Cluster

namespace Ledger

/-- Whether a cluster that brings a new alarm refers to two situations. -/
def Linked (ledger : Ledger) (clusters : List Cluster) (first second : String) : Prop :=
  ∃ cluster ∈ clusters, cluster.BringsNew ledger ∧
    cluster.RefersTo ledger first ∧ cluster.RefersTo ledger second

/-- Whether links lead from one situation to another. -/
def Connected (ledger : Ledger) (clusters : List Cluster) : String → String → Prop :=
  Relation.ReflTransGen (ledger.Linked clusters)

/-- Whether a situation is the oldest of those connected with another; of several the first by
id. -/
def IsOldest (ledger : Ledger) (clusters : List Cluster) (id oldest : String) : Prop :=
  ledger.Connected clusters id oldest ∧
    ∃ situation, ledger.situations[oldest]? = some situation ∧
      ∀ other another, ledger.Connected clusters id other →
        ledger.situations[other]? = some another → Rule.older situation another

/-- Whether a cluster refers to a situation connected with another. -/
def Reaches (ledger : Ledger) (clusters : List Cluster) (cluster : Cluster) (id : String) : Prop :=
  ∃ other, ledger.Connected clusters id other ∧ cluster.RefersTo ledger other

/-- Whether the survivor of a situation comes to show an alarm: one that a connected situation
shows, or a new one of a cluster that refers to a connected situation. -/
def Gathers (ledger : Ledger) (clusters : List Cluster) (id alarm : String) : Prop :=
  (∃ other, ledger.Connected clusters id other ∧ ledger.Shows other alarm) ∨
    ∃ cluster ∈ clusters, ledger.Reaches clusters cluster id ∧ cluster.Has alarm ∧
      ledger.homes[alarm]? = none

instance : Std.Symm (ledger.Linked clusters) where
  symm _ _ linked := by
    obtain ⟨cluster, listed, news, one, other⟩ := linked
    exact ⟨cluster, listed, news, other, one⟩

theorem Connected.symm {first second : String}
    (connected : ledger.Connected clusters first second) : ledger.Connected clusters second first :=
  Relation.ReflTransGen.stdSymm.symm _ _ connected

theorem Connected.mono {others : List Cluster} (more : clusters ⊆ others) {first second : String}
    (connected : ledger.Connected clusters first second) : ledger.Connected others first second :=
  Relation.ReflTransGen.mono
    (fun _ _ ⟨cluster, listed, linked⟩ => ⟨cluster, more listed, linked⟩) _ _ connected

/-- A situation is linked with no other unless a cluster with a new alarm refers to it. -/
theorem Connected.eq_of_unreached {id other : String}
    (unreached : ∀ cluster ∈ clusters, cluster.BringsNew ledger →
      ¬ ledger.Reaches clusters cluster id)
    (connected : ledger.Connected clusters id other) : other = id := by
  rcases Relation.ReflTransGen.cases_head connected with same | ⟨_, linked, _⟩
  · exact same.symm
  · obtain ⟨cluster, listed, news, refers, _⟩ := linked
    exact absurd ⟨id, .refl, refers⟩ (unreached cluster listed news)

theorem gathers_of_unreached {id alarm : String}
    (unreached : ∀ cluster ∈ clusters, cluster.BringsNew ledger →
      ¬ ledger.Reaches clusters cluster id) :
    ledger.Gathers clusters id alarm ↔ ledger.Shows id alarm := by
  constructor
  · rintro (⟨other, connected, shown⟩ | ⟨cluster, listed, reaches, inside, homeless⟩)
    · exact connected.eq_of_unreached unreached ▸ shown
    · obtain ⟨located, member, rfl⟩ := inside
      exact absurd reaches (unreached cluster listed ⟨located, member, homeless⟩)
  · exact fun shown => .inl ⟨id, .refl, shown⟩

/-- There is one oldest situation only. -/
theorem IsOldest.eq (housed : ledger.Housed) {id first second : String}
    (one : ledger.IsOldest clusters id first) (other : ledger.IsOldest clusters id second) :
    first = second := by
  obtain ⟨here, situation, found, least⟩ := one
  obtain ⟨there, another, known, last⟩ := other
  rw [← housed.id_eq found, ← housed.id_eq known]
  exact Rule.older_antisymm (least second another there known) (last first situation here found)

end Ledger

/-- What holds of a draft once some clusters have been merged into it. -/
structure Draft.Collapsing (ledger : Ledger) (now : Int) (done : List Cluster) (draft : Draft) :
    Prop where
  coherent : draft.Coherent ledger
  settled : draft.IsSettled ledger
  continues : Draft.Continues ledger (.new now) draft
  agrees {cluster : Cluster} {first second : String} : cluster ∈ done → cluster.BringsNew ledger →
    cluster.RefersTo ledger first → cluster.RefersTo ledger second →
      draft.resolve first = draft.resolve second
  connected {id : String} : id ∈ ledger.situations →
    ledger.Connected done id (draft.resolve id)
  older {id : String} {situation survivor : Situation} :
    ledger.situations[id]? = some situation →
      ledger.situations[draft.resolve id]? = some survivor → Rule.older survivor situation
  joined {alarm home : String} : ledger.homes[alarm]? = none →
    (draft.homeOf? ledger alarm = some home ↔ ∃ cluster ∈ done, cluster.Has alarm ∧
      ∃ id, cluster.RefersTo ledger id ∧ draft.resolve id = home)
  underway {cluster : Cluster} {id : String} : cluster ∈ done → cluster.BringsNew ledger →
    cluster.RefersTo ledger id → draft.resolve id ∈ draft.situations

namespace Draft.Collapsing

variable {facts : Facts} {scope : DraftScope} {now : Int} {draft next : Draft}

theorem new (orderly : ledger.Orderly) (now : Int) : Collapsing ledger now [] (.new now) where
  coherent := Draft.coherent_new orderly now
  settled := Draft.isSettled_new now
  continues := Draft.continues_self rfl
  agrees absurd := nomatch absurd
  connected _ := by
    rw [Draft.resolve_new]
    exact .refl
  older known survives := by
    rw [Draft.resolve_new, known] at survives
    rw [← Option.some.inj survives, Rule.older_eq]
    exact ReflCmp.isLE_rfl
  joined homeless := by simp [homeless]
  underway absurd := nomatch absurd

variable (collapsing : Collapsing ledger now done draft)
include collapsing

theorem resolve_known {id : String} (known : id ∈ ledger.situations) :
    draft.resolve id ∈ ledger.situations := by
  rw [Draft.resolve_eq collapsing.coherent.flat]
  cases redirected : draft.absorbed[id]? with
  | none => exact known
  | some target =>
    exact (Draft.hasSituation_iff.mp (collapsing.coherent.absorbed_known redirected).2).2.elim
      (collapsing.settled target) fun there => there

theorem homeOf?_of_home {alarm home : String} (belongs : ledger.homes[alarm]? = some home) :
    draft.homeOf? ledger alarm = some (draft.resolve home) :=
  collapsing.continues.home_eq ((Draft.homeOf?_new now alarm).trans belongs)

/-- Connected situations have gone to one survivor. -/
theorem resolve_eq_of_connected {first second : String}
    (connected : ledger.Connected done first second) :
    draft.resolve first = draft.resolve second := by
  induction connected with
  | refl => rfl
  | tail _ linked ih =>
    obtain ⟨cluster, listed, news, one, other⟩ := linked
    exact ih.trans (collapsing.agrees listed news one other)

theorem connected_iff {first second : String} (here : first ∈ ledger.situations)
    (there : second ∈ ledger.situations) :
    ledger.Connected done first second ↔ draft.resolve first = draft.resolve second := by
  refine ⟨collapsing.resolve_eq_of_connected, fun same => ?_⟩
  exact (same ▸ collapsing.connected here).trans (collapsing.connected there).symm

section Step

variable (apart : ∀ other ∈ done, Cluster.IsApart cluster other)
include apart

/-- The new alarms of the next cluster have not joined yet. -/
theorem homeless {alarm : String} (inside : cluster.Has alarm)
    (homeless : ledger.homes[alarm]? = none) : draft.homeOf? ledger alarm = none := by
  rw [Option.eq_none_iff_forall_not_mem]
  intro home belongs
  obtain ⟨other, listed, within, _⟩ := (collapsing.joined homeless).mp belongs
  exact (apart other listed).not_has inside within

/-- The next cluster touches the survivors of the situations it refers to. -/
theorem touches_iff (id : String) :
    (∃ located ∈ cluster, draft.homeOf? ledger located.alarm.id = some id) ↔
      ∃ previous, cluster.RefersTo ledger previous ∧ draft.resolve previous = id := by
  constructor
  · rintro ⟨located, member, belongs⟩
    cases home : ledger.homes[located.alarm.id]? with
    | none =>
      rw [collapsing.homeless apart ⟨located, member, rfl⟩ home] at belongs
      contradiction
    | some previous =>
      rw [collapsing.homeOf?_of_home home] at belongs
      exact ⟨previous, ⟨located, member, home⟩, Option.some.inj belongs⟩
  · rintro ⟨previous, ⟨located, member, home⟩, rfl⟩
    exact ⟨located, member, collapsing.homeOf?_of_home home⟩

theorem homeOf?_eq_none_iff {alarm : String} (inside : cluster.Has alarm) :
    draft.homeOf? ledger alarm = none ↔ ledger.homes[alarm]? = none := by
  refine ⟨fun none => ?_, collapsing.homeless apart inside⟩
  rw [← Draft.homeOf?_new now]
  exact collapsing.continues.homeless none

end Step

/-- Changes that neither absorb a situation nor move an alarm, for a cluster that links nothing. -/
theorem frame (orderly : ledger.Orderly) (nothing : ∀ id, ¬ scope.Begins id)
    (steps : DraftSteps ledger scope draft next) (homes : next.homes = draft.homes)
    (absorbed : next.absorbed = draft.absorbed)
    (idle : cluster.BringsNew ledger → ∀ id, ¬ cluster.RefersTo ledger id) :
    Collapsing ledger now (cluster :: done) next := by
  have same : next.resolve = draft.resolve := funext (Draft.resolve_congr absorbed)
  have coherent := collapsing.coherent.steps orderly steps
  refine ⟨coherent, collapsing.settled.steps nothing steps,
    collapsing.continues.steps orderly (Draft.coherent_new orderly now) collapsing.coherent steps,
    fun listed news one other => ?_, fun known => ?_, fun known survives => ?_,
    fun {alarm home} homeless => ?_, fun {_ id} listed news refers => ?_⟩
  · rcases List.mem_cons.mp listed with rfl | listed
    · exact absurd one (idle news _)
    · rw [same]
      exact collapsing.agrees listed news one other
  · rw [same]
    exact (collapsing.connected known).mono (List.subset_cons_self ..)
  · rw [same] at survives
    exact collapsing.older known survives
  · rw [Draft.homeOf?_congr homes absorbed, collapsing.joined homeless, same]
    simp only [List.mem_cons, exists_eq_or_imp]
    refine (or_iff_right ?_).symm
    rintro ⟨⟨located, member, rfl⟩, id, refers, _⟩
    exact idle ⟨located, member, homeless⟩ id refers
  · rcases List.mem_cons.mp listed with rfl | listed
    · exact absurd refers (idle news _)
    · refine Draft.mem_situations_of_live steps ?_ (Draft.resolve_not_mem coherent.flat id)
      rw [same]
      exact collapsing.underway listed news refers

end Draft.Collapsing

/-- What folding does to the situations that a cluster refers to: what stood for one of them stands
for the survivor. -/
structure Draft.Folded (ledger : Ledger) (cluster : Cluster) (survivor : Situation)
    (draft next : Draft) : Prop where
  survives : ledger.situations[survivor.id]? = some survivor
  underway : survivor.id ∈ next.situations
  origin : ∃ id, cluster.RefersTo ledger id ∧ draft.resolve id = survivor.id
  sent {id : String} : cluster.RefersTo ledger id → next.resolve id = survivor.id
  cases (id : String) : next.resolve id = draft.resolve id ∨
    next.resolve id = survivor.id ∧
      ∃ previous, cluster.RefersTo ledger previous ∧ draft.resolve previous = draft.resolve id
  determined {id other : String} :
    draft.resolve id = draft.resolve other → next.resolve id = next.resolve other
  oldest {id : String} {situation : Situation} : cluster.RefersTo ledger id →
    ledger.situations[draft.resolve id]? = some situation → Rule.older survivor situation
  joins {alarm : String} : cluster.Has alarm → ledger.homes[alarm]? = none →
    next.homeOf? ledger alarm = some survivor.id
  follows {alarm : String} : ¬ cluster.Has alarm →
    next.homeOf? ledger alarm = (draft.homeOf? ledger alarm).map next.resolve

namespace Draft.Collapsing

variable {scope : DraftScope} {now : Int} {draft next : Draft} {survivor : Situation}

section Touched

variable {facts : Facts} {others : List Situation}
  (collapsing : Collapsing facts.ledger now done draft)
include collapsing

theorem folded (apart : ∀ other ∈ done, Cluster.IsApart cluster other)
    (touched : Rule.Touched facts draft cluster survivor others) :
    Folded facts.ledger cluster survivor draft
      (Rule.foldInto draft survivor others ((Rule.mappedOf facts draft cluster).map Prod.fst)
        (Rule.unmappedOf facts draft cluster)) := by
  obtain ⟨underway, resolved, homes⟩ := touched.fold_view collapsing.coherent.flat
    ((Rule.mappedOf facts draft cluster).map Prod.fst) (Rule.unmappedOf facts draft cluster)
  have fresh {alarm : String} : alarm ∈ (Rule.unmappedOf facts draft cluster).map Alarm.id ↔
      cluster.Has alarm ∧ facts.ledger.homes[alarm]? = none := by
    simp only [List.mem_map, Rule.mem_unmappedOf]
    constructor
    · rintro ⟨_, ⟨⟨located, member, rfl⟩, homeless⟩, rfl⟩
      have inside : cluster.Has located.alarm.id := ⟨located, member, rfl⟩
      exact ⟨inside, (collapsing.homeOf?_eq_none_iff apart inside).mp homeless⟩
    · rintro ⟨⟨located, member, rfl⟩, homeless⟩
      exact ⟨_, ⟨⟨located, member, rfl⟩,
        collapsing.homeless apart ⟨located, member, rfl⟩ homeless⟩, rfl⟩
  have touches (id : String) := (touched.mem_iff id).trans (collapsing.touches_iff apart id)
  have survives := touched.known survivor (List.mem_cons_self ..)
  refine ⟨survives, underway, (touches _).mp (List.mem_cons_self ..), fun {id} refers => ?_,
    fun id => ?_, fun same => ?_, fun {id situation} refers known => ?_,
    fun inside homeless => ?_, fun {alarm} outside => ?_⟩
  · rw [resolved, if_pos ((touches _).mpr ⟨id, refers, rfl⟩)]
  · rw [resolved]
    split
    · rename_i listed
      exact .inr ⟨rfl, (touches _).mp listed⟩
    · exact .inl rfl
  · rw [resolved, resolved, same]
  · obtain ⟨other, listed, named⟩ := List.mem_map.mp ((touches _).mpr ⟨id, refers, rfl⟩)
    rw [← named, touched.known other listed] at known
    rw [← Option.some.inj known]
    rcases List.mem_cons.mp listed with rfl | listed
    · exact Rule.older_refl other
    · exact touched.oldest other listed
  · rw [homes, if_pos (fresh.mpr ⟨inside, homeless⟩)]
  · rw [homes, if_neg fun listed => outside (fresh.mp listed).1]
    refine Option.map_congr fun home belongs => ?_
    obtain ⟨previous, _, rfl⟩ := Option.map_eq_some_iff.mp belongs
    rw [resolved, resolve_resolve collapsing.coherent.flat]

end Touched

section Folded

variable (collapsing : Collapsing ledger now done draft)
  (folded : Folded ledger cluster survivor draft next)
include collapsing folded

/-- Links lead from a situation to the survivor that it is sent to. -/
theorem connected_fold (orderly : ledger.Orderly) (news : cluster.BringsNew ledger) {id : String}
    (known : id ∈ ledger.situations) :
    ledger.Connected (cluster :: done) id (next.resolve id) := by
  have before {first : String} (here : first ∈ ledger.situations) :
      ledger.Connected (cluster :: done) first (draft.resolve first) :=
    (collapsing.connected here).mono (List.subset_cons_self ..)
  rcases folded.cases id with same | ⟨sent, previous, refers, same⟩
  · exact same ▸ before known
  -- The cluster links a situation that went along with this one and one the survivor stood for.
  obtain ⟨origin, others, stands⟩ := folded.origin
  have linked : ledger.Linked (cluster :: done) previous origin :=
    ⟨cluster, List.mem_cons_self .., news, refers, others⟩
  rw [sent, ← stands]
  exact (before known).trans (.trans (same ▸ before (refers.known orderly)).symm
    (.head linked (before (others.known orderly))))

theorem older_fold {id : String} {situation last : Situation}
    (known : ledger.situations[id]? = some situation)
    (found : ledger.situations[next.resolve id]? = some last) : Rule.older last situation := by
  rcases folded.cases id with same | ⟨sent, previous, refers, same⟩
  · exact collapsing.older known (same ▸ found)
  rw [sent, folded.survives] at found
  obtain ⟨between, there⟩ := Collections.exists_getElem?
    (collapsing.resolve_known (Collections.mem_of_getElem? known))
  rw [← Option.some.inj found]
  exact Rule.older_trans (folded.oldest refers (same ▸ there)) (collapsing.older known there)

/-- New alarms join the situations that their clusters refer to. -/
theorem joined_fold (apart : ∀ other ∈ done, Cluster.IsApart cluster other) {alarm home : String}
    (homeless : ledger.homes[alarm]? = none) :
    next.homeOf? ledger alarm = some home ↔ ∃ other ∈ cluster :: done, other.Has alarm ∧
      ∃ id, other.RefersTo ledger id ∧ next.resolve id = home := by
  simp only [List.mem_cons, exists_eq_or_imp]
  by_cases inside : cluster.Has alarm
  · rw [folded.joins inside homeless]
    constructor
    · rintro ⟨rfl⟩
      obtain ⟨origin, refers, _⟩ := folded.origin
      exact .inl ⟨inside, origin, refers, folded.sent refers⟩
    · rintro (⟨_, id, refers, rfl⟩ | ⟨other, listed, within, _⟩)
      · rw [folded.sent refers]
      · exact absurd within ((apart other listed).not_has inside)
  · have again (id : String) : next.resolve (draft.resolve id) = next.resolve id :=
      folded.determined (resolve_resolve collapsing.coherent.flat id)
    simp only [folded.follows inside, inside, false_and, false_or, Option.map_eq_some_iff,
      collapsing.joined homeless]
    constructor
    · rintro ⟨_, ⟨other, listed, within, id, refers, rfl⟩, rfl⟩
      exact ⟨other, listed, within, id, refers, (again id).symm⟩
    · rintro ⟨other, listed, within, id, refers, rfl⟩
      exact ⟨_, ⟨other, listed, within, id, refers, rfl⟩, again id⟩

theorem fold (orderly : ledger.Orderly) (nothing : ∀ id, ¬ scope.Begins id)
    (steps : DraftSteps ledger scope draft next)
    (apart : ∀ other ∈ done, Cluster.IsApart cluster other) (news : cluster.BringsNew ledger) :
    Collapsing ledger now (cluster :: done) next := by
  have coherent := collapsing.coherent.steps orderly steps
  refine ⟨coherent, collapsing.settled.steps nothing steps,
    collapsing.continues.steps orderly (Draft.coherent_new orderly now) collapsing.coherent steps,
    fun listed brings one other => ?_, collapsing.connected_fold folded orderly news,
    collapsing.older_fold folded, collapsing.joined_fold folded apart,
    fun {_ id} listed brings refers => ?_⟩
  · rcases List.mem_cons.mp listed with rfl | listed
    · exact (folded.sent one).trans (folded.sent other).symm
    · exact folded.determined (collapsing.agrees listed brings one other)
  · rcases List.mem_cons.mp listed with rfl | listed
    · exact folded.sent refers ▸ folded.underway
    · have live := Draft.resolve_not_mem coherent.flat id
      rcases folded.cases id with same | ⟨sent, _⟩
      · rw [same] at live ⊢
        exact Draft.mem_situations_of_live steps (collapsing.underway listed brings refers) live
      · exact sent ▸ folded.underway

end Folded

variable {facts : Facts}

/-- The next cluster links nothing unless it brings a new alarm and refers to a situation. -/
theorem mergeCluster (collapsing : Collapsing facts.ledger now done draft)
    (orderly : facts.ledger.Orderly) (apart : ∀ other ∈ done, Cluster.IsApart cluster other) :
    ∃ next count, Rule.mergeCluster facts draft cluster = .ok (next, count) ∧
      Collapsing facts.ledger now (cluster :: done) next := by
  let scope : DraftScope := ⟨fun _ => False, fun _ => True⟩
  have nothing (id : String) : ¬ scope.Begins id := fun begins => begins
  obtain ⟨next, count, merged,
      ⟨untouched, rfl⟩ | ⟨complete, rfl⟩ | ⟨survivor, others, touched, rfl⟩⟩ :=
    Rule.mergeCluster_cases orderly collapsing.coherent collapsing.settled cluster
  · refine ⟨next, count, merged, collapsing.frame orderly nothing .refl rfl rfl ?_⟩
    rintro _ id ⟨located, member, home⟩
    exact Rule.exists_isHoused_iff.mp ⟨_, ⟨located, member, rfl⟩,
      Option.isSome_of_mem (collapsing.homeOf?_of_home home)⟩ untouched
  · obtain ⟨homes, absorbed⟩ :=
      Rule.refreshCopies_frame facts draft (Rule.mappedOf facts draft cluster)
    refine ⟨_, count, merged, collapsing.frame orderly nothing
      (Rule.refreshCopies_steps scope orderly collapsing.coherent fun _ _ => trivial) homes absorbed
      ?_⟩
    rintro ⟨located, member, homeless⟩
    have housed := Rule.unmappedOf_eq_nil_iff.mp complete located member
    rw [IsHoused, collapsing.homeless apart ⟨located, member, rfl⟩ homeless] at housed
    contradiction
  · obtain ⟨_, absorbed, _, _, renewed, joined⟩ := touched.stages scope collapsing.coherent
      fun _ _ => trivial
    refine ⟨_, count, merged, collapsing.fold (collapsing.folded apart touched) orderly nothing
      (absorbed.trans (renewed.trans joined)) apart ?_⟩
    obtain ⟨_, unmapped⟩ := List.exists_mem_of_ne_nil _ touched.incomplete
    obtain ⟨⟨located, member, rfl⟩, homeless⟩ := Rule.mem_unmappedOf.mp unmapped
    exact ⟨located, member,
      (collapsing.homeOf?_eq_none_iff apart ⟨located, member, rfl⟩).mp homeless⟩

/-- Clusters are merged one after another; `done` are the ones before them. -/
theorem runMerge (collapsing : Collapsing facts.ledger now done draft)
    (orderly : facts.ledger.Orderly) (apart : clusters.Pairwise Cluster.IsApart)
    (later : ∀ cluster ∈ clusters, ∀ other ∈ done, Cluster.IsApart cluster other) (count : Nat) :
    ∃ next total, Rule.runMerge facts draft count clusters = (.ok total, next) ∧
      Collapsing facts.ledger now (clusters.reverse ++ done) next := by
  induction clusters generalizing draft done count with
  | nil => exact ⟨draft, count, rfl, collapsing⟩
  | cons first rest ih =>
    obtain ⟨others, apart⟩ := List.pairwise_cons.mp apart
    obtain ⟨merged, changes, equal, collapsed⟩ :=
      collapsing.mergeCluster orderly (later first (List.mem_cons_self ..))
    have later (cluster : Cluster) (listed : cluster ∈ rest) (other : Cluster)
        (before : other ∈ first :: done) : Cluster.IsApart cluster other := by
      rcases List.mem_cons.mp before with rfl | before
      · exact Std.Symm.symm _ _ (others cluster listed)
      · exact later cluster (List.mem_cons_of_mem _ listed) other before
    obtain ⟨next, total, ran, collapsed⟩ := ih collapsed apart later (count + changes)
    refine ⟨next, total, ?_, by simpa using collapsed⟩
    rw [Rule.runMerge, equal]
    exact ran

/-- The order of the clusters that have been merged does not count. -/
theorem perm (collapsing : Collapsing ledger now done draft) (permuted : done.Perm clusters) :
    Collapsing ledger now clusters draft where
  coherent := collapsing.coherent
  settled := collapsing.settled
  continues := collapsing.continues
  agrees listed := collapsing.agrees (permuted.mem_iff.mpr listed)
  connected known := (collapsing.connected known).mono permuted.subset
  older := collapsing.older
  joined homeless := by simp only [collapsing.joined homeless, permuted.mem_iff]
  underway listed := collapsing.underway (permuted.mem_iff.mpr listed)

section Merged

variable {ledger : Ledger} (collapsing : Collapsing ledger now clusters draft)
include collapsing

theorem isOldest {id : String} (known : id ∈ ledger.situations) :
    ledger.IsOldest clusters id (draft.resolve id) := by
  obtain ⟨survivor, survives⟩ := Collections.exists_getElem? (collapsing.resolve_known known)
  refine ⟨collapsing.connected known, survivor, survives, fun other another connected found => ?_⟩
  exact collapsing.older found (collapsing.resolve_eq_of_connected connected ▸ survives)

/-- The survivor is being drafted where a cluster with a new alarm refers to it. -/
theorem exists_survivor {id : String} (listed : cluster ∈ clusters)
    (news : cluster.BringsNew ledger) (reaches : ledger.Reaches clusters cluster id) :
    ∃ drafted, draft.situations[draft.resolve id]? = some drafted := by
  obtain ⟨other, connected, refers⟩ := reaches
  rw [collapsing.resolve_eq_of_connected connected]
  exact Collections.exists_getElem? (collapsing.underway listed news refers)

variable (orderly : ledger.Orderly)
include orderly

theorem resolve_eq_iff_reaches {id : String} (known : id ∈ ledger.situations) :
    (∃ other, cluster.RefersTo ledger other ∧ draft.resolve other = draft.resolve id) ↔
      ledger.Reaches clusters cluster id := by
  constructor
  · rintro ⟨other, refers, same⟩
    exact ⟨other, (collapsing.connected_iff known (refers.known orderly)).mpr same.symm, refers⟩
  · rintro ⟨other, connected, refers⟩
    exact ⟨other, refers, (collapsing.resolve_eq_of_connected connected).symm⟩

/-- What the survivor of a situation shows. -/
theorem shown_iff_gathers {id : String} (known : id ∈ ledger.situations) (alarm : String) :
    (draft.copy? ledger (draft.resolve id) alarm).isSome ↔ ledger.Gathers clusters id alarm := by
  rw [collapsing.continues.shown_iff]
  simp only [Draft.copy?_new, Draft.homeOf?_new, ← Ledger.shows_iff]
  refine or_congr (exists_congr fun source => ?_) ?_
  · rw [and_comm]
    refine and_congr_left fun shown => ?_
    obtain ⟨_, found, _⟩ := shown
    rw [collapsing.connected_iff known (Collections.mem_of_getElem? found), eq_comm]
  · constructor
    · rintro ⟨homeless, belongs⟩
      obtain ⟨cluster, listed, inside, reached⟩ := (collapsing.joined homeless).mp belongs
      exact ⟨cluster, listed, (collapsing.resolve_eq_iff_reaches orderly known).mp reached, inside,
        homeless⟩
    · rintro ⟨cluster, listed, reaches, inside, homeless⟩
      refine ⟨homeless, (collapsing.joined homeless).mpr ⟨cluster, listed, inside, ?_⟩⟩
      exact (collapsing.resolve_eq_iff_reaches orderly known).mpr reaches

omit orderly in
theorem resolve_of_unknown {id : String} (unknown : id ∉ ledger.situations) :
    draft.resolve id = id := by
  refine Draft.resolve_of_not_mem fun gone => ?_
  obtain ⟨_, found⟩ := Collections.exists_getElem? gone
  exact unknown (collapsing.coherent.absorbed_known found).1

/-- Drafts into which the same clusters have been merged look the same. -/
theorem agree {other : Draft} (same : Collapsing ledger now clusters other) :
    (∀ id, other.resolve id = draft.resolve id) ∧
      (∀ alarm, other.homeOf? ledger alarm = draft.homeOf? ledger alarm) ∧
      ∀ id alarm, (other.copy? ledger id alarm).isSome = (draft.copy? ledger id alarm).isSome := by
  have resolved (id : String) : other.resolve id = draft.resolve id := by
    by_cases known : id ∈ ledger.situations
    · exact (same.isOldest known).eq orderly.toHoused (collapsing.isOldest known)
    · rw [collapsing.resolve_of_unknown known, same.resolve_of_unknown known]
  -- Where an alarm goes is settled by where the situations go that its cluster refers to.
  have homes (alarm : String) : other.homeOf? ledger alarm = draft.homeOf? ledger alarm := by
    cases belongs : ledger.homes[alarm]? with
    | some home =>
      rw [collapsing.homeOf?_of_home belongs, same.homeOf?_of_home belongs, resolved]
    | none =>
      refine Option.ext fun home => ?_
      rw [same.joined belongs, collapsing.joined belongs]
      simp only [resolved]
  refine ⟨resolved, homes, fun id alarm => Bool.eq_iff_iff.mpr ?_⟩
  rw [same.continues.shown_iff, collapsing.continues.shown_iff, homes]
  simp only [resolved]

end Merged

end Draft.Collapsing

namespace Rule

variable {facts : Facts}

/-- Merging all clusters into a new draft. -/
theorem merge_collapsing (apart : facts.Apart) (orderly : facts.ledger.Orderly) (now : Int)
    (ids : IdSource) :
    ∃ merged total, merge.run facts ⟨.new now, ids⟩ = (.ok total, ⟨merged, ids⟩) ∧
      Draft.Collapsing facts.ledger now facts.clusters merged := by
  obtain ⟨merged, total, ran, collapsing⟩ := (Draft.Collapsing.new orderly now).runMerge orderly
    apart (fun _ _ _ absurd => nomatch absurd) 0
  refine ⟨merged, total, by simp only [Rule.run, ran], collapsing.perm ?_⟩
  rw [List.append_nil]
  exact List.reverse_perm facts.clusters

/-- The merge rule succeeds on a new draft if the clusters have no alarm in common. Each situation
of the ledger ends up as the oldest of those that links connect it with. Where a cluster with a new
alarm refers to one of these, the survivor is being drafted; it shows what the connected situations
showed and the new alarms of such clusters, and all of that belongs to it. Other situations are left
with what they showed. The order of the clusters does not bear on any of this. -/
theorem merge_collapses (orderly : facts.ledger.Orderly) (apart : facts.Apart) (now : Int)
    (ids : IdSource) :
    ∃ merged total, merge.run facts ⟨.new now, ids⟩ = (.ok total, ⟨merged, ids⟩) ∧
      (∀ id ∈ facts.ledger.situations,
        facts.ledger.IsOldest facts.clusters id (merged.resolve id)) ∧
      (∀ id ∈ facts.ledger.situations, ∀ cluster ∈ facts.clusters,
        cluster.BringsNew facts.ledger → facts.ledger.Reaches facts.clusters cluster id →
          ∃ drafted, merged.situations[merged.resolve id]? = some drafted ∧
            ∀ alarm, (alarm ∈ drafted.alarms ↔ facts.ledger.Gathers facts.clusters id alarm) ∧
              (alarm ∈ drafted.alarms →
                merged.homeOf? facts.ledger alarm = some (merged.resolve id))) ∧
      (∀ id ∈ facts.ledger.situations, (∀ cluster ∈ facts.clusters,
        cluster.BringsNew facts.ledger → ¬ facts.ledger.Reaches facts.clusters cluster id) →
          ∀ alarm, (merged.copy? facts.ledger id alarm).isSome ↔ facts.ledger.Shows id alarm) ∧
      ∀ permuted : List Cluster, permuted.Perm facts.clusters →
        ∃ other count,
          merge.run { facts with clusters := permuted } ⟨.new now, ids⟩ =
            (.ok count, ⟨other, ids⟩) ∧
          (∀ id, other.resolve id = merged.resolve id) ∧
          (∀ alarm, other.homeOf? facts.ledger alarm = merged.homeOf? facts.ledger alarm) ∧
          ∀ id alarm, (other.copy? facts.ledger id alarm).isSome =
            (merged.copy? facts.ledger id alarm).isSome := by
  obtain ⟨merged, total, ran, collapsing⟩ := merge_collapsing apart orderly now ids
  refine ⟨merged, total, ran, fun id known => collapsing.isOldest known,
    fun id known cluster listed news reaches => ?_, fun id known unreached alarm => ?_,
    fun permuted same => ?_⟩
  · obtain ⟨drafted, underway⟩ := collapsing.exists_survivor listed news reaches
    refine ⟨drafted, underway, fun alarm => ?_⟩
    have shown := collapsing.shown_iff_gathers orderly known alarm
    have home : (merged.copy? facts.ledger (merged.resolve id) alarm).isSome → _ :=
      collapsing.coherent.home_of_shown
    rw [Draft.copy?_of_underway collapsing.coherent underway,
      ← ExtTreeMap.mem_iff_isSome_getElem?] at shown home
    exact ⟨shown, home⟩
  · have stays := (collapsing.connected known).eq_of_unreached unreached
    rw [← Ledger.gathers_of_unreached unreached,
      ← collapsing.shown_iff_gathers orderly known, stays]
  · let reordered : Facts := { facts with clusters := permuted }
    have pairwise : reordered.Apart :=
      same.symm.pairwise apart fun apart => Std.Symm.symm _ _ apart
    obtain ⟨other, count, again, collapsed⟩ := merge_collapsing pairwise orderly now ids
    exact ⟨other, count, again, collapsing.agree orderly (collapsed.perm same)⟩

/-- A cluster on the node. -/
def nodeCluster (alarms : List String) : Cluster :=
  alarms.map fun alarm => ⟨0, Engine.nodeAlarm alarm⟩

/-- What rules know who only know clusters and a ledger. -/
def factsOf (clusters : List Cluster) (situations : List Situation) : Facts :=
  { active := ∅, clusters, collected := [], feedback := [],
    ledger := (Ledger.loadAll {} situations).1 }

/-- Situations that are linked by way of one that is neither the oldest nor the youngest. -/
def chained : Facts :=
  factsOf [nodeCluster ["a", "b", "u"], nodeCluster ["c", "d", "v"]]
    [Engine.nodeSituation "r" 2 ["a"], Engine.nodeSituation "s" 1 ["b", "c"],
      Engine.nodeSituation "t" 0 ["d"]]

theorem orderly_chained : chained.ledger.Orderly := by
  refine (Ledger.coherent_empty.loadAll fun situation listed => ?_).orderly
  simp only [List.mem_cons, List.not_mem_nil, or_false] at listed
  rcases listed with rfl | rfl | rfl <;> apply Engine.nodeSituation_keyed

/-- The survivor of the first cluster is absorbed for the sake of the second. -/
theorem merge_collapses_chained :
    chained.ledger.Orderly ∧ chained.Apart ∧
      chained.ledger.IsOldest chained.clusters "r" "t" ∧
      chained.ledger.Gathers chained.clusters "r" "v" := by
  have apart : chained.Apart := by
    rw [Facts.Apart]
    decide +kernel
  obtain ⟨merged, total, ran, oldest, survives, _⟩ :=
    merge_collapses orderly_chained apart 3 .counting
  have outcome : merged = (merge.run chained ⟨.new 3, .counting⟩).2.draft := by rw [ran]
  have known : "r" ∈ chained.ledger.situations := by decide +kernel
  have resolved : merged.resolve "r" = "t" := by
    rw [outcome]
    decide +kernel
  refine ⟨orderly_chained, apart, resolved ▸ oldest "r" known, ?_⟩
  obtain ⟨drafted, found, shows⟩ := survives "r" known (nodeCluster ["a", "b", "u"])
    (List.mem_cons_self ..) ⟨_, List.mem_of_getElem? (i := 2) rfl, by decide +kernel⟩
    ⟨"r", .refl, _, List.mem_of_getElem? (i := 0) rfl, by decide +kernel⟩
  refine (shows "v").1.mp ?_
  have there : ((merged.situations["t"]?).map fun drafted => drafted.alarms.contains "v") =
      some true := by
    rw [outcome]
    decide +kernel
  rw [resolved] at found
  rw [found] at there
  exact ExtTreeMap.contains_iff_mem.mp (Option.some.inj there)

/-- A situation that shows an alarm under another name than its own id is to be absorbed. -/
def misnamed : Facts :=
  factsOf [nodeCluster ["a", "k", "u"]] [Engine.nodeSituation "t" 0 ["a"],
    { Situation.new "s" 1 with alarms := ExtTreeMap.insert ∅ "k" (Engine.nodeAlarm "x") }]

/-- Absorbing files alarms under their own ids, so that the name is lost on the survivor. -/
theorem misnamed_lost :
    misnamed.ledger.Housed ∧
      (∀ id alarm, misnamed.ledger.Shows id alarm → misnamed.ledger.homes[alarm]? = some id) ∧
      misnamed.Apart ∧
      ∃ merged drafted, merge.run misnamed ⟨.new 2, .counting⟩ = (.ok 1, ⟨merged, .counting⟩) ∧
        merged.resolve "s" = "t" ∧ merged.situations["t"]? = some drafted ∧
        misnamed.ledger.Gathers misnamed.clusters "t" "k" ∧ "k" ∉ drafted.alarms ∧
        ¬ misnamed.ledger.Gathers misnamed.clusters "t" "x" ∧ "x" ∈ drafted.alarms := by
  have single (id alarm : String) (shown : misnamed.ledger.Shows id alarm) :
      misnamed.ledger.homes[alarm]? = some id := Ledger.home_of_shown_loadAll shown
  have apart : misnamed.Apart := by
    rw [Facts.Apart]
    decide +kernel
  have linked : misnamed.ledger.Linked misnamed.clusters "t" "s" := by
    refine ⟨_, List.mem_cons_self .., ⟨_, List.mem_of_getElem? (i := 2) rfl, ?_⟩,
      ⟨_, List.mem_of_getElem? (i := 0) rfl, ?_⟩, ⟨_, List.mem_of_getElem? (i := 1) rfl, ?_⟩⟩ <;>
    decide +kernel
  have shown : misnamed.ledger.Shows "s" "k" := by
    rw [Ledger.shows_iff]
    decide +kernel
  have collapsed : ((merge.run misnamed ⟨.new 2, .counting⟩).2.draft.situations["t"]?).map
      (fun drafted => drafted.alarms.keys) = some ["a", "u", "x"] := by decide +kernel
  obtain ⟨drafted, found, names⟩ := Option.map_eq_some_iff.mp collapsed
  refine ⟨Ledger.housed_empty.loadAll _, single, apart, _, drafted,
    Prod.ext (by decide +kernel) rfl, by decide +kernel, found, .inl ⟨"s", .single linked, shown⟩,
    ?_, ?_, ?_⟩
  · rw [← ExtTreeMap.mem_keys, names]
    decide
  · rintro (⟨other, _, shown⟩ | ⟨cluster, listed, _, inside, _⟩)
    · have belongs := single other "x" shown
      rw [show misnamed.ledger.homes["x"]? = none by decide +kernel] at belongs
      contradiction
    · rw [List.mem_singleton.mp listed] at inside
      exact absurd inside (by decide +kernel)
  · rw [← ExtTreeMap.mem_keys, names]
    decide

end Rule
end FaultCorrelation
