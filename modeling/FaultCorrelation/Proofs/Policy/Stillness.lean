import FaultCorrelation.Proofs.Policy.Housing

/-! # Evaluations that ask for nothing

Without collected alarms and feedback the default policy starts from a new draft. It either leaves
the draft new or drafts a situation. It leaves it new just in case every cluster is still
(`Rule.IsStill`): all its alarms have a situation, and bringing the outdated copies of its alarms up
to date would change the severity of no situation.
-/

namespace FaultCorrelation

open Std

variable {facts : Facts} {draft next : Draft} {cluster : Cluster} {now : Int}

namespace Draft

/-- Whether some situation is being drafted. -/
def IsStirred (draft : Draft) : Prop := ∃ id : String, id ∈ draft.situations

theorem not_isStirred_new (time : Int) : ¬ (new time).IsStirred := by simp [IsStirred, new]

theorem isStirred_store (draft : Draft) (id : String) (drafted : SituationDraft) :
    (draft.store id drafted).IsStirred := ⟨id, ExtTreeMap.mem_insert_self⟩

theorem IsStirred.ne_new (stirred : draft.IsStirred) (time : Int) : draft ≠ new time := by
  rintro rfl
  exact not_isStirred_new time stirred

/-- Every elementary change leaves a situation in the draft. -/
theorem isStirred_of_step {ledger : Ledger} {scope : DraftScope}
    (step : DraftStep ledger scope draft next) : next.IsStirred := by
  cases step with
  | absorb other survivor _ _ _ target distinct =>
    exact ⟨survivor.id, (mem_situations_absorb target distinct).mpr (.inl rfl)⟩
  | _ => exact isStirred_store ..

theorem eq_or_isStirred_of_steps {ledger : Ledger} {scope : DraftScope}
    (steps : DraftSteps ledger scope draft next) : next = draft ∨ next.IsStirred := by
  cases steps with
  | refl => exact .inl rfl
  | tail _ step => exact .inr (isStirred_of_step step)

end Draft

namespace Rule

/-- The alarms of a situation with the outdated copies that it shows of a cluster's alarms brought
up to date. -/
def renewed (facts : Facts) (now : Int) (cluster : Cluster) (situation : Situation) : AlarmMap :=
  (staleAt facts (.new now) (mappedOf facts (.new now) cluster) situation.id).foldl
    (fun map alarm => map.insert alarm.id alarm) situation.alarms

/-- Whether bringing copies up to date would change the severity of no situation. -/
def IsSteady (facts : Facts) (now : Int) (cluster : Cluster) : Prop :=
  ∀ (id : String) (situation : Situation), facts.ledger.situations[id]? = some situation →
    (renewed facts now cluster situation).severity = situation.severity

/-- Whether a cluster asks for nothing. -/
structure IsStill (facts : Facts) (now : Int) (cluster : Cluster) : Prop where
  complete : unmappedOf facts (.new now) cluster = []
  steady : IsSteady facts now cluster

theorem isSteady_of_untouched (sound : facts.Sound)
    (untouched : mappedOf facts (.new now) cluster = []) : IsSteady facts now cluster := by
  intro id situation known
  rw [renewed, untouched]
  exact (sound.coherent.severity_eq known).symm

theorem refreshCopies_eq_new_iff (sound : facts.Sound) :
    (refreshCopies facts (.new now) (mappedOf facts (.new now) cluster)).1 = .new now ↔
      IsSteady facts now cluster := by
  have looked := @getElem?_refreshCopies facts (.new now) sound (mappedOf facts (.new now) cluster)
  have absent (id : String) : (Draft.new now).situations[id]? = none := by simp [Draft.new]
  constructor
  · intro same id situation known
    obtain rfl := sound.coherent.id_eq known
    have left := looked situation.id
    rw [same, absent] at left
    rw [renewed]
    split at left
    · rename_i fresh
      rw [fresh]
      exact (sound.coherent.severity_eq known).symm
    · rw [refreshedAt, known] at left
      by_contra changes
      dsimp only at left
      rw [if_neg fun both => changes both.2] at left
      contradiction
  · intro steady
    let scope : DraftScope := ⟨fun _ => False, fun _ => True⟩
    have steps : DraftSteps facts.ledger scope (.new now)
        (refreshCopies facts (.new now) (mappedOf facts (.new now) cluster)).1 :=
      refreshCopies_steps scope sound.coherent.orderly
        (Draft.coherent_new sound.coherent.orderly now) fun _ _ => trivial
    refine (Draft.eq_or_isStirred_of_steps steps).resolve_right fun stirred => ?_
    obtain ⟨id, member⟩ := stirred
    obtain ⟨drafted, found⟩ := Collections.exists_getElem? member
    rw [looked, absent] at found
    split at found
    · contradiction
    · rw [refreshedAt] at found
      split at found
      · contradiction
      · rename_i situation known
        obtain rfl := sound.coherent.id_eq known
        rw [if_pos ⟨rfl, steady _ situation known⟩] at found
        contradiction

/-- Merging a cluster into a new draft leaves it new just in case the cluster touches no situation
or is still. -/
theorem mergeCluster_eq_new_iff (sound : facts.Sound) {count : Nat}
    (merged : mergeCluster facts (.new now) cluster = .ok (next, count)) :
    next = .new now ↔ mappedOf facts (.new now) cluster = [] ∨ IsStill facts now cluster := by
  by_cases untouched : mappedOf facts (.new now) cluster = []
  · rw [mergeCluster, if_pos (List.isEmpty_iff.mpr untouched)] at merged
    exact iff_of_true (Prod.mk.inj (Except.ok.inj merged)).1.symm (.inl untouched)
  rw [or_iff_right untouched]
  by_cases complete : unmappedOf facts (.new now) cluster = []
  · rw [mergeCluster, if_neg (mt List.isEmpty_iff.mp untouched),
      if_pos (List.isEmpty_iff.mpr complete)] at merged
    have outcome : (refreshCopies facts (.new now) (mappedOf facts (.new now) cluster)).1 = next :=
      congrArg Prod.fst (Except.ok.inj merged)
    rw [← outcome, refreshCopies_eq_new_iff sound]
    exact ⟨fun steady => ⟨complete, steady⟩, IsStill.steady⟩
  · obtain ⟨_, _, equal, ⟨none, _⟩ | ⟨all, _⟩ | ⟨survivor, others, _, outcome⟩⟩ :=
      mergeCluster_cases sound.coherent.orderly
        (Draft.coherent_new sound.coherent.orderly now) (Draft.isSettled_new now) cluster
    · exact absurd none untouched
    · exact absurd all complete
    · obtain ⟨rfl, _⟩ := Prod.mk.inj (Except.ok.inj (merged.symm.trans equal))
      refine iff_of_false (Draft.IsStirred.ne_new ?_ now) fun still => complete still.complete
      rw [outcome, foldInto, Draft.revise, Draft.associateAll_store]
      exact Draft.isStirred_store ..

/-- Merging clusters into a new draft leaves it new just in case each of them touches no situation
or is still. -/
theorem runMerge_eq_new_iff (sound : facts.Sound) {clusters : List Cluster} {count total : Nat}
    (ran : runMerge facts (.new now) count clusters = (.ok total, next)) :
    next = .new now ↔ ∀ cluster ∈ clusters,
      mappedOf facts (.new now) cluster = [] ∨ IsStill facts now cluster := by
  have fresh := Draft.coherent_new sound.coherent.orderly now
  induction clusters generalizing count with
  | nil => exact iff_of_true (Prod.mk.inj ran).2.symm fun _ member => absurd member List.not_mem_nil
  | cons first rest ih =>
    let scope : DraftScope := ⟨fun _ => False, fun _ => True⟩
    obtain ⟨merged, changes, equal, steps⟩ : ∃ merged changes,
        mergeCluster facts (.new now) first = .ok (merged, changes) ∧
          DraftSteps facts.ledger scope (.new now) merged :=
      mergeCluster_steps scope sound.coherent.orderly fresh (Draft.isSettled_new now)
        fun _ _ => trivial
    rw [runMerge, equal] at ran
    rw [List.forall_mem_cons, ← mergeCluster_eq_new_iff sound equal]
    rcases Draft.eq_or_isStirred_of_steps steps with rfl | stirred
    · rw [and_iff_right rfl]
      exact ih ran
    · refine iff_of_false ?_ fun both => stirred.ne_new now both.1
      obtain ⟨last, _, same, later⟩ : ∃ last total,
          runMerge facts merged (count + changes) rest = (.ok total, last) ∧
            DraftSteps facts.ledger scope merged last :=
        runMerge_steps scope sound.coherent.orderly (fresh.steps sound.coherent.orderly steps)
          ((Draft.isSettled_new now).steps (fun _ begins => begins) steps) (fun _ begins => begins)
          (count + changes) fun _ _ _ _ => trivial
      obtain rfl := (Prod.mk.inj (ran.symm.trans same)).2
      rcases Draft.eq_or_isStirred_of_steps later with rfl | after
      · exact stirred.ne_new now
      · exact after.ne_new now

theorem startSituation_cases (facts : Facts) (bench : Workbench) (cluster : Cluster) :
    (startSituation facts bench cluster).1 = bench ∨
      (startSituation facts bench cluster).1.draft.IsStirred := by
  rcases startSituation_spec facts bench cluster with ⟨_, left⟩ | ⟨_, started⟩
  · exact .inl left
  · rw [started, Draft.reviseNew, Draft.associateAll_store]
    exact .inr (Draft.isStirred_store ..)

/-- No situation is started for a cluster all of whose alarms have one. -/
theorem startSituation_of_complete {bench : Workbench}
    (complete : unmappedOf facts bench.draft cluster = []) :
    (startSituation facts bench cluster).1 = bench := by
  rcases startSituation_spec facts bench cluster with ⟨_, left⟩ | ⟨⟨nonempty, homeless⟩, _⟩
  · exact left
  · obtain ⟨located, member⟩ := List.exists_mem_of_ne_nil _ nonempty
    have housed := unmappedOf_eq_nil_iff.mp complete located member
    exact absurd (homeless located member) (Option.isSome_iff_ne_none.mp housed)

theorem runNewSituation_cases (facts : Facts) (bench : Workbench) :
    (runNewSituation facts bench).1 = bench ∨
      (runNewSituation facts bench).1.draft.IsStirred := by
  rw [runNewSituation_eq]
  refine List.foldlRecOn facts.clusters _
    (motive := fun (after : Workbench) => after = bench ∨ after.draft.IsStirred) (.inl rfl) ?_
  intro after before cluster _
  rcases startSituation_cases facts after cluster with same | stirred
  · exact same.symm ▸ before
  · exact .inr stirred

theorem runNewSituation_of_complete {bench : Workbench}
    (complete : ∀ cluster ∈ facts.clusters, unmappedOf facts bench.draft cluster = []) :
    (runNewSituation facts bench).1 = bench := by
  rw [runNewSituation_eq]
  refine List.foldlRecOn facts.clusters _
    (motive := fun (after : Workbench) => after = bench) rfl ?_
  rintro _ rfl cluster member
  exact startSituation_of_complete (complete cluster member)

end Rule

namespace Policy

theorem correctedDraft_eq_new (collected : facts.collected = []) (feedback : facts.feedback = [])
    (now : Int) : correctedDraft facts now = .new now := by
  rw [correctedDraft, Rule.runFeedback, Rule.runCollection, collected, feedback]
  rfl

section Undisturbed

variable (sound : facts.Sound) (collected : facts.collected = []) (feedback : facts.feedback = [])
include sound collected feedback

/-- An evaluation without collected alarms and feedback leaves the draft new, or drafts a
situation. -/
theorem finalDraft_cases (now : Int) (ids : IdSource) :
    mergedDraft facts now = .new now ∧ finalDraft facts now ids = .new now ∨
      (finalDraft facts now ids).IsStirred := by
  have merged := mergedDraft_steps sound now
  rw [correctedDraft_eq_new collected feedback] at merged
  rw [finalDraft, (evaluate_defaultOrder sound now ids).1]
  let merging : Workbench := { draft := mergedDraft facts now, ids }
  rcases Rule.runNewSituation_cases facts merging with same | stirred
  · rw [same]
    exact (Draft.eq_or_isStirred_of_steps merged).imp_left fun new => ⟨new, new⟩
  · exact .inr stirred

/-- An evaluation without collected alarms and feedback asks for nothing just in case every cluster
is still. -/
theorem finalDraft_eq_new_iff (apart : facts.Apart) (now : Int) (ids : IdSource) :
    finalDraft facts now ids = .new now ↔
      ∀ cluster ∈ facts.clusters, Rule.IsStill facts now cluster := by
  obtain ⟨next, total, ran, _⟩ := runMerge_correctedDraft sound now
  have merged : mergedDraft facts now = next := by rw [mergedDraft, ran]
  rw [correctedDraft_eq_new collected feedback] at ran
  have outcome := Rule.runMerge_eq_new_iff sound ran
  rw [← merged] at outcome
  constructor
  · intro new cluster listed
    have houses := finalDraft_houses sound.coherent.housed apart now ids cluster listed
    rw [new] at houses
    refine ⟨Rule.unmappedOf_eq_nil_iff.mpr houses, ?_⟩
    have fresh : mergedDraft facts now = .new now := by
      rcases finalDraft_cases sound collected feedback now ids with same | stirred
      · exact same.1
      · exact absurd new (stirred.ne_new now)
    rcases outcome.mp fresh cluster listed with untouched | still
    · exact Rule.isSteady_of_untouched sound untouched
    · exact still.steady
  · intro still
    have new := outcome.mpr fun cluster listed => .inr (still cluster listed)
    rw [finalDraft, (evaluate_defaultOrder sound now ids).1, new,
      Rule.runNewSituation_of_complete fun cluster listed => (still cluster listed).complete]

end Undisturbed
end Policy
end FaultCorrelation
