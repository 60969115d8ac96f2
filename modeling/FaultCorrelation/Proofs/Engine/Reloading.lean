import FaultCorrelation.Proofs.Engine.Ticking
import FaultCorrelation.Proofs.Ledger.Reloading

/-! # Loading what an engine held

With the default policy, an engine that is started from the situations of another one has the same
situations, in whichever order they come. Alarms that are shown belong where they belonged. The
supply of ids must not hand out the empty id, under which nothing is loaded.
-/

namespace FaultCorrelation

variable {W : Type} [Weight W]

namespace EngineState

variable {parameters : Parameters W} {state : EngineState W}

theorem correlate_ids (parameters : Parameters W) (state : EngineState W) (ids : IdSource)
    (summary : TickSummary) (collected : List Alarm) (feedback : List Feedback) :
    (state.correlate parameters ids summary collected feedback).2.2.name = ids.name := by
  cases clustered : (state.cluster parameters).1 with
  | error cause => rw [correlate_of_error _ _ _ _ clustered]
  | ok clusters =>
    rw [correlate_of_ok _ _ _ _ clustered]
    exact Policy.evaluate_ids _ _ _

/-- A tick draws ids from the supply, which stays the same. -/
theorem tick_ids (parameters : Parameters W) (state : EngineState W) (ids : IdSource) (now : Int) :
    (state.tick parameters ids now).2.2.name = ids.name := by
  rcases tick_cases parameters state ids now with
    ⟨_, _, refused⟩ | ⟨_, idle | ⟨_, _, _, _, origin, _, _, _, busy⟩⟩
  · rw [refused]
  · rw [idle]
  · rw [busy, ← origin, correlate_ids]

theorem Quiet.not_mem {next : EngineState W} (quiet : Quiet parameters state next)
    (named : "" ∉ state.ledger.situations) : "" ∉ next.ledger.situations := by
  rcases quiet.ledger_cases with
    ⟨same, _⟩ | ⟨situations, _, same, _⟩ | ⟨id, same, _⟩ | ⟨same, _⟩ <;> rw [same]
  · exact named
  · exact Ledger.not_mem_loadAll named situations
  · exact fun member => named (Std.ExtTreeMap.mem_erase.mp member).2
  · simp

end EngineState

namespace Engine

variable {parameters : Parameters W} {engine : Engine W}

theorem perform_ids {call : Call W} (admitted : engine.Admits call) :
    (engine.perform call).ids.name = engine.ids.name := by
  cases call with
  | tick now =>
    rw [perform, (tick_eq engine now).2.2]
    exact EngineState.tick_ids _ _ _ now
  | _ => rw [(perform_quietly engine admitted (by simp)).ids_eq]

/-- A tick starts situations under ids of the supply. -/
theorem tick_situations (default : engine.parameters.rules = Rule.defaultOrder)
    (coherent : engine.state.ledger.Coherent) {now : Int} (fresh : engine.DrawsFresh now)
    {id : String} (member : id ∈ (engine.tick now).1.state.ledger.situations) :
    id ∈ engine.state.ledger.situations ∨ ∃ n, engine.ids.name n = id := by
  obtain ⟨drafted, committed⟩ := tick_committed default coherent fresh
  obtain ⟨_, underway | known⟩ :=
    Draft.hasSituation_iff.mp ((committed.mem_situations_iff drafted).mp member)
  · cases found : engine.state.tickFacts? engine.parameters now with
    | none =>
      rw [tickDraft_of_none found] at underway
      simp [Draft.new] at underway
    | some facts =>
      have correlates := EngineState.tick_of_some engine.ids found
      rw [tickDraft_of_some default found] at underway
      rw [← correlates.ledger_eq]
      exact Policy.mem_finalDraft (correlates.sound coherent)
        (drawsFresh_facts default found fresh) underway
  · exact .inl known

/-- Every situation has an id that is not empty. -/
theorem Reachable.named (reached : Reachable parameters engine)
    (default : parameters.rules = Rule.defaultOrder) (named : ∀ n, engine.ids.name n ≠ "") :
    "" ∉ engine.state.ledger.situations := by
  induction reached with
  | start => exact Std.ExtTreeMap.not_mem_empty
  | @perform engine reached call admitted ih =>
    rw [perform_ids admitted] at named
    have before := ih named
    cases call with
    | tick now =>
      intro member
      rcases tick_situations (reached.parameters_eq ▸ default) (reached.ledger_coherent default)
        admitted member with known | ⟨n, drawn⟩
      · exact before known
      · exact named n drawn
    | _ =>
      exact (perform_quietly engine admitted (by simp)).keeps
        (fun state => "" ∉ state.ledger.situations) (fun _ _ named quiet => quiet.not_mem named)
        before

/-- A listing of the situations of an engine, loaded into an empty ledger, gives back the situations
and the memberships of the alarms that are shown. -/
theorem Reachable.ledger_reloads (reached : Reachable parameters engine)
    (default : parameters.rules = Rule.defaultOrder) (named : ∀ n, engine.ids.name n ≠ "")
    {listing : List Situation} (listed : listing.Perm engine.state.ledger.situations.values) :
    let ledger := engine.state.ledger
    let (loaded, taken) := ({} : Ledger).loadAll listing
    taken = ledger.situations.size ∧ loaded.situations = ledger.situations ∧
      (∀ alarm id : String, loaded.homes[alarm]? = some id ↔
        ledger.homes[alarm]? = some id ∧ ledger.Shows id alarm) ∧
      loaded.exclusions = ∅ :=
  (reached.ledger_coherent default).loadAll_listing (reached.named default named) listed

theorem ledger_reloads_merging :
    (({} : Ledger).loadAll mergingEngine.state.ledger.situations.values.reverse).2 = 2 ∧
      (({} : Ledger).loadAll mergingEngine.state.ledger.situations.values.reverse).1.homes["b"]? =
        some "t" := by
  have named (n : Nat) : mergingEngine.ids.name n ≠ "" := by
    have begun (digits : String) : "00000000-0000-4000-8000-" ++ digits ≠ "" := by simp
    exact begun _
  obtain ⟨taken, _, homes, _⟩ :=
    mergingEngine_reachable.ledger_reloads rfl named (List.reverse_perm _)
  have size : mergingEngine.state.ledger.situations.size = 2 := by decide +kernel
  have shown : mergingEngine.state.ledger.Shows "t" "b" := Ledger.shows_iff.mpr (by decide +kernel)
  exact ⟨taken.trans size, (homes "b" "t").mpr ⟨by decide +kernel, shown⟩⟩

end Engine
end FaultCorrelation
