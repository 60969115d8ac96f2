import FaultCorrelation.Engine.Basic
import FaultCorrelation.Proofs.Settings.Rules

/-! # Valid settings

Settings are checked as a whole, and their values are checked again where the parts of an engine are
made from them, in other orders. `Settings.IsValid` says what is asked of settings. The check as a
whole asks for just that, and no part of an engine asks for more: settings that pass it can be run
on, and no other settings can.
-/

namespace FaultCorrelation

section Checking

variable {ε α β : Type}

private theorem bind_eq_ok {first : Except ε α} {next : α → Except ε β} {result : β} :
    (first >>= next) = .ok result ↔ ∃ value, first = .ok value ∧ next value = .ok result := by
  cases first <;> simp [bind, Except.bind]

theorem SettingsCheck.ensure_eq_ok {test : Bool} {cause : SettingsFault} {checked : Unit} :
    ensure test cause = .ok checked ↔ test = true := by
  cases test <;> simp [ensure]

end Checking

/-- Whether settings can be run on. A number that is not finite is refused wherever a number is
asked for, whatever it compares like. -/
structure Settings.IsValid (settings : Settings) : Prop where
  epsilon : settings.epsilon.isFinite ∧ ¬ settings.epsilon ≤ 0.0
  alpha : settings.alpha.isFinite ∧ ¬ settings.alpha ≤ 0.0
  beta : settings.beta.isFinite ∧ 0.0 ≤ settings.beta ∧ settings.beta ≤ 1.0
  minPoints : settings.minPoints ≠ 0
  tickResolution : 0 < settings.tickResolution
  lifetimes : 0 ≤ settings.clearedLifetime ∧ 0 ≤ settings.problemLifetime
  cacheCapacity : settings.cacheCapacity ≠ 0
  weights (kind : RelationKind) :
    (settings.weights.of kind).isFinite ∧ 0.0 ≤ settings.weights.of kind
  rules : AreRules settings.rules

namespace SettingsCheck

theorem isPositive_iff {x : Float} : isPositive x = true ↔ x.isFinite ∧ ¬ x ≤ 0.0 := by
  simp [isPositive]

theorem isShare_iff {x : Float} : isShare x = true ↔ x.isFinite ∧ 0.0 ≤ x ∧ x ≤ 1.0 := by
  simp [isShare, and_assoc]

theorem usable_iff {x : Float} : Weight.usable x = true ↔ x.isFinite ∧ 0.0 ≤ x := by
  simp [Weight.usable]

end SettingsCheck

open SettingsCheck in
theorem Settings.validate_eq_ok {settings : Settings} :
    settings.validate = .ok () ↔ settings.IsValid := by
  rw [validate]
  simp only [bind_eq_ok, SettingsCheck.epsilon, SettingsCheck.alpha, SettingsCheck.beta,
    SettingsCheck.minPoints, weight, ensure_eq_ok, isPositive_iff, isShare_iff, usable_iff,
    bne_iff_ne, decide_eq_true_eq, exists_const, pure, Except.pure, and_true]
  rw [resolvedRules, exists_resolveRules_iff]
  constructor
  · rintro ⟨epsilon, alpha, beta, minPoints, tickResolution, lifetimes, cacheCapacity, parent, peer,
      relative, rules⟩
    exact ⟨epsilon, alpha, beta, minPoints, tickResolution, lifetimes, cacheCapacity,
      fun | .parent => parent | .peer => peer | .relative => relative, rules⟩
  · intro valid
    exact ⟨valid.epsilon, valid.alpha, valid.beta, valid.minPoints, valid.tickResolution,
      valid.lifetimes, valid.cacheCapacity, valid.weights .parent, valid.weights .peer,
      valid.weights .relative, valid.rules⟩

open SettingsCheck

theorem Density.checked_eq_ok {epsilon : Float} {minPoints : Nat} {density : Density Float} :
    checked epsilon minPoints = .ok density ↔
      (epsilon.isFinite ∧ ¬ epsilon ≤ 0.0) ∧ minPoints ≠ 0 ∧ ⟨epsilon, minPoints⟩ = density := by
  simp only [checked, bind_eq_ok, SettingsCheck.epsilon, SettingsCheck.minPoints, ensure_eq_ok,
    isPositive_iff, bne_iff_ne, exists_const, pure, Except.pure, Except.ok.injEq]

theorem SpaceTime.checked_eq_ok {alpha beta : Float} {measure : SpaceTime} :
    checked alpha beta = .ok measure ↔ (alpha.isFinite ∧ ¬ alpha ≤ 0.0) ∧
      (beta.isFinite ∧ 0.0 ≤ beta ∧ beta ≤ 1.0) ∧ ⟨alpha, beta⟩ = measure := by
  simp only [checked, bind_eq_ok, SettingsCheck.alpha, SettingsCheck.beta, ensure_eq_ok,
    isPositive_iff, isShare_iff, exists_const, pure, Except.pure, Except.ok.injEq]

namespace Settings

variable {settings : Settings}

theorem IsValid.exists_clusterer (valid : settings.IsValid) :
    ∃ clusterer, AlarmClusterer.ofSettings settings = .ok clusterer := by
  refine ⟨_, bind_eq_ok.mpr ⟨⟨settings.epsilon, settings.minPoints⟩, ?_,
    bind_eq_ok.mpr ⟨⟨settings.alpha, settings.beta⟩, ?_, rfl⟩⟩⟩
  · exact Density.checked_eq_ok.mpr ⟨valid.epsilon, valid.minPoints, rfl⟩
  · exact SpaceTime.checked_eq_ok.mpr ⟨valid.alpha, valid.beta, rfl⟩

/-- An engine is made from rules and a clusterer, once the settings as a whole have been checked. -/
theorem engine_eq_ok {instanceName : String} {engine : Engine Float} :
    Engine.ofSettings settings instanceName = .ok engine ↔
      ∃ rules, settings.resolvedRules = .ok rules ∧ settings.validate = .ok () ∧
        ∃ clusterer, AlarmClusterer.ofSettings settings = .ok clusterer ∧
          Engine.start
            { weights := settings.weights, cacheCapacity := settings.cacheCapacity
              clearedLifetime := settings.clearedLifetime
              problemLifetime := settings.problemLifetime, clusterer, rules }
            settings.tickResolution instanceName = engine := by
  simp only [Engine.ofSettings, Parameters.ofSettings, bind_eq_ok, pure, Except.pure,
    Except.ok.injEq]
  constructor
  · rintro ⟨_, ⟨rules, resolved, _, validated, clusterer, made, rfl⟩, started⟩
    exact ⟨rules, resolved, validated, clusterer, made, started⟩
  · rintro ⟨rules, resolved, validated, clusterer, made, started⟩
    exact ⟨_, ⟨rules, resolved, (), validated, clusterer, made, rfl⟩, started⟩

/-- There is one notion of settings that can be run on. An engine is made from settings just if they
pass the check as a whole, and then its clusterer and its rules are made from them as well. The
names of the rules can be taken just if they are known and of different rules; the rules come in the
order of the names, and otherwise the fault is about the first name that is unknown or of a rule
that an earlier name is of. -/
theorem accepted_alike (settings : Settings) (instanceName : String) :
    ((∃ engine, Engine.ofSettings settings instanceName = .ok engine) ↔
      settings.validate = .ok ()) ∧
    (settings.validate = .ok () ↔ settings.IsValid) ∧
    (settings.validate = .ok () → ∃ engine, Engine.ofSettings settings instanceName = .ok engine ∧
      AlarmClusterer.ofSettings settings = .ok engine.parameters.clusterer ∧
      settings.resolvedRules = .ok engine.parameters.rules) ∧
    ((∃ rules, settings.resolvedRules = .ok rules) ↔ AreRules settings.rules) ∧
    (∀ rules, settings.resolvedRules = .ok rules →
      rules.map Rule.name = settings.rules.map Text.trim) ∧
    ∀ cause, settings.resolvedRules = .error cause ↔
      ∃ before name after, settings.rules = before ++ name :: after ∧ AreRules before ∧
        Offends before name cause := by
  have made (validated : settings.validate = .ok ()) :
      ∃ engine, Engine.ofSettings settings instanceName = .ok engine ∧
        AlarmClusterer.ofSettings settings = .ok engine.parameters.clusterer ∧
        settings.resolvedRules = .ok engine.parameters.rules := by
    have valid := validate_eq_ok.mp validated
    obtain ⟨rules, resolved⟩ := exists_resolveRules_iff.mpr valid.rules
    obtain ⟨clusterer, clusters⟩ := valid.exists_clusterer
    exact ⟨_, engine_eq_ok.mpr ⟨rules, resolved, validated, clusterer, clusters, rfl⟩, clusters,
      resolved⟩
  refine ⟨⟨fun ⟨_, started⟩ => ?_, fun validated => ?_⟩, validate_eq_ok, made,
    exists_resolveRules_iff, fun rules resolved => (resolveRules_nil_eq_ok.mp resolved).1,
    fun cause => resolveRules_eq_error⟩
  · obtain ⟨_, _, validated, _⟩ := engine_eq_ok.mp started
    exact validated
  · obtain ⟨engine, started, _⟩ := made validated
    exact ⟨engine, started⟩

/-- The settings that hold where none are given can be run on. -/
example : ({} : Settings).validate = .ok () := rfl

end Settings
end FaultCorrelation
