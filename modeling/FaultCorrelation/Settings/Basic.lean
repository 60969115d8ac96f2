import FaultCorrelation.Fault

/-! # Engine settings

The tunables of the correlation, their defaults, and the checks they have to pass. The checks of
single values are shared by `Settings.validate` and by the parts of the engine that are built from
those values.
-/

namespace FaultCorrelation

namespace SettingsCheck

/-- A radius or scale: positive and finite. -/
def isPositive (x : Float) : Bool := x.isFinite && !decide (x ≤ 0.0)

/-- A share: between zero and one. -/
def isShare (x : Float) : Bool := x.isFinite && decide (0.0 ≤ x) && decide (x ≤ 1.0)

/-- Let a fault through unless a test succeeds. -/
def ensure (test : Bool) (cause : SettingsFault) : Except SettingsFault Unit :=
  if test then .ok () else .error cause

/-- The clustering radius. -/
def epsilon (x : Float) : Except SettingsFault Unit := ensure (isPositive x) (.epsilon x)

/-- The scale of the space-time distance. -/
def alpha (x : Float) : Except SettingsFault Unit := ensure (isPositive x) (.alpha x)

/-- The share of time in the space-time distance. -/
def beta (x : Float) : Except SettingsFault Unit := ensure (isShare x) (.beta x)

/-- The neighbourhood size of a core point. -/
def minPoints (n : Nat) : Except SettingsFault Unit := ensure (n != 0) .minPoints

/-- A default weight of a kind of relation. -/
def weight (kind : RelationKind) (x : Float) : Except SettingsFault Unit :=
  ensure (Weight.usable x) (.weight kind x)

end SettingsCheck

/-- The settings of an engine. Times are milliseconds. -/
structure Settings where
  /-- The clustering radius. -/
  epsilon : Float := 100.0
  /-- The scale of the space-time distance. -/
  alpha : Float := 144.47
  /-- The share of time in the space-time distance; space has the rest. -/
  beta : Float := 0.553
  /-- How many alarms, itself included, an alarm needs nearby to seed a cluster. -/
  minPoints : Nat := 1
  /-- How often the host is expected to tick. -/
  tickResolution : Int := 30000
  /-- How long a cleared alarm lingers. -/
  clearedLifetime : Int := 300000
  /-- How long an alarm that is not cleared lingers without an update. -/
  problemLifetime : Int := 7200000
  /-- How many distances are remembered. -/
  cacheCapacity : Nat := 10000
  weights : EdgeWeights Float := ⟨1.0, 2.0, 5.0⟩
  /-- The names of the rules, in order. -/
  rules : List String := Rule.defaultOrder.map Rule.name

namespace Settings

/-- Resolve rule names against those already taken; unknown and repeated names are faults. -/
def resolveRules (taken : List Rule) : List String → Except SettingsFault (List Rule)
  | [] => .ok taken
  | name :: rest =>
    match Rule.ofName? name with
    | none => .error (.unknownRule name)
    | some rule =>
      if rule ∈ taken then .error (.repeatedRule name)
      else resolveRules (taken ++ [rule]) rest

/-- The rules that the settings name. -/
def resolvedRules (settings : Settings) : Except SettingsFault (List Rule) :=
  resolveRules [] settings.rules

/-- The first fault of the settings, if they have any. -/
def validate (settings : Settings) : Except SettingsFault Unit := do
  SettingsCheck.epsilon settings.epsilon
  SettingsCheck.alpha settings.alpha
  SettingsCheck.beta settings.beta
  SettingsCheck.minPoints settings.minPoints
  SettingsCheck.ensure (decide (0 < settings.tickResolution)) .tickResolution
  SettingsCheck.ensure (decide (0 ≤ settings.clearedLifetime ∧ 0 ≤ settings.problemLifetime))
    .lifetime
  SettingsCheck.ensure (settings.cacheCapacity != 0) .cacheCapacity
  SettingsCheck.weight .parent settings.weights.parent
  SettingsCheck.weight .peer settings.weights.peer
  SettingsCheck.weight .relative settings.weights.relative
  let _ ← settings.resolvedRules
  return ()

end Settings
end FaultCorrelation
