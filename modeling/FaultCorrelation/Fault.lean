import FaultCorrelation.Decimal.Shortest
import FaultCorrelation.Inventory.Basic
import FaultCorrelation.Policy.Rule

/-! # Faults

Everything that can go wrong, by cause. `Fault.message` gives each cause its wording; the four
classes of `Fault` tell whether a caller may skip the offending item and go on.
-/

namespace FaultCorrelation

/-- Settings that cannot be run with. -/
inductive SettingsFault where
  | epsilon (value : Float)
  | alpha (value : Float)
  | beta (value : Float)
  | minPoints
  | tickResolution
  | lifetime
  | cacheCapacity
  | weight (kind : RelationKind) (value : Float)
  | unknownRule (name : String)
  | repeatedRule (name : String)

/-- What a setting should have been. -/
def SettingsFault.message : SettingsFault → String
  | epsilon value =>
    "epsilon must be a positive finite number, got " ++ Decimal.shortestText value
  | alpha value => "alpha must be a positive finite number, got " ++ Decimal.shortestText value
  | beta value => "beta must lie within [0, 1], got " ++ Decimal.shortestText value
  | minPoints => "min_points must be at least 1"
  | tickResolution => "tick_resolution_ms must be positive"
  | lifetime => "alarm_ttl_ms and problem_timeout_ms must not be negative"
  | cacheCapacity => "distance_cache_capacity must be at least 1"
  | weight kind value =>
    kind.word ++ " weight must be a non-negative finite number, got " ++
      Decimal.shortestText value
  | unknownRule name => "unknown policy rule '" ++ name ++ "'"
  | repeatedRule name => "policy rule '" ++ name ++ "' listed more than once"

/-- Calls that do not fit the state they meet. -/
inductive StateFault where
  | tickBeforeInit
  | tickAfterDestroy
  | alreadyInitialized
  | destroyed
  | timeWentBackwards (tick now : Int)
  | unknownVertex (id : Nat)
  | unknownSituation (id : String)
  | noDistance (source target : Nat)
  deriving DecidableEq

/-- What the call ran into. -/
def StateFault.message : StateFault → String
  | tickBeforeInit => "tick called before init"
  | tickAfterDestroy => "tick called after destroy"
  | alreadyInitialized => "engine is already initialized"
  | destroyed => "engine has been destroyed"
  | timeWentBackwards tick now =>
    "time went backwards: tick at " ++ toString tick ++ " precedes current time " ++ toString now
  | unknownVertex id => "could not find vertex with id " ++ toString id
  | unknownSituation id => "alarm mapped to unknown situation '" ++ id ++ "'"
  | noDistance source target =>
    "no distance from " ++ toString source ++ " to " ++ toString target

/-- Records that cannot be used. -/
inductive DataFault where
  | noResourceKey (alarm : String)
  | emptyAlarmId
  deriving DecidableEq

/-- What the record lacks. -/
def DataFault.message : DataFault → String
  | noResourceKey alarm => "alarm '" ++ alarm ++ "' has no resource key"
  | emptyAlarmId => "alarm has an empty id"

/-- A fault, by class and cause. -/
inductive Fault where
  | settings (cause : SettingsFault)
  | state (cause : StateFault)
  | data (cause : DataFault)
  /-- A rule failed; its changes were dropped and the other rules went on. -/
  | evaluation (rule : Rule) (cause : StateFault)

namespace Fault

/-- The name of a fault's class. -/
def kind : Fault → String
  | settings _ => "Configuration"
  | state _ => "State"
  | data _ => "Data"
  | evaluation _ _ => "Evaluation"

/-- The full wording of a state fault. -/
def stateMessage (cause : StateFault) : String := "Invalid engine state: " ++ cause.message

/-- The full wording of a fault. -/
def message : Fault → String
  | settings cause => "Invalid configuration: " ++ cause.message
  | state cause => stateMessage cause
  | data cause => "Invalid data: " ++ cause.message
  | evaluation rule cause =>
    "Policy evaluation failed in rule '" ++ rule.name ++ "': " ++ stateMessage cause

/-- Whether a caller may skip the offending item and go on. -/
def isRecoverable : Fault → Bool
  | data _ | evaluation _ _ => true
  | settings _ | state _ => false

end Fault
end FaultCorrelation
