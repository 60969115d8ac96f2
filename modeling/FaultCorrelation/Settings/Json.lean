import FaultCorrelation.Settings.Basic

/-! # Settings as JSON

Every setting is written, and every one may be left out when read.
-/

namespace FaultCorrelation

variable {γ : Type} [Mark γ]

/-- Read default weights in a style. -/
def EdgeWeights.decodeIn (style : DecodingStyle γ) : Decoder γ (EdgeWeights Float) :=
  let default : Settings := {}
  style.record (EdgeWeights.mk <$> Fields.defaulted "parent" style.float default.weights.parent
    <*> Fields.defaulted "peer" style.float default.weights.peer
    <*> Fields.defaulted "relative" style.float default.weights.relative)

/-- Write default weights. -/
def EdgeWeights.toJson (weights : EdgeWeights Float) : Json :=
  .record [("parent", .ofFloat weights.parent), ("peer", .ofFloat weights.peer),
    ("relative", .ofFloat weights.relative)]

namespace Settings

/-- Read the names of the rules in a style. -/
def decodeRulesIn (style : DecodingStyle γ) : Decoder γ (List String) :=
  style.record (Fields.defaulted "rules" (Decoder.list style.text) ({} : Settings).rules)

/-- Read settings in a style. -/
def decodeIn (style : DecodingStyle γ) : Decoder γ Settings :=
  let default : Settings := {}
  style.record (Settings.mk <$> Fields.defaulted "epsilon" style.float default.epsilon
    <*> Fields.defaulted "alpha" style.float default.alpha
    <*> Fields.defaulted "beta" style.float default.beta
    <*> Fields.defaulted "min_points" style.nat64 default.minPoints
    <*> Fields.defaulted "tick_resolution_ms" style.int64 default.tickResolution
    <*> Fields.defaulted "alarm_ttl_ms" style.int64 default.clearedLifetime
    <*> Fields.defaulted "problem_timeout_ms" style.int64 default.problemLifetime
    <*> Fields.defaulted "distance_cache_capacity" style.nat64 default.cacheCapacity
    <*> Fields.defaulted "weights" (EdgeWeights.decodeIn style) default.weights
    <*> Fields.defaulted "policy" (decodeRulesIn style) default.rules)

/-- Read settings, every scalar written as what it is. -/
def decode : Decoder γ Settings := decodeIn .strict

/-- Write settings. -/
def toJson (settings : Settings) : Json :=
  .record [("epsilon", .ofFloat settings.epsilon), ("alpha", .ofFloat settings.alpha),
    ("beta", .ofFloat settings.beta), ("min_points", .int settings.minPoints),
    ("tick_resolution_ms", .int settings.tickResolution),
    ("alarm_ttl_ms", .int settings.clearedLifetime),
    ("problem_timeout_ms", .int settings.problemLifetime),
    ("distance_cache_capacity", .int settings.cacheCapacity),
    ("weights", settings.weights.toJson),
    ("policy", .record [("rules", .list (settings.rules.map .text))])]

end Settings
end FaultCorrelation
