import FaultCorrelation.Engine.State
import FaultCorrelation.Inventory.Json
import FaultCorrelation.Json.Reading

/-! # Seeds

A seed is a file with the records that an engine starts from.
-/

namespace FaultCorrelation.InitialData

/-- Read initial records; each list may be left out. -/
def decode {γ : Type} [Mark γ] : Decoder γ (InitialData Float) :=
  (InitialData.mk <$> Fields.defaulted "alarms" (Decoder.list Alarm.decode) []
    <*> Fields.defaulted "feedback" (Decoder.list Feedback.decode) []
    <*> Fields.defaulted "situations" (Decoder.list Situation.decode) []
    <*> Fields.defaulted "inventory" (Decoder.list InventoryObject.decode) []).decode

/-- Read a whole seed, if it is sound. Its nesting is not limited. -/
def ofSeed? (text : String) : Option (InitialData Float) :=
  (Document.ofWholeText? text.length text).bind fun document => (decode document).toOption

/-- Every list is written. -/
def toJson (data : InitialData Float) : Json :=
  .record [("alarms", .list (data.alarms.map Alarm.toJson)),
    ("feedback", .list (data.feedback.map Feedback.toJson)),
    ("situations", .list (data.situations.map Situation.toJson)),
    ("inventory", .list (data.inventory.map InventoryObject.toJson))]

end FaultCorrelation.InitialData
