import FaultCorrelation.Inventory.Basic

/-! # Inventory objects as JSON

Every field of an object is written, but for a friendly name that is not there.
-/

namespace FaultCorrelation

variable {γ : Type}

/-- Both parts of a reference are written. -/
def InventoryRef.toJson (ref : InventoryRef) : Json :=
  .record [("object_type", .text ref.objectType), ("id", .text ref.id)]

/-- Read a reference to an object. -/
def InventoryRef.decode [Mark γ] : Decoder γ InventoryRef :=
  (InventoryRef.mk <$> Fields.required "object_type" Decoder.text
    <*> Fields.required "id" Decoder.text).decode

/-- An optional weight as a number or null. -/
def weightJson (weight : Option Float) : Json := weight.elim .null .ofFloat

/-- A relation is written with its weight, if only as null. -/
def Relation.toJson (relation : Relation Float) : Json :=
  .record [("target", relation.target.toJson), ("weight", weightJson relation.weight)]

/-- Read a relation. -/
def Relation.decode [Mark γ] : Decoder γ (Relation Float) :=
  (Relation.mk <$> Fields.required "target" InventoryRef.decode
    <*> Fields.optional "weight" Decoder.float).decode

namespace InventoryObject

/-- Write an object. -/
def toJson (object : InventoryObject Float) : Json :=
  .record ([("object_type", .text object.objectType), ("id", .text object.id)] ++
    (object.friendlyName.map fun name => ("friendly_name", .text name)).toList ++
    [("parent", object.parent.elim .null InventoryRef.toJson),
      ("weight_to_parent", weightJson object.parentWeight),
      ("peers", .list (object.peers.map Relation.toJson)),
      ("relatives", .list (object.relatives.map Relation.toJson))])

/-- Read an object. -/
def decode [Mark γ] : Decoder γ (InventoryObject Float) :=
  (InventoryObject.mk <$> Fields.required "object_type" Decoder.text
    <*> Fields.required "id" Decoder.text
    <*> Fields.optional "friendly_name" Decoder.text
    <*> Fields.optional "parent" InventoryRef.decode
    <*> Fields.optional "weight_to_parent" Decoder.float
    <*> Fields.defaulted "peers" (Decoder.list Relation.decode) []
    <*> Fields.defaulted "relatives" (Decoder.list Relation.decode) []).decode

end InventoryObject
end FaultCorrelation
