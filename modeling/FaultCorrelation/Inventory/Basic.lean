import FaultCorrelation.Weight
import FaultCorrelation.Resource

/-! # Inventory objects

An inventory object stands for one resource and declares its relations to others: a parent, peers
and relatives, each with a weight of its own or the weight configured for the kind of relation.
`InventoryObject.declarations` lists them in the order in which the first one towards a resource
counts.
-/

namespace FaultCorrelation

/-- The kinds of relation between resources. -/
inductive RelationKind where
  | parent
  | peer
  | relative
  deriving DecidableEq, Repr

/-- The word a kind of relation is written as. -/
def RelationKind.word : RelationKind → String
  | parent => "parent"
  | peer => "peer"
  | relative => "relative"

/-- The weights of relations that carry none of their own. -/
structure EdgeWeights (W : Type) where
  parent : W
  peer : W
  relative : W
  deriving Repr

/-- The configured weight of a kind of relation. -/
def EdgeWeights.of {W : Type} (weights : EdgeWeights W) : RelationKind → W
  | .parent => weights.parent
  | .peer => weights.peer
  | .relative => weights.relative

/-- A reference to an inventory object. -/
structure InventoryRef where
  objectType : String
  id : String
  deriving DecidableEq, Repr

/-- The key of the resource an object reference points at. -/
def InventoryRef.key (ref : InventoryRef) : ResourceKey := .ofObject ref.objectType ref.id

/-- A declared relation to another object, with its own weight if it has one. -/
structure Relation (W : Type) where
  target : InventoryRef
  weight : Option W
  deriving Repr

/-- A record of the inventory. -/
structure InventoryObject (W : Type) where
  objectType : String
  id : String
  friendlyName : Option String
  parent : Option InventoryRef
  parentWeight : Option W
  peers : List (Relation W)
  relatives : List (Relation W)
  deriving Repr

/-- A relation with its weight decided. -/
structure Declaration (W : Type) where
  target : ResourceKey
  weight : W
  kind : RelationKind
  deriving Repr

namespace InventoryObject

variable {W : Type}

/-- An object that declares no relations. -/
def bare (objectType id : String) : InventoryObject W :=
  ⟨objectType, id, none, none, none, [], []⟩

/-- The key of the resource the object stands for. -/
def key (object : InventoryObject W) : ResourceKey := .ofObject object.objectType object.id

/-- Replace the parent. -/
def withParent (object : InventoryObject W) (ref : InventoryRef) : InventoryObject W :=
  { object with parent := some ref }

/-- Add a peer with the configured weight. -/
def withPeer (object : InventoryObject W) (ref : InventoryRef) : InventoryObject W :=
  { object with peers := object.peers ++ [⟨ref, none⟩] }

/-- Add a relative with the configured weight. -/
def withRelative (object : InventoryObject W) (ref : InventoryRef) : InventoryObject W :=
  { object with relatives := object.relatives ++ [⟨ref, none⟩] }

/-- The declared relations: the parent, then the peers, then the relatives. -/
def declarations (object : InventoryObject W) (weights : EdgeWeights W) : List (Declaration W) :=
  (object.parent.map fun ref =>
      ⟨ref.key, object.parentWeight.getD weights.parent, .parent⟩).toList ++
    (object.peers.map fun peer => ⟨peer.target.key, peer.weight.getD weights.peer, .peer⟩) ++
    (object.relatives.map fun other =>
      ⟨other.target.key, other.weight.getD weights.relative, .relative⟩)

/-- The relation that counts towards a resource: the first one declared. -/
def declarationTo? (object : InventoryObject W) (weights : EdgeWeights W) (target : ResourceKey) :
    Option (Declaration W) :=
  (object.declarations weights).find? fun declaration => declaration.target = target

/-- Whether an object can enter the topology at all: it has a type and an id, and the weight to its
parent, if it has one of its own, is usable. Its relations are checked one by one. -/
def isAcceptable [Weight W] (object : InventoryObject W) : Bool :=
  !object.objectType.isEmpty && !object.id.isEmpty && object.parentWeight.all Weight.usable

end InventoryObject
end FaultCorrelation
