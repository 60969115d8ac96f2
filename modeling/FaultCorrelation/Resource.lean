import FaultCorrelation.Json.Decoding

/-! # Resource keys

A `ResourceKey` names a resource by a path of tokens, as in `node/r1`. Keys are ordered token by
token, so that they can index maps.
-/

namespace FaultCorrelation

/-- The path of tokens that names a resource. -/
structure ResourceKey where
  tokens : List String
  deriving DecidableEq, Repr, Inhabited

namespace ResourceKey

/-- The key of an inventory object, from its type and its id. -/
def ofObject (objectType id : String) : ResourceKey := ⟨[objectType, id]⟩

/-- A key that names nothing: it has no token with a character in it. -/
def isBlank (key : ResourceKey) : Bool := key.tokens.all String.isEmpty

/-- The tokens joined by slashes. -/
def text (key : ResourceKey) : String := "/".intercalate key.tokens

instance : Ord ResourceKey := ⟨compareOn tokens⟩

theorem compare_def (a b : ResourceKey) : compare a b = compare a.tokens b.tokens := rfl

instance : Std.TransOrd ResourceKey := inferInstanceAs (Std.TransCmp (compareOn tokens))

instance : Std.LawfulEqOrd ResourceKey where
  compare_self := (inferInstance : Std.ReflCmp (compareOn tokens)).compare_self
  eq_of_compare {a b} h := by
    obtain ⟨a⟩ := a
    obtain ⟨b⟩ := b
    simpa [compare_def] using h

/-- A key is written as the array of its tokens. -/
def toJson (key : ResourceKey) : Json := .list (key.tokens.map .text)

/-- Read a key from an array of tokens. -/
def decode {γ : Type} : Decoder γ ResourceKey := fun document =>
  (Decoder.list Decoder.text document).map .mk

end ResourceKey
end FaultCorrelation
