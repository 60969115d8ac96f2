import FaultCorrelation.Json.Decoding

/-! # Severity

The severity scale of alarms and situations, from indeterminate to critical.
-/

namespace FaultCorrelation

/-- How severe a fault is, from the least severe to the most. -/
inductive Severity where
  | indeterminate
  | cleared
  | normal
  | warning
  | minor
  | major
  | critical
  deriving DecidableEq, Repr, Inhabited

namespace Severity

/-- The place on the scale. -/
def rank : Severity → Nat
  | indeterminate => 0
  | cleared => 1
  | normal => 2
  | warning => 3
  | minor => 4
  | major => 5
  | critical => 6

instance : Ord Severity := ⟨fun a b => compare a.rank b.rank⟩

/-- The severity that ranks higher. -/
def worse (a b : Severity) : Severity := if a.rank < b.rank then b else a

/-- The word a severity is written as. -/
def word : Severity → String
  | indeterminate => "indeterminate"
  | cleared => "cleared"
  | normal => "normal"
  | warning => "warning"
  | minor => "minor"
  | major => "major"
  | critical => "critical"

/-- The scale in ascending order. -/
def scale : List Severity := [indeterminate, cleared, normal, warning, minor, major, critical]

/-- Read a severity from its word. -/
def decode {γ : Type} : Decoder γ Severity := Decoder.word (scale.map fun s => (s.word, s))

theorem rank_injective {a b : Severity} (h : a.rank = b.rank) : a = b := by
  cases a <;> cases b <;> simp_all [rank]

theorem mem_scale (s : Severity) : s ∈ scale := by cases s <;> decide

end Severity
end FaultCorrelation
