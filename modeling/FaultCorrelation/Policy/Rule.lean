import FaultCorrelation.Text.Blank

/-! # The rules of a policy

A policy is a list of rules, applied in order on every tick that has something to do. `Rule` names
the rules there are; what they do is in `Policy.Rules`.
-/

namespace FaultCorrelation

/-- A rule that turns the facts of a tick into changes of situations. -/
inductive Rule where
  /-- Lets go of alarms that were garbage collected. -/
  | collection
  /-- Applies operator feedback to memberships. -/
  | feedback
  /-- Folds clusters into the situations they touch. -/
  | merge
  /-- Starts a situation for each cluster that touches none. -/
  | newSituation
  deriving DecidableEq, Repr

namespace Rule

/-- The name of a rule in settings and reports. -/
def name : Rule → String
  | collection => "gc"
  | feedback => "feedback"
  | merge => "merge"
  | newSituation => "new-situation"

/-- The default order of rules; every rule is in it. -/
def defaultOrder : List Rule := [collection, feedback, merge, newSituation]

/-- The rule of a name, blanks around the name not counting. -/
def ofName? (name : String) : Option Rule :=
  defaultOrder.find? fun rule => rule.name == Text.trim name

theorem mem_defaultOrder (rule : Rule) : rule ∈ defaultOrder := by cases rule <;> decide

theorem name_injective {a b : Rule} (h : a.name = b.name) : a = b := by
  cases a <;> cases b <;> simp_all [name]

end Rule
end FaultCorrelation
