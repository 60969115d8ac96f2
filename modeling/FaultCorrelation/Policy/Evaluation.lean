import FaultCorrelation.Policy.Rules

/-! # Evaluating a policy

The rules of a policy run in order, each all or nothing: what a failing rule wrote into the draft is
dropped, and the other rules run all the same.
-/

namespace FaultCorrelation

/-- What an evaluation did. -/
structure EvaluationReport where
  /-- The rules that ran, with the number of changes each asked for. -/
  applied : List (Rule × Nat) := []
  /-- The rules that failed. -/
  failures : List (Rule × StateFault) := []

namespace EvaluationReport

/-- The number of changes asked for. -/
def changes (report : EvaluationReport) : Nat := (report.applied.map Prod.snd).foldl (· + ·) 0

/-- The failures as faults. -/
def faults (report : EvaluationReport) : List Fault :=
  report.failures.map fun failure => .evaluation failure.1 failure.2

end EvaluationReport

namespace Policy

/-- Run one rule all or nothing. Ids that a failing rule drew stay drawn. -/
def applyRule (facts : Facts) (bench : Workbench) (report : EvaluationReport) (rule : Rule) :
    Workbench × EvaluationReport :=
  match rule.run facts bench with
  | (.ok count, after) => (after, { report with applied := report.applied ++ [(rule, count)] })
  | (.error cause, after) =>
    ({ after with draft := bench.draft },
      { report with failures := report.failures ++ [(rule, cause)] })

/-- Run rules in order. -/
def evaluate (rules : List Rule) (facts : Facts) (bench : Workbench) :
    Workbench × EvaluationReport :=
  rules.foldl (fun (bench, report) rule => applyRule facts bench report rule) (bench, {})

end Policy
end FaultCorrelation
