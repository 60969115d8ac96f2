import FaultCorrelation.Json.Decoding

/-! # Operator feedback

Feedback corrects the membership of one alarm in one situation, or only comments on it.
-/

namespace FaultCorrelation

/-- What an operator says about an alarm in a situation. -/
inductive Verdict where
  /-- The alarm does not belong in the situation. -/
  | falsePositive
  /-- The alarm belongs in the situation and is missing. -/
  | falseNegative
  | correct
  | rootCause
  | unknown
  deriving DecidableEq, Repr

namespace Verdict

/-- The word a verdict is written as. -/
def word : Verdict → String
  | falsePositive => "false_positive"
  | falseNegative => "false_negative"
  | correct => "correct"
  | rootCause => "root_cause"
  | unknown => "unknown"

/-- All verdicts. -/
def all : List Verdict := [falsePositive, falseNegative, correct, rootCause, unknown]

/-- Read a verdict from its word. -/
def decode {γ : Type} : Decoder γ Verdict := Decoder.word (all.map fun v => (v.word, v))

end Verdict

/-- A verdict on one alarm in one situation. -/
structure Feedback where
  situation : String
  alarm : String
  verdict : Verdict
  time : Int
  user : Option String
  reason : Option String
  deriving DecidableEq, Repr

namespace Feedback

/-- Every field is written. -/
def toJson (feedback : Feedback) : Json :=
  .record [("situation_id", .text feedback.situation), ("alarm_id", .text feedback.alarm),
    ("feedback_type", .text feedback.verdict.word), ("timestamp_ms", .int feedback.time),
    ("user", feedback.user.elim .null .text), ("reason", feedback.reason.elim .null .text)]

/-- Read feedback. -/
def decode {γ : Type} [Mark γ] : Decoder γ Feedback :=
  (Feedback.mk <$> Fields.required "situation_id" Decoder.text
    <*> Fields.required "alarm_id" Decoder.text
    <*> Fields.required "feedback_type" Verdict.decode
    <*> Fields.required "timestamp_ms" Decoder.int64
    <*> Fields.optional "user" Decoder.text
    <*> Fields.optional "reason" Decoder.text).decode

end Feedback
end FaultCorrelation
