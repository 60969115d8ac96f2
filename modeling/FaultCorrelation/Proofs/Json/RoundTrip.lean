import FaultCorrelation.Feedback
import FaultCorrelation.Proofs.Json.Versions
import FaultCorrelation.Situation.Basic

/-! # Records come back

Alarms, feedback and situations are read from what they were written as, and from every version of
it: with fields added that the record does not know, with null fields dropped, and so for the alarms
within a situation too. Their times are integers of 64 bits.
-/

namespace FaultCorrelation

open Fields

theorem Decoder.int64_eq {time : Int} (fits : Word64.isSigned time) :
    Decoder.int64 (.int time : Json) = .ok time :=
  if_pos fits

theorem Severity.decode_word (severity : Severity) :
    Severity.decode (.text severity.word : Json) = .ok severity := by
  cases severity <;> rfl

theorem Verdict.decode_word (verdict : Verdict) :
    Verdict.decode (.text verdict.word : Json) = .ok verdict := by
  cases verdict <;> rfl

theorem ResourceKey.decode_toJson (key : ResourceKey) :
    ResourceKey.decode key.toJson = .ok key := by
  have read (tokens : List String) :
      (tokens.map Document.text).mapM (Decoder.text : Decoder Empty String) = .ok tokens := by
    induction tokens with
    | nil => rfl
    | cons first rest ih =>
      rw [List.map_cons, List.mapM_cons, ih]
      rfl
  exact congrArg (Except.map ResourceKey.mk) (read key.tokens)

namespace Alarm

/-- The versions of an alarm. -/
def versions : Versions :=
  .record [("id", Eq), ("time_ms", Eq), ("severity", Eq), ("resource_key", Eq), ("summary", Eq)]

theorem versions_toJson (alarm : Alarm) : versions alarm.toJson alarm.toJson := by
  refine Versions.object_iff.mpr ⟨_, rfl, .keep rfl rfl <| .keep rfl rfl <| .keep rfl rfl <|
    .keep rfl rfl ?_⟩
  cases alarm.summary with
  | none => exact .nil
  | some summary => exact .keep rfl rfl .nil

theorem decode_of_version {alarm : Alarm} (fits : Word64.isSigned alarm.time) {version : Json}
    (versioned : versions alarm.toJson version) : decode version = .ok alarm := by
  refine Fields.decode_of_version rfl ?_ versioned fun find found => ?_
  · cases alarm.summary <;> simp
  have id : (required "id" Decoder.text).Reads find alarm.id :=
    .of_scalar (found "id" Eq rfl) nofun rfl
  have time : (required "time_ms" Decoder.int64).Reads find alarm.time :=
    .of_scalar (found "time_ms" Eq rfl) nofun (Decoder.int64_eq fits)
  have severity : (required "severity" Severity.decode).Reads find alarm.severity :=
    .of_scalar (found "severity" Eq rfl) nofun alarm.severity.decode_word
  have resource : (optional "resource_key" ResourceKey.decode).Reads find alarm.resource :=
    .optional ResourceKey.toJson (found "resource_key" Eq rfl) rfl (fun _ => nofun)
      ResourceKey.decode_toJson
  have summary : (optional "summary" Decoder.text).Reads find alarm.summary :=
    .optional .text (found "summary" Eq rfl) (by cases alarm.summary <;> rfl) (fun _ => nofun)
      fun _ => rfl
  exact ((((id.map Alarm.mk).seq time).seq severity).seq resource).seq summary

end Alarm

namespace Feedback

/-- The versions of feedback. -/
def versions : Versions :=
  .record [("situation_id", Eq), ("alarm_id", Eq), ("feedback_type", Eq), ("timestamp_ms", Eq),
    ("user", Eq), ("reason", Eq)]

theorem versions_toJson (feedback : Feedback) : versions feedback.toJson feedback.toJson :=
  Versions.object_iff.mpr ⟨_, rfl, .keep rfl rfl <| .keep rfl rfl <| .keep rfl rfl <|
    .keep rfl rfl <| .keep rfl rfl <| .keep rfl rfl .nil⟩

theorem decode_of_version {feedback : Feedback} (fits : Word64.isSigned feedback.time)
    {version : Json} (versioned : versions feedback.toJson version) :
    decode version = .ok feedback := by
  refine Fields.decode_of_version rfl (by simp) versioned fun find found => ?_
  have situation : (required "situation_id" Decoder.text).Reads find feedback.situation :=
    .of_scalar (found "situation_id" Eq rfl) nofun rfl
  have alarm : (required "alarm_id" Decoder.text).Reads find feedback.alarm :=
    .of_scalar (found "alarm_id" Eq rfl) nofun rfl
  have verdict : (required "feedback_type" Verdict.decode).Reads find feedback.verdict :=
    .of_scalar (found "feedback_type" Eq rfl) nofun feedback.verdict.decode_word
  have time : (required "timestamp_ms" Decoder.int64).Reads find feedback.time :=
    .of_scalar (found "timestamp_ms" Eq rfl) nofun (Decoder.int64_eq fits)
  have user : (optional "user" Decoder.text).Reads find feedback.user :=
    .optional .text (found "user" Eq rfl) rfl (fun _ => nofun) fun _ => rfl
  have reason : (optional "reason" Decoder.text).Reads find feedback.reason :=
    .optional .text (found "reason" Eq rfl) rfl (fun _ => nofun) fun _ => rfl
  exact (((((situation.map Feedback.mk).seq alarm).seq verdict).seq time).seq user).seq reason

end Feedback

namespace Situation

/-- The versions of a situation; those of its alarms are versions of alarms. -/
def versions : Versions :=
  .record [("id", Eq), ("creation_time_ms", Eq), ("severity", Eq),
    ("alarms", .map Alarm.versions), ("diagnostic_text", Eq)]

theorem versions_toJson (situation : Situation) : versions situation.toJson situation.toJson := by
  have alarms : Versions.map Alarm.versions
      (.record (situation.alarms.toList.map fun entry => (entry.1, entry.2.toJson)))
      (.record (situation.alarms.toList.map fun entry => (entry.1, entry.2.toJson))) := by
    refine Versions.object_iff.mpr ⟨_, rfl, List.forall₂_same.mpr fun field member => ⟨rfl, ?_⟩⟩
    obtain ⟨entry, _, rfl⟩ := List.mem_map.mp member
    exact entry.2.versions_toJson
  exact Versions.object_iff.mpr ⟨_, rfl, .keep rfl rfl <| .keep rfl rfl <| .keep rfl rfl <|
    .keep rfl alarms <| .keep rfl rfl .nil⟩

theorem decode_of_version {situation : Situation} (fits : Word64.isSigned situation.created)
    (alarmsFit : ∀ (name : String) (alarm : Alarm), situation.alarms[name]? = some alarm →
      Word64.isSigned alarm.time)
    {version : Json} (versioned : versions situation.toJson version) :
    decode version = .ok situation := by
  refine Fields.decode_of_version rfl (by simp) versioned fun find found => ?_
  have id : (required "id" Decoder.text).Reads find situation.id :=
    .of_scalar (found "id" Eq rfl) nofun rfl
  have created : (required "creation_time_ms" Decoder.int64).Reads find situation.created :=
    .of_scalar (found "creation_time_ms" Eq rfl) nofun (Decoder.int64_eq fits)
  have severity : (required "severity" Severity.decode).Reads find situation.severity :=
    .of_scalar (found "severity" Eq rfl) nofun situation.severity.decode_word
  have alarms : (defaulted "alarms" (Decoder.map Alarm.decode) ∅).Reads find situation.alarms := by
    refine .of_written (found "alarms" _ rfl) nofun fun version versioned => ?_
    exact Decoder.map_of_version versioned fun name alarm shown _ versioned =>
      Alarm.decode_of_version (alarmsFit name alarm shown) versioned
  have diagnostic : (optional "diagnostic_text" Decoder.text).Reads find situation.diagnostic :=
    .optional .text (found "diagnostic_text" Eq rfl) rfl (fun _ => nofun) fun _ => rfl
  exact ((((id.map Situation.mk).seq created).seq severity).seq alarms).seq diagnostic

end Situation

/-- Alarms, feedback and situations are read from what they were written as, and from every version
of it. -/
theorem decoding_undoes_encoding :
    (∀ alarm : Alarm, Word64.isSigned alarm.time →
      Alarm.decode alarm.toJson = .ok alarm ∧
        ∀ version : Json, Alarm.versions alarm.toJson version →
          Alarm.decode version = .ok alarm) ∧
    (∀ feedback : Feedback, Word64.isSigned feedback.time →
      Feedback.decode feedback.toJson = .ok feedback ∧
        ∀ version : Json, Feedback.versions feedback.toJson version →
          Feedback.decode version = .ok feedback) ∧
    ∀ situation : Situation, Word64.isSigned situation.created →
      (∀ (name : String) (alarm : Alarm), situation.alarms[name]? = some alarm →
        Word64.isSigned alarm.time) →
      Situation.decode situation.toJson = .ok situation ∧
        ∀ version : Json, Situation.versions situation.toJson version →
          Situation.decode version = .ok situation := by
  refine ⟨fun alarm fits => ⟨?_, fun _ => Alarm.decode_of_version fits⟩,
    fun feedback fits => ⟨?_, fun _ => Feedback.decode_of_version fits⟩,
    fun situation fits alarmsFit => ⟨?_, fun _ => Situation.decode_of_version fits alarmsFit⟩⟩
  · exact Alarm.decode_of_version fits alarm.versions_toJson
  · exact Feedback.decode_of_version fits feedback.versions_toJson
  · exact Situation.decode_of_version fits alarmsFit situation.versions_toJson

/-- An alarm without a resource and with an empty summary. -/
private def bareAlarm : Alarm := ⟨"a", 1, .major, none, some ""⟩

/-- The alarm as written without its null and with a field that is not known. -/
private def bareAlarmVersion : Json :=
  .record [("note", .record [("id", .null)]), ("id", .text "a"), ("time_ms", .int 1),
    ("severity", .text "major"), ("summary", .text "")]

/-- A situation that shows the alarm under another name than its own. -/
private def misnaming : Situation :=
  { id := "s", created := 5, severity := .major, alarms := .ofList [("b", bareAlarm)]
    diagnostic := none }

/-- A situation and feedback come back from writers that know more fields and drop nulls. -/
theorem decoding_undoes_encoding_newer :
    let feedback : Feedback := ⟨"s", "a", .rootCause, 9, none, some "cable"⟩
    let feedbackVersion : Json :=
      .record [("situation_id", .text "s"), ("alarm_id", .text "a"), ("team", .int 7),
        ("feedback_type", .text "root_cause"), ("timestamp_ms", .int 9), ("reason", .text "cable"),
        ("team", .null)]
    let situationVersion : Json :=
      .record [("id", .text "s"), ("owner", .list []), ("creation_time_ms", .int 5),
        ("severity", .text "major"), ("alarms", .record [("b", bareAlarmVersion)])]
    Alarm.versions bareAlarm.toJson bareAlarmVersion ∧
      Alarm.decode bareAlarmVersion = .ok bareAlarm ∧
      Feedback.versions feedback.toJson feedbackVersion ∧
      Feedback.decode feedbackVersion = .ok feedback ∧
      Situation.versions misnaming.toJson situationVersion ∧
      Situation.decode situationVersion = .ok misnaming := by
  intro feedback feedbackVersion situationVersion
  obtain ⟨alarms, feedbacks, situations⟩ := decoding_undoes_encoding
  have alarmVersioned : Alarm.versions bareAlarm.toJson bareAlarmVersion :=
    Versions.object_iff.mpr ⟨_, rfl, .add _ rfl <| .keep rfl rfl <| .keep rfl rfl <|
      .keep rfl rfl <| .drop <| .keep rfl rfl .nil⟩
  have feedbackVersioned : Feedback.versions feedback.toJson feedbackVersion :=
    Versions.object_iff.mpr ⟨_, rfl, .keep rfl rfl <| .keep rfl rfl <| .add _ rfl <|
      .keep rfl rfl <| .keep rfl rfl <| .drop <| .keep rfl rfl <| .add _ rfl .nil⟩
  have listed : misnaming.alarms.toList = [("b", bareAlarm)] := by decide +kernel
  have alarmsVersioned : (Versions.map Alarm.versions)
      (.record (misnaming.alarms.toList.map fun entry => (entry.1, entry.2.toJson)))
      (.record [("b", bareAlarmVersion)]) := by
    rw [listed]
    exact Versions.object_iff.mpr ⟨_, rfl, .cons ⟨rfl, alarmVersioned⟩ .nil⟩
  have situationVersioned : Situation.versions misnaming.toJson situationVersion :=
    Versions.object_iff.mpr ⟨_, rfl, .keep rfl rfl <| .add _ rfl <| .keep rfl rfl <|
      .keep rfl rfl <| .keep rfl alarmsVersioned <| .drop .nil⟩
  refine ⟨alarmVersioned, (alarms _ (by decide)).2 _ alarmVersioned, feedbackVersioned,
    (feedbacks _ (by decide)).2 _ feedbackVersioned, situationVersioned,
    (situations _ (by decide) fun name alarm shown => ?_).2 _ situationVersioned⟩
  have member := Std.ExtTreeMap.mem_toList_iff_getElem?_eq_some.mpr shown
  rw [listed, List.mem_singleton] at member
  obtain ⟨rfl, rfl⟩ := Prod.mk.inj member
  decide

end FaultCorrelation
