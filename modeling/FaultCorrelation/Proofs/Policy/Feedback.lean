import Mathlib.Tactic.ByContra
import FaultCorrelation.Policy.Rules
import FaultCorrelation.Proofs.Ledger.DraftStep

/-! # What feedback does to a draft

Feedback is applied before anything is absorbed, to situations of the ledger only. It keeps the
draft coherent; what it shows of an alarm changes only through false positives and false negatives
on that alarm, and where an alarm belongs only through false negatives, unless it belonged nowhere.
-/

namespace FaultCorrelation

open Std

/-- What rules rely on. -/
structure Facts.Sound (facts : Facts) : Prop where
  coherent : facts.ledger.Coherent
  keyed : facts.active.IsKeyed

theorem Facts.indexActive_keyed (active : List LocatedAlarm) : (indexActive active).IsKeyed := by
  suffices induct : ∀ alarms : AlarmMap, alarms.IsKeyed →
      AlarmMap.IsKeyed (active.foldl (fun alarms located =>
        ExtTreeMap.insert alarms located.alarm.id located.alarm) alarms) from induct ∅ .empty
  induction active with
  | nil => exact fun _ keyed => keyed
  | cons first rest ih => exact fun alarms keyed => ih _ (keyed.insert first.alarm)

/-- What is found for an id has that id. -/
theorem Facts.findAlarm?_id {facts : Facts} (sound : facts.Sound) {draft : Draft} {id : String}
    {alarm : Alarm} (found : facts.findAlarm? draft id = some alarm) : alarm.id = id := by
  rw [findAlarm?] at found
  split at found
  · rename_i active present
    exact Option.some.inj found ▸ sound.keyed id active present
  · obtain ⟨home, _, found⟩ := Option.bind_eq_some_iff.mp found
    dsimp only at found
    split at found
    · rename_i copy present
      obtain ⟨drafted, _, present⟩ := Option.bind_eq_some_iff.mp present
      have same := List.find?_some present
      exact Option.some.inj found ▸ eq_of_beq same
    · obtain ⟨situation, known, present⟩ := Option.bind_eq_some_iff.mp found
      exact sound.coherent.keyed known id alarm present

/-- A draft in which nothing has been absorbed or begun. -/
structure Draft.Plain (ledger : Ledger) (draft : Draft) : Prop where
  coherent : draft.Coherent ledger
  untouched : draft.absorbed = ∅
  settled : draft.IsSettled ledger

namespace Draft.Plain

variable {ledger : Ledger} {draft : Draft}

theorem new (coherent : ledger.Coherent) (time : Int) : (Draft.new time).Plain ledger :=
  ⟨coherent_new coherent.orderly time, rfl, isSettled_new time⟩

variable (plain : draft.Plain ledger)
include plain

theorem live (id : String) : id ∉ draft.absorbed := by simp [plain.untouched]

theorem resolve_eq (id : String) : draft.resolve id = id := resolve_of_not_mem (plain.live id)

/-- Alarms belong to situations of the ledger. -/
theorem mem_of_homeOf? (grounded : ledger.Coherent) {alarm id : String}
    (home : draft.homeOf? ledger alarm = some id) : id ∈ ledger.situations :=
  have there := hasSituation_iff.mp (plain.coherent.hasSituation_of_homeOf? grounded.orderly home)
  there.2.elim (plain.settled id) fun known => known

theorem release (alarm : String) : (draft.release alarm).Plain ledger :=
  ⟨plain.coherent.release alarm, plain.untouched, plain.settled⟩

end Draft.Plain

namespace Rule

variable {facts : Facts} {draft : Draft}

theorem runCollection_plain (plain : draft.Plain facts.ledger) :
    (runCollection facts draft).1.Plain facts.ledger := by
  rw [runCollection]
  induction facts.collected generalizing draft with
  | nil => exact plain
  | cons first rest ih => exact ih (plain.release first.id)

/-- Garbage collection moves nothing and lifts no exclusion. -/
theorem runCollection_views (facts : Facts) (draft : Draft) :
    (runCollection facts draft).1.situations = draft.situations ∧
    (runCollection facts draft).1.homes = draft.homes ∧
    (runCollection facts draft).1.absorbed = draft.absorbed ∧
    (runCollection facts draft).1.inclusions = draft.inclusions := by
  rw [runCollection]
  induction facts.collected generalizing draft with
  | nil => exact ⟨rfl, rfl, rfl, rfl⟩
  | cons first rest ih => exact ih (draft.release first.id)

theorem absorbed_applyFalsePositive (situation : Situation) (id alarm : String) :
    (applyFalsePositive facts draft situation id alarm).absorbed = draft.absorbed := by
  rw [applyFalsePositive]
  split <;> rfl

theorem absorbed_applyFalseNegative (situation : Situation) (id : String) (alarm : Alarm) :
    (applyFalseNegative facts draft situation id alarm).absorbed = draft.absorbed := by
  rw [applyFalseNegative]
  split <;> rfl

section Verdicts

variable (coherent : draft.Coherent facts.ledger) (grounded : facts.ledger.Coherent)
  {situation : Situation} (known : facts.ledger.situations[situation.id]? = some situation)
  (live : situation.id ∉ draft.absorbed)
include coherent grounded known live

/-- A false positive hides one alarm in one situation, and gives it a home if it had none. -/
theorem applyFalsePositive_views (alarm : String) :
    (applyFalsePositive facts draft situation situation.id alarm).Coherent facts.ledger ∧
    (∀ id other, (applyFalsePositive facts draft situation situation.id alarm).copy?
        facts.ledger id other =
      if situation.id = id ∧ alarm = other then none else draft.copy? facts.ledger id other) ∧
    ∀ other, (applyFalsePositive facts draft situation situation.id alarm).homeOf?
        facts.ledger other =
      if alarm = other then some ((draft.homeOf? facts.ledger alarm).getD situation.id)
      else draft.homeOf? facts.ledger other := by
  have erased : (draft.revise situation fun under => under.erase alarm).Coherent facts.ledger :=
    coherent.erase grounded.orderly known live alarm
  have copies := Draft.copy?_erase known live alarm
  have home (other : String) : ((draft.revise situation fun under => under.erase alarm).exclude
      situation.id alarm).homeOf? facts.ledger other = draft.homeOf? facts.ledger other :=
    Draft.homeOf?_congr rfl rfl other
  have excluded : ((draft.revise situation fun under => under.erase alarm).exclude
      situation.id alarm).Coherent facts.ledger := erased.exclude _ _
  rw [applyFalsePositive]
  simp only [home]
  cases belongs : draft.homeOf? facts.ledger alarm with
  | some previous =>
    refine ⟨excluded, copies, fun other => ?_⟩
    rw [Option.isNone_some, if_neg Bool.false_ne_true, home]
    split
    · rename_i same
      rw [← same, belongs, Option.getD_some]
    · rfl
  | none =>
    have there : ((draft.revise situation fun under => under.erase alarm).exclude
        situation.id alarm).hasSituation facts.ledger situation.id :=
      Draft.hasSituation_iff.mpr ⟨live, .inr (Collections.mem_of_getElem? known)⟩
    refine ⟨excluded.associate there fun id shown => ?_, copies, fun other => ?_⟩
    · rw [excluded.copy?_of_homeOf?_none ((home alarm).trans belongs)] at shown
      contradiction
    · rw [Option.isNone_none, if_pos rfl, Draft.homeOf?_associate, home, Option.getD_none]
      exact congrArg (fun id => if alarm = other then some id else _)
        (Draft.resolve_of_not_mem live)

omit known live in
/-- Once an alarm has left its previous home, no other situation shows it, if that home is in the
ledger. -/
private theorem applyFalseNegative_eq (alarm : Alarm)
    (placed : ∀ home, draft.homeOf? facts.ledger alarm.id = some home →
      home ∈ facts.ledger.situations) : ∃ freed : Draft,
    applyFalseNegative facts draft situation situation.id alarm =
      (((freed.readmit situation.id alarm.id).associate alarm.id situation.id).revise situation
        fun under => under.put alarm) ∧
    freed.Coherent facts.ledger ∧ freed.absorbed = draft.absorbed ∧
    (∀ id other : String, alarm.id ≠ other →
      freed.copy? facts.ledger id other = draft.copy? facts.ledger id other) ∧
    (∀ id : String, situation.id ≠ id → freed.copy? facts.ledger id alarm.id = none) ∧
    ∀ other, freed.homeOf? facts.ledger other = draft.homeOf? facts.ledger other := by
  rw [applyFalseNegative]
  generalize previously : (draft.homeOf? facts.ledger alarm.id).bind _ = previous
  have elsewhere {id : String} (different : situation.id ≠ id)
      (shown : draft.copy? facts.ledger id alarm.id ≠ none) :
      previous = facts.ledger.situations[id]? ∧ previous ≠ none := by
    have home := coherent.home_of_shown (Option.isSome_iff_ne_none.mpr shown)
    obtain ⟨other, found⟩ := Collections.exists_getElem? (placed id home)
    rw [← previously, home, Option.bind_some, if_neg (Ne.symm different)]
    exact ⟨rfl, by simp [found]⟩
  cases previous with
  | none =>
    refine ⟨draft, rfl, coherent, rfl, fun _ _ _ => rfl, fun id different => ?_, fun _ => rfl⟩
    by_contra shown
    exact (elsewhere different shown).2 rfl
  | some other =>
    obtain ⟨home, belongs, found⟩ := Option.bind_eq_some_iff.mp previously
    split at found
    · contradiction
    have named := grounded.id_eq found
    subst named
    have live := coherent.live_of_homeOf? grounded.orderly belongs
    have copies := Draft.copy?_erase found live alarm.id
    refine ⟨_, rfl, coherent.erase grounded.orderly found live alarm.id, rfl,
      fun id shown different => ?_, fun id different => ?_, fun shown => ?_⟩
    · rw [copies, if_neg fun same => different same.2]
    · rw [copies]
      split
      · rfl
      · rename_i same
        by_contra shown
        exact same ⟨grounded.id_eq (elsewhere different shown).1.symm, rfl⟩
    · exact Draft.homeOf?_revise _ _

/-- A false negative shows one alarm in one situation only, and gives it that situation as home, if
the home it had is in the ledger. -/
theorem applyFalseNegative_views (alarm : Alarm)
    (placed : ∀ home, draft.homeOf? facts.ledger alarm.id = some home →
      home ∈ facts.ledger.situations) :
    (applyFalseNegative facts draft situation situation.id alarm).Coherent facts.ledger ∧
    (∀ id other, (applyFalseNegative facts draft situation situation.id alarm).copy?
        facts.ledger id other =
      if alarm.id = other then if situation.id = id then some alarm else none
      else draft.copy? facts.ledger id other) ∧
    ∀ other, (applyFalseNegative facts draft situation situation.id alarm).homeOf?
        facts.ledger other =
      if alarm.id = other then some situation.id else draft.homeOf? facts.ledger other := by
  have member := Collections.mem_of_getElem? known
  obtain ⟨freed, freedEq, freedCoherent, absorbed, freedCopies, alone, freedHome⟩ :=
    applyFalseNegative_eq coherent grounded alarm placed
  rw [freedEq]
  rw [← absorbed] at live
  have readmitted : (freed.readmit situation.id alarm.id).Coherent facts.ledger :=
    freedCoherent.readmit _ _
  have there : (freed.readmit situation.id alarm.id).hasSituation facts.ledger situation.id :=
    Draft.hasSituation_iff.mpr ⟨live, .inr member⟩
  have associated : ((freed.readmit situation.id alarm.id).associate alarm.id
      situation.id).Coherent facts.ledger := by
    refine readmitted.associate there fun id shown => ?_
    by_contra different
    have hidden : (freed.readmit situation.id alarm.id).copy? facts.ledger id alarm.id = none :=
      alone id (Ne.symm different)
    rw [hidden] at shown
    contradiction
  have remains : situation.id ∉ ((freed.readmit situation.id alarm.id).associate alarm.id
      situation.id).absorbed := live
  have homes (other : String) : ((freed.readmit situation.id alarm.id).associate alarm.id
      situation.id).homeOf? facts.ledger other =
        if alarm.id = other then some situation.id else draft.homeOf? facts.ledger other := by
    rw [Draft.homeOf?_associate]
    split
    · exact congrArg some (Draft.resolve_of_not_mem live)
    · exact (Draft.homeOf?_congr rfl rfl other).trans (freedHome other)
  refine ⟨associated.put grounded.orderly known ?_, ?_, ?_⟩
  · rw [homes, if_pos rfl]
  · intro id other
    rw [Draft.copy?_put known remains]
    change (if _ then _ else freed.copy? facts.ledger id other) = _
    by_cases joins : alarm.id = other
    · subst joins
      by_cases same : situation.id = id
      · simp [same]
      · simp [same, alone id same]
    · simp only [joins, and_false, if_false]
      exact freedCopies id other joins
  · intro other
    rw [Draft.homeOf?_revise, homes]

end Verdicts

section Plain

variable (plain : draft.Plain facts.ledger) (sound : facts.Sound) {situation : Situation}
  (known : facts.ledger.situations[situation.id]? = some situation)
include plain sound known

theorem applyFalsePositive_spec (alarm : String) :
    (applyFalsePositive facts draft situation situation.id alarm).Plain facts.ledger ∧
    (∀ id other, (applyFalsePositive facts draft situation situation.id alarm).copy?
        facts.ledger id other =
      if situation.id = id ∧ alarm = other then none else draft.copy? facts.ledger id other) ∧
    ∀ other, (applyFalsePositive facts draft situation situation.id alarm).homeOf?
        facts.ledger other =
      if alarm = other then some ((draft.homeOf? facts.ledger alarm).getD situation.id)
      else draft.homeOf? facts.ledger other := by
  obtain ⟨coherent, views⟩ :=
    applyFalsePositive_views plain.coherent sound.coherent known (plain.live _) alarm
  refine ⟨⟨coherent, (absorbed_applyFalsePositive ..).trans plain.untouched, ?_⟩, views⟩
  rw [applyFalsePositive]
  split
  · exact plain.settled.store (Collections.mem_of_getElem? known) _
  · exact plain.settled.store (Collections.mem_of_getElem? known) _

theorem applyFalseNegative_spec (alarm : Alarm) :
    (applyFalseNegative facts draft situation situation.id alarm).Plain facts.ledger ∧
    (∀ id other, (applyFalseNegative facts draft situation situation.id alarm).copy?
        facts.ledger id other =
      if alarm.id = other then if situation.id = id then some alarm else none
      else draft.copy? facts.ledger id other) ∧
    ∀ other, (applyFalseNegative facts draft situation situation.id alarm).homeOf?
        facts.ledger other =
      if alarm.id = other then some situation.id else draft.homeOf? facts.ledger other := by
  obtain ⟨coherent, views⟩ := applyFalseNegative_views plain.coherent sound.coherent known
    (plain.live _) alarm fun _ => plain.mem_of_homeOf? sound.coherent
  refine ⟨⟨coherent, (absorbed_applyFalseNegative ..).trans plain.untouched, ?_⟩, views⟩
  rw [applyFalseNegative]
  split
  · rename_i other previous
    obtain ⟨home, _, found⟩ := Option.bind_eq_some_iff.mp previous
    split at found
    · contradiction
    have there : other.id ∈ facts.ledger.situations :=
      (sound.coherent.id_eq found).symm ▸ Collections.mem_of_getElem? found
    exact (plain.settled.store there _).store (Collections.mem_of_getElem? known) _
  · exact plain.settled.store (Collections.mem_of_getElem? known) _

end Plain

/-- Whether feedback is heeded: it is about a situation of the ledger, and it either hides an alarm
or shows one that is found. -/
def Heeds (facts : Facts) (draft : Draft) (feedback : Feedback) : Prop :=
  feedback.situation ∈ facts.ledger.situations ∧
    (feedback.verdict = .falsePositive ∨
      feedback.verdict = .falseNegative ∧ (facts.findAlarm? draft feedback.alarm).isSome)

/-- What an item of feedback makes of a draft when it takes effect: it does what its verdict says,
in the situation that its own has ended up in. -/
def Carries (facts : Facts) (draft : Draft) (feedback : Feedback) (next : Draft) : Prop :=
  ∃ situation, facts.ledger.situations[situation.id]? = some situation ∧
    situation.id = draft.resolve feedback.situation ∧
    (feedback.verdict = .falsePositive ∧
        next = applyFalsePositive facts draft situation situation.id feedback.alarm ∨
      ∃ alarm : Alarm, feedback.verdict = .falseNegative ∧ alarm.id = feedback.alarm ∧
        next = applyFalseNegative facts draft situation situation.id alarm)

/-- Feedback that is not heeded changes nothing. -/
theorem applyFeedback_of_not_heeds {feedback : Feedback} (ignored : ¬ Heeds facts draft feedback)
    (there : draft.resolve feedback.situation ∈ facts.ledger.situations →
      feedback.situation ∈ facts.ledger.situations) :
    (applyFeedback facts draft feedback).1 = draft := by
  rw [applyFeedback]
  split
  · rfl
  rename_i situation found
  have known := there (Collections.mem_of_getElem? found)
  split
  · rename_i positive
    exact absurd ⟨known, .inl positive⟩ ignored
  · rename_i negative
    split
    · rename_i alarm found
      exact absurd ⟨known, .inr ⟨negative, by rw [found]; rfl⟩⟩ ignored
    · rfl
  · rfl

/-- Feedback that is heeded does what its verdict says. -/
theorem Heeds.carries (sound : facts.Sound) {feedback : Feedback}
    (heeded : Heeds facts draft feedback)
    (there : draft.resolve feedback.situation ∈ facts.ledger.situations) :
    Carries facts draft feedback (applyFeedback facts draft feedback).1 := by
  obtain ⟨situation, found⟩ := Collections.exists_getElem? there
  have named := sound.coherent.id_eq found
  refine ⟨situation, named ▸ found, named, ?_⟩
  rw [applyFeedback, found, ← named]
  rcases heeded.2 with positive | ⟨negative, present⟩
  · exact .inl ⟨positive, by rw [positive]⟩
  · obtain ⟨alarm, present⟩ := Option.isSome_iff_exists.mp present
    refine .inr ⟨alarm, negative, Facts.findAlarm?_id sound present, ?_⟩
    rw [negative]
    simp only [present]

/-- Feedback either changes nothing or does what its verdict says, in the situation it names. -/
theorem applyFeedback_cases (plain : draft.Plain facts.ledger) (sound : facts.Sound)
    (feedback : Feedback) :
    (applyFeedback facts draft feedback).1 = draft ∨
    ∃ situation, facts.ledger.situations[situation.id]? = some situation ∧
      situation.id = feedback.situation ∧
      (feedback.verdict = .falsePositive ∧ (applyFeedback facts draft feedback).1 =
          applyFalsePositive facts draft situation situation.id feedback.alarm ∨
        ∃ alarm : Alarm, feedback.verdict = .falseNegative ∧ alarm.id = feedback.alarm ∧
          (applyFeedback facts draft feedback).1 =
            applyFalseNegative facts draft situation situation.id alarm) := by
  by_cases heeded : Heeds facts draft feedback
  · have carries := heeded.carries sound (plain.resolve_eq _ ▸ heeded.1)
    rw [Carries, plain.resolve_eq] at carries
    exact .inr carries
  · exact .inl (applyFeedback_of_not_heeds heeded (plain.resolve_eq _ ▸ id))

theorem applyFeedback_plain (plain : draft.Plain facts.ledger) (sound : facts.Sound)
    (feedback : Feedback) : (applyFeedback facts draft feedback).1.Plain facts.ledger := by
  rcases applyFeedback_cases plain sound feedback with
    unchanged | ⟨situation, known, _, ⟨_, changed⟩ | ⟨alarm, _, _, changed⟩⟩
  · rw [unchanged]
    exact plain
  · rw [changed]
    exact (applyFalsePositive_spec plain sound known _).1
  · rw [changed]
    exact (applyFalseNegative_spec plain sound known alarm).1

/-- Only a false negative on an alarm ends where it belongs. -/
theorem applyFeedback_homeOf? (plain : draft.Plain facts.ledger) (sound : facts.Sound)
    {feedback : Feedback} {alarm home : String}
    (kept : feedback.verdict = .falseNegative → feedback.alarm ≠ alarm)
    (belongs : draft.homeOf? facts.ledger alarm = some home) :
    (applyFeedback facts draft feedback).1.homeOf? facts.ledger alarm = some home := by
  rcases applyFeedback_cases plain sound feedback with
    unchanged | ⟨situation, known, _, ⟨_, changed⟩ | ⟨found, negative, same, changed⟩⟩
  · rw [unchanged, belongs]
  · rw [changed, (applyFalsePositive_spec plain sound known _).2.2]
    split
    · rename_i same
      rw [same, belongs, Option.getD_some]
    · exact belongs
  · rw [changed, (applyFalseNegative_spec plain sound known found).2.2, if_neg, belongs]
    exact fun equal => kept negative (same ▸ equal)

/-- Only false positives and false negatives on an alarm change where it is shown. -/
theorem applyFeedback_copy? (plain : draft.Plain facts.ledger) (sound : facts.Sound)
    {feedback : Feedback} {alarm : String}
    (spared : feedback.verdict = .falsePositive ∨ feedback.verdict = .falseNegative →
      feedback.alarm ≠ alarm) (id : String) :
    (applyFeedback facts draft feedback).1.copy? facts.ledger id alarm =
      draft.copy? facts.ledger id alarm := by
  rcases applyFeedback_cases plain sound feedback with
    unchanged | ⟨situation, known, _, ⟨positive, changed⟩ | ⟨found, negative, same, changed⟩⟩
  · rw [unchanged]
  · rw [changed, (applyFalsePositive_spec plain sound known _).2.1, if_neg]
    exact fun both => spared (.inl positive) both.2
  · rw [changed, (applyFalseNegative_spec plain sound known found).2.1, if_neg]
    exact fun equal => spared (.inr negative) (same ▸ equal)

theorem exclusions_applyFalsePositive (facts : Facts) (draft : Draft) (situation : Situation)
    (id alarm : String) :
    (applyFalsePositive facts draft situation id alarm).exclusions =
        draft.exclusions.insert ⟨id, alarm⟩ ∧
      (applyFalsePositive facts draft situation id alarm).inclusions =
        draft.inclusions.erase ⟨id, alarm⟩ := by
  rw [applyFalsePositive]
  split <;> exact ⟨rfl, rfl⟩

theorem exclusions_applyFalseNegative (facts : Facts) (draft : Draft) (situation : Situation)
    (id : String) (alarm : Alarm) :
    (applyFalseNegative facts draft situation id alarm).exclusions =
        draft.exclusions.erase ⟨id, alarm.id⟩ ∧
      (applyFalseNegative facts draft situation id alarm).inclusions =
        draft.inclusions.insert ⟨id, alarm.id⟩ := by
  rw [applyFalseNegative]
  split <;> exact ⟨rfl, rfl⟩

/-- Only a false negative on an alarm in a situation asks to lift its exclusion. -/
theorem applyFeedback_inclusions (plain : draft.Plain facts.ledger) (sound : facts.Sound)
    {feedback : Feedback} {id alarm : String}
    (kept : feedback.verdict = .falseNegative → feedback.situation = id → feedback.alarm ≠ alarm)
    (absent : ⟨id, alarm⟩ ∉ draft.inclusions) :
    ⟨id, alarm⟩ ∉ (applyFeedback facts draft feedback).1.inclusions := by
  rcases applyFeedback_cases plain sound feedback with
    unchanged | ⟨situation, known, named, ⟨_, changed⟩ | ⟨found, negative, same, changed⟩⟩
  · rw [unchanged]
    exact absent
  · rw [changed, (exclusions_applyFalsePositive ..).2]
    exact fun member => absent (ExtTreeSet.mem_erase.mp member).2
  · rw [changed, (exclusions_applyFalseNegative ..).2]
    intro member
    rcases ExtTreeSet.mem_insert.mp member with equal | member
    · rw [LawfulEqOrd.compare_eq_iff_eq] at equal
      obtain ⟨rfl, rfl⟩ := Exclusion.mk.inj equal
      exact kept negative named.symm same.symm
    · exact absent member

/-- Only a false negative on an alarm in a situation takes back its exclusion. -/
theorem applyFeedback_exclusions (plain : draft.Plain facts.ledger) (sound : facts.Sound)
    {feedback : Feedback} {id alarm : String}
    (kept : feedback.verdict = .falseNegative → feedback.situation = id → feedback.alarm ≠ alarm)
    (present : ⟨id, alarm⟩ ∈ draft.exclusions) :
    ⟨id, alarm⟩ ∈ (applyFeedback facts draft feedback).1.exclusions := by
  rcases applyFeedback_cases plain sound feedback with
    unchanged | ⟨situation, known, named, ⟨_, changed⟩ | ⟨found, negative, same, changed⟩⟩
  · rw [unchanged]
    exact present
  · rw [changed, (exclusions_applyFalsePositive ..).1]
    exact ExtTreeSet.mem_insert.mpr (.inr present)
  · rw [changed, (exclusions_applyFalseNegative ..).1]
    refine ExtTreeSet.mem_erase.mpr ⟨fun equal => ?_, present⟩
    rw [LawfulEqOrd.compare_eq_iff_eq] at equal
    obtain ⟨rfl, rfl⟩ := Exclusion.mk.inj equal
    exact kept negative named.symm same.symm

/-- Apply items of feedback in order. -/
def applyItems (facts : Facts) (draft : Draft) (items : List Feedback) : Draft :=
  items.foldl (fun draft feedback => (applyFeedback facts draft feedback).1) draft

theorem runFeedback_eq :
    (runFeedback facts draft).1 = applyItems facts draft facts.feedback :=
  Collections.foldl_counted (fun draft feedback => (applyFeedback facts draft feedback).1)
    (fun draft feedback => (applyFeedback facts draft feedback).2.toNat) facts.feedback draft 0

section Items

variable (plain : draft.Plain facts.ledger) (sound : facts.Sound) {items : List Feedback}
  {id alarm : String}
include plain sound

theorem applyItems_plain : (applyItems facts draft items).Plain facts.ledger := by
  induction items generalizing draft with
  | nil => exact plain
  | cons first rest ih => exact ih (applyFeedback_plain plain sound first)

theorem applyItems_homeOf? {home : String}
    (kept : ∀ feedback ∈ items, feedback.verdict = .falseNegative → feedback.alarm ≠ alarm)
    (belongs : draft.homeOf? facts.ledger alarm = some home) :
    (applyItems facts draft items).homeOf? facts.ledger alarm = some home := by
  induction items generalizing draft with
  | nil => exact belongs
  | cons first rest ih =>
    exact ih (applyFeedback_plain plain sound first)
      (fun feedback member => kept feedback (List.mem_cons_of_mem _ member))
      (applyFeedback_homeOf? plain sound (kept first (List.mem_cons_self ..)) belongs)

theorem applyItems_copy?
    (spared : ∀ feedback ∈ items,
      feedback.verdict = .falsePositive ∨ feedback.verdict = .falseNegative →
        feedback.alarm ≠ alarm) (id : String) :
    (applyItems facts draft items).copy? facts.ledger id alarm =
      draft.copy? facts.ledger id alarm := by
  induction items generalizing draft with
  | nil => rfl
  | cons first rest ih =>
    have kept := applyFeedback_copy? plain sound (spared first (List.mem_cons_self ..)) id
    exact (ih (applyFeedback_plain plain sound first)
      fun feedback member => spared feedback (List.mem_cons_of_mem _ member)).trans kept

theorem applyItems_inclusions
    (kept : ∀ feedback ∈ items, feedback.verdict = .falseNegative → feedback.situation = id →
      feedback.alarm ≠ alarm) (absent : ⟨id, alarm⟩ ∉ draft.inclusions) :
    ⟨id, alarm⟩ ∉ (applyItems facts draft items).inclusions := by
  induction items generalizing draft with
  | nil => exact absent
  | cons first rest ih =>
    exact ih (applyFeedback_plain plain sound first)
      (fun feedback member => kept feedback (List.mem_cons_of_mem _ member))
      (applyFeedback_inclusions plain sound (kept first (List.mem_cons_self ..)) absent)

theorem applyItems_exclusions
    (kept : ∀ feedback ∈ items, feedback.verdict = .falseNegative → feedback.situation = id →
      feedback.alarm ≠ alarm) (present : ⟨id, alarm⟩ ∈ draft.exclusions) :
    ⟨id, alarm⟩ ∈ (applyItems facts draft items).exclusions := by
  induction items generalizing draft with
  | nil => exact present
  | cons first rest ih =>
    exact ih (applyFeedback_plain plain sound first)
      (fun feedback member => kept feedback (List.mem_cons_of_mem _ member))
      (applyFeedback_exclusions plain sound (kept first (List.mem_cons_self ..)) present)

end Items

/-- A false positive that no later false negative takes back keeps the alarm out. -/
theorem applyItems_falsePositive (plain : draft.Plain facts.ledger) (sound : facts.Sound)
    {earlier later : List Feedback} {feedback : Feedback}
    (positive : feedback.verdict = .falsePositive)
    (known : feedback.situation ∈ facts.ledger.situations)
    (kept : ∀ other ∈ later, other.verdict = .falseNegative →
      other.situation = feedback.situation → other.alarm ≠ feedback.alarm) :
    ⟨feedback.situation, feedback.alarm⟩ ∈
        (applyItems facts draft (earlier ++ feedback :: later)).exclusions ∧
      ⟨feedback.situation, feedback.alarm⟩ ∉
        (applyItems facts draft (earlier ++ feedback :: later)).inclusions := by
  have before : (applyItems facts draft earlier).Plain facts.ledger := applyItems_plain plain sound
  obtain ⟨situation, found⟩ := Collections.exists_getElem? known
  have split : applyItems facts draft (earlier ++ feedback :: later) =
      applyItems facts (applyFalsePositive facts (applyItems facts draft earlier) situation
        feedback.situation feedback.alarm) later := by
    have applied : (applyFeedback facts (applyItems facts draft earlier) feedback).1 =
        applyFalsePositive facts (applyItems facts draft earlier) situation
          feedback.situation feedback.alarm := by
      rw [applyFeedback, before.resolve_eq, found, positive]
    rw [applyItems, List.foldl_append, List.foldl_cons, ← applied]
    rfl
  have named : situation.id = feedback.situation := sound.coherent.id_eq found
  rw [split, ← named]
  rw [← named] at found kept
  obtain ⟨exclusions, inclusions⟩ := exclusions_applyFalsePositive facts
    (applyItems facts draft earlier) situation situation.id feedback.alarm
  have after := (applyFalsePositive_spec before sound found feedback.alarm).1
  refine ⟨applyItems_exclusions after sound kept ?_, applyItems_inclusions after sound kept ?_⟩
  · rw [exclusions]
    exact ExtTreeSet.mem_insert_self
  · rw [inclusions]
    simp

end Rule
end FaultCorrelation
