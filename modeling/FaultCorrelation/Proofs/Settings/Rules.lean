import Mathlib.Data.List.Induction
import Mathlib.Data.List.Nodup
import Mathlib.Data.Set.List
import FaultCorrelation.Settings.Basic

/-! # Rules by name

The settings list the rules of a policy by name, blanks around a name not counting. A list of names
can be taken if every name is known and no two of them are names of one rule; then the rules come in
the order of the names. Otherwise the names are read up to the first that is unknown or names a rule
that an earlier one named, and the fault is about that one.
-/

namespace FaultCorrelation

namespace Rule

theorem injective_name : Function.Injective name := fun _ _ => name_injective

/-- Whether a name is that of a rule. -/
def IsKnown (name : String) : Prop := ∃ rule : Rule, rule.name = Text.trim name

theorem ofName?_eq_some {name : String} {rule : Rule} :
    ofName? name = some rule ↔ rule.name = Text.trim name := by
  constructor
  · intro found
    simpa using List.find?_some found
  · intro named
    cases found : ofName? name with
    | none =>
      have missing := List.find?_eq_none.mp found rule (mem_defaultOrder rule)
      simp [named] at missing
    | some other =>
      have named' : other.name = Text.trim name := by simpa using List.find?_some found
      rw [name_injective (named'.trans named.symm)]

theorem ofName?_eq_none {name : String} : ofName? name = none ↔ ¬ IsKnown name := by
  rw [Option.eq_none_iff_forall_ne_some, IsKnown, not_exists]
  exact forall_congr' fun rule => not_congr ofName?_eq_some

end Rule

namespace Settings

/-- Whether every name is that of a rule, and no two names are of one rule. -/
structure AreRules (names : List String) : Prop where
  known : ∀ name ∈ names, Rule.IsKnown name
  distinct : (names.map Text.trim).Nodup

/-- Why a name cannot be taken after others. -/
inductive Offends (before : List String) (name : String) : SettingsFault → Prop where
  | unknown (strange : ¬ Rule.IsKnown name) : Offends before name (.unknownRule name)
  | repeated (known : Rule.IsKnown name) (again : Text.trim name ∈ before.map Text.trim) :
      Offends before name (.repeatedRule name)

variable {taken rules : List Rule} {names : List String}

theorem resolveRules_eq_ok (distinct : taken.Nodup) : resolveRules taken names = .ok rules ↔
    rules.map Rule.name = taken.map Rule.name ++ names.map Text.trim ∧ rules.Nodup := by
  induction names generalizing taken with
  | nil =>
    rw [resolveRules, List.map_nil, List.append_nil, Except.ok.injEq]
    constructor
    · rintro rfl
      exact ⟨rfl, distinct⟩
    · rintro ⟨same, _⟩
      exact (List.map_injective_iff.mpr Rule.injective_name same).symm
  | cons name rest ih =>
    rw [resolveRules]
    cases found : Rule.ofName? name with
    | none =>
      refine iff_of_false (by simp) fun ⟨same, _⟩ => ?_
      have member : Text.trim name ∈ rules.map Rule.name := by simp [same]
      obtain ⟨rule, _, named⟩ := List.mem_map.mp member
      exact Rule.ofName?_eq_none.mp found ⟨rule, named⟩
    | some rule =>
      have named := Rule.ofName?_eq_some.mp found
      dsimp only
      split
      · rename_i member
        refine iff_of_false (by simp) fun ⟨same, apart⟩ => ?_
        have names := apart.map Rule.injective_name
        rw [same, List.nodup_append] at names
        exact names.2.2 rule.name (List.mem_map_of_mem member) (Text.trim name) (by simp) named
      · rename_i absent
        have fresh : (taken ++ [rule]).Nodup := by
          rw [List.nodup_append_comm]
          exact List.nodup_cons.mpr ⟨absent, distinct⟩
        rw [ih fresh, List.map_append, List.append_assoc, List.map_cons, List.map_cons, named]
        rfl

/-- The rules are those that the names are of, in the order of the names. -/
theorem resolveRules_nil_eq_ok : resolveRules [] names = .ok rules ↔
    rules.map Rule.name = names.map Text.trim ∧ (names.map Text.trim).Nodup := by
  rw [resolveRules_eq_ok List.nodup_nil, List.map_nil, List.nil_append]
  refine and_congr_right fun same => ?_
  rw [← same, List.nodup_map_iff Rule.injective_name]

theorem exists_resolveRules_iff :
    (∃ rules, resolveRules [] names = .ok rules) ↔ AreRules names := by
  simp only [resolveRules_nil_eq_ok, exists_and_right]
  refine ⟨fun ⟨⟨rules, same⟩, distinct⟩ => ⟨fun name member => ?_, distinct⟩,
    fun ⟨known, distinct⟩ => ⟨?_, distinct⟩⟩
  · have named : Text.trim name ∈ rules.map Rule.name := same ▸ List.mem_map_of_mem member
    obtain ⟨rule, _, named⟩ := List.mem_map.mp named
    exact ⟨rule, named⟩
  · change names.map Text.trim ∈ Set.range (List.map Rule.name)
    rw [Set.range_list_map]
    intro trimmed member
    obtain ⟨name, listed, rfl⟩ := List.mem_map.mp member
    exact known name listed

theorem resolveRules_append (taken : List Rule) (before after : List String) :
    resolveRules taken (before ++ after) =
      (resolveRules taken before).bind fun rules => resolveRules rules after := by
  induction before generalizing taken with
  | nil => rfl
  | cons name rest ih =>
    rw [List.cons_append, resolveRules, resolveRules]
    cases Rule.ofName? name with
    | none => rfl
    | some rule =>
      dsimp only
      split
      · rfl
      · exact ih _

/-- A name that cannot be taken is a fault, whatever comes after it. -/
theorem Offends.resolveRules_cons {before : List String} {name : String} {cause : SettingsFault}
    (offends : Offends before name cause) (resolved : resolveRules [] before = .ok rules)
    (after : List String) : resolveRules rules (name :: after) = .error cause := by
  cases offends with
  | unknown strange => rw [resolveRules, Rule.ofName?_eq_none.mpr strange]
  | repeated known again =>
    obtain ⟨rule, named⟩ := known
    rw [← (resolveRules_nil_eq_ok.mp resolved).1, ← named] at again
    obtain ⟨other, member, same⟩ := List.mem_map.mp again
    obtain rfl := Rule.name_injective same
    rw [resolveRules, Rule.ofName?_eq_some.mpr named]
    exact if_pos member

theorem offends_of_singleton {before : List String} {name : String} {cause : SettingsFault}
    (resolved : resolveRules [] before = .ok rules)
    (failed : resolveRules rules [name] = .error cause) : Offends before name cause := by
  rw [resolveRules] at failed
  cases found : Rule.ofName? name with
  | none =>
    rw [found] at failed
    obtain rfl := Except.error.inj failed
    exact .unknown (Rule.ofName?_eq_none.mp found)
  | some rule =>
    have named := Rule.ofName?_eq_some.mp found
    rw [found] at failed
    dsimp only at failed
    split at failed
    · rename_i member
      obtain rfl := Except.error.inj failed
      refine .repeated ⟨rule, named⟩ ?_
      rw [← (resolveRules_nil_eq_ok.mp resolved).1, ← named]
      exact List.mem_map_of_mem member
    · contradiction

/-- The fault is about the first name that cannot be taken. -/
theorem resolveRules_eq_error {cause : SettingsFault} : resolveRules [] names = .error cause ↔
    ∃ before name after, names = before ++ name :: after ∧ AreRules before ∧
      Offends before name cause := by
  constructor
  · intro failed
    induction names using List.reverseRecOn with
    | nil => contradiction
    | append_singleton init last ih =>
      rw [resolveRules_append] at failed
      cases resolved : resolveRules [] init with
      | error earlier =>
        rw [resolved] at failed
        obtain ⟨before, name, after, rfl, rules, offends⟩ :=
          ih (resolved.trans (congrArg Except.error (Except.error.inj failed)))
        exact ⟨before, name, after ++ [last], by simp, rules, offends⟩
      | ok rules =>
        rw [resolved] at failed
        exact ⟨init, last, [], rfl, exists_resolveRules_iff.mp ⟨rules, resolved⟩,
          offends_of_singleton resolved failed⟩
  · rintro ⟨before, name, after, rfl, areRules, offends⟩
    obtain ⟨rules, resolved⟩ := exists_resolveRules_iff.mpr areRules
    rw [resolveRules_append, resolved]
    exact offends.resolveRules_cons resolved after

/-- Names that differ in blanks only are of one rule. The fault is about the later one as it is
written, not about the unknown name behind it. -/
example :
    resolveRules [] ["gc", " merge", "merge ", "split"] = .error (.repeatedRule "merge ") :=
  rfl

end Settings
end FaultCorrelation
