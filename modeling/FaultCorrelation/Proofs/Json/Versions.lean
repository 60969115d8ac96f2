import FaultCorrelation.Json.Decoding
import FaultCorrelation.Proofs.Collections
import Mathlib.Data.List.Forall2

/-! # Versions of a document

Writers of records differ: a newer one writes fields that are not known here, and one leaves out
the fields that it has no value for where another writes null. `Versions.record` and `Versions.map`
say which documents come about in this way from a given one. Whatever is read from a document field
by field is read from all of its versions, since a field that is found is a version of the one that
was written, and one that is not found was null or missing before.
-/

namespace FaultCorrelation

theorem lookup_of_not_mem {β : Type} {name : String} {fields : List (String × β)}
    (missing : name ∉ fields.map Prod.fst) : fields.lookup name = none := by
  rw [List.lookup_eq_none_iff]
  rintro field member
  exact bne_iff_ne.mpr fun same => missing (List.mem_map.mpr ⟨field, member, same.symm⟩)

theorem isSome_lookup_iff {β : Type} {name : String} {fields : List (String × β)} :
    (fields.lookup name).isSome ↔ name ∈ fields.map Prod.fst := by
  rw [List.lookup_isSome_iff, List.mem_map]
  simp only [beq_iff_eq, eq_comm (a := name)]

theorem lookup_cons_of_ne {β : Type} {name other : String} (different : name ≠ other) (value : β)
    (rest : List (String × β)) : ((other, value) :: rest).lookup name = rest.lookup name := by
  rw [List.lookup_cons, beq_eq_false_iff_ne.mpr different]

/-- Which documents are versions of which. -/
abbrev Versions := Json → Json → Prop

namespace Versions

/-- The fields of a record with null ones dropped and unknown ones added, wherever they stand. What
the record knows as its fields is listed in `parts`, each with the versions that its value has. -/
inductive OfFields (parts : List (String × Versions)) :
    List (String × Json) → List (String × Json) → Prop where
  | nil : OfFields parts [] []
  | keep {name : String} {versions : Versions} {value version : Json}
      {fields entries : List (String × Json)} (known : parts.lookup name = some versions)
      (changed : versions value version) (rest : OfFields parts fields entries) :
      OfFields parts ((name, value) :: fields) ((name, version) :: entries)
  | drop {name : String} {fields entries : List (String × Json)}
      (rest : OfFields parts fields entries) : OfFields parts ((name, .null) :: fields) entries
  | add {name : String} (value : Json) {fields entries : List (String × Json)}
      (unknown : parts.lookup name = none) (rest : OfFields parts fields entries) :
      OfFields parts fields ((name, value) :: entries)

/-- The versions of an object, by what may become of its fields. -/
def object (change : List (String × Json) → List (String × Json) → Prop) : Versions :=
  fun document version =>
    ∃ fields entries, document = .record fields ∧ version = .record entries ∧ change fields entries

/-- The versions of a record. -/
def record (parts : List (String × Versions)) : Versions := object (OfFields parts)

/-- The versions of a map: its names stay, and the values have versions. -/
def map (versions : Versions) : Versions :=
  object (List.Forall₂ fun field entry => field.1 = entry.1 ∧ versions field.2 entry.2)

variable {parts : List (String × Versions)} {versions : Versions}
variable {fields entries : List (String × Json)} {name : String}

theorem object_iff {change : List (String × Json) → List (String × Json) → Prop} {version : Json} :
    object change (.record fields) version ↔
      ∃ entries, version = .record entries ∧ change fields entries := by
  constructor
  · rintro ⟨_, entries, same, rfl, changed⟩
    obtain rfl := (Document.object.inj same).1
    exact ⟨entries, rfl, changed⟩
  · rintro ⟨entries, rfl, changed⟩
    exact ⟨fields, entries, rfl, rfl, changed⟩

/-- What can be found in place of what was written under a name. -/
inductive Found (versions : Versions) : Option Json → Option Json → Prop where
  | absent : Found versions none none
  | dropped : Found versions (some .null) none
  | kept {value version : Json} (changed : versions value version) :
    Found versions (some value) (some version)

namespace OfFields

theorem lookup (loosened : OfFields parts fields entries)
    (distinct : (fields.map Prod.fst).Nodup) (known : parts.lookup name = some versions) :
    Found versions (fields.lookup name) (entries.lookup name) := by
  induction loosened with
  | nil => exact .absent
  | @keep other own value version fields entries knows changed rest ih =>
    rw [List.map_cons, List.nodup_cons] at distinct
    by_cases same : name = other
    · subst same
      obtain rfl : own = versions := Option.some.inj (knows.symm.trans known)
      rw [List.lookup_cons_self, List.lookup_cons_self]
      exact .kept changed
    · rw [lookup_cons_of_ne same, lookup_cons_of_ne same]
      exact ih distinct.2
  | @drop other fields entries rest ih =>
    rw [List.map_cons, List.nodup_cons] at distinct
    by_cases same : name = other
    · subst same
      -- The name occurs once, so that nothing is found behind the null that was dropped.
      have found := ih distinct.2
      rw [lookup_of_not_mem distinct.1] at found
      rw [List.lookup_cons_self]
      generalize entries.lookup name = left at found
      cases found with
      | absent => exact .dropped
    · rw [lookup_cons_of_ne same]
      exact ih distinct.2
  | @add other value fields entries unknown rest ih =>
    have different : name ≠ other := by
      rintro rfl
      rw [unknown] at known
      contradiction
    rw [lookup_cons_of_ne different]
    exact ih distinct

/-- Of the fields that a record knows no more occur than were written. -/
theorem sublist (loosened : OfFields parts fields entries) :
    ((entries.map Prod.fst).filter fun name => (parts.lookup name).isSome).Sublist
      (fields.map Prod.fst) := by
  induction loosened with
  | nil => exact .slnil
  | keep known _ _ ih =>
    rw [List.map_cons, List.map_cons, List.filter_cons_of_pos (by rw [known]; rfl)]
    exact ih.cons_cons _
  | drop _ ih => exact ih.cons _
  | add _ unknown _ ih =>
    rw [List.map_cons, List.filter_cons_of_neg (by rw [unknown]; exact Bool.false_ne_true)]
    exact ih

end OfFields
end Versions

mutual
/-- Nothing in a complete document keeps it from being passed over. -/
theorem Document.skip_eq : ∀ document : Json, document.skip = .ok ()
  | .null | .bool _ | .int _ | .float _ | .text _ => by simp [skip]
  | .list items => by rw [skip, skipItems_eq items]
  | .object fields none => by
    rw [skip, skipFields_eq fields]
    rfl

theorem Document.skipItems_eq : ∀ items : List Json, skipItems items = .ok ()
  | [] => by rw [skipItems]
  | item :: rest => by
    rw [skipItems, skip_eq item, skipItems_eq rest]
    rfl

theorem Document.skipFields_eq : ∀ fields : List (String × Json), skipFields fields = .ok ()
  | [] => by rw [skipFields]
  | (_, value) :: rest => by
    rw [skipFields, skip_eq value, skipFields_eq rest]
    rfl
end

namespace Fields

variable {α β : Type} {find : String → Option Json}

/-- The fields of an object pass if every known one that is found passes, and none is repeated. -/
theorem checkFields_eq {known : List (String × Decoder Empty Unit)} {seen : List String}
    {entries : List (String × Json)}
    (once : ((entries.map Prod.fst).filter fun name => (known.lookup name).isSome).Nodup)
    (fresh : ∀ name ∈ seen, name ∉ entries.map Prod.fst)
    (passes : ∀ (name : String) (check : Decoder Empty Unit) (value : Json),
      known.lookup name = some check → entries.lookup name = some value → check value = .ok ()) :
    checkFields known seen entries = .ok () := by
  -- What is seen already does not occur again, whatever is still to come.
  induction entries generalizing seen with
  | nil => rfl
  | cons entry rest ih =>
    obtain ⟨name, value⟩ := entry
    have unseen : ∀ other ∈ seen, other ∉ rest.map Prod.fst := fun other member listed =>
      fresh other member (List.mem_cons_of_mem _ listed)
    rw [checkFields]
    cases asked : known.lookup name with
    | none =>
      rw [List.map_cons, List.filter_cons_of_neg (by simp [asked])] at once
      rw [Document.skip_eq]
      refine ih once unseen fun other check found knows there => passes other check found knows ?_
      rw [lookup_cons_of_ne, there]
      rintro rfl
      rw [asked] at knows
      contradiction
    | some check =>
      rw [List.map_cons, List.filter_cons_of_pos (by simp [asked]), List.nodup_cons] at once
      have last : name ∉ rest.map Prod.fst := fun listed =>
        once.1 (List.mem_filter.mpr ⟨listed, by simp [asked]⟩)
      have new : seen.contains name = false := by
        rw [List.contains_eq_mem, decide_eq_false_iff_not]
        exact fun member => fresh name member (List.mem_cons_self ..)
      have passed : check value = .ok () := passes name check value asked List.lookup_cons_self
      simp only [new, passed]
      refine ih once.2 (List.forall_mem_cons.mpr ⟨last, unseen⟩)
        fun other check found knows there => passes other check found knows ?_
      rw [lookup_cons_of_ne, there]
      rintro rfl
      rw [lookup_of_not_mem last] at there
      contradiction

/-- Whether a record is read as a value from what is found under the names of its fields, each of
which passes its check. -/
structure Reads (fields : Fields Empty α) (find : String → Option Json) (value : α) : Prop where
  build_eq : fields.build .named find = .ok value
  passes (name : String) (check : Decoder Empty Unit) (document : Json) :
    (name, check) ∈ fields.known → find name = some document → check document = .ok ()

namespace Reads

theorem pure (value : α) : (Fields.pure value : Fields Empty α).Reads find value :=
  ⟨rfl, fun _ _ _ member => absurd member List.not_mem_nil⟩

theorem seq {first : Fields Empty (α → β)} {second : Fields Empty α} {make : α → β} {value : α}
    (makes : first.Reads find make) (reads : second.Reads find value) :
    (first <*> second).Reads find (make value) where
  build_eq := by
    have built : (first <*> second).build .named find = first.build .named find >>= fun make =>
        second.build .named find >>= fun value => Pure.pure (make value) := rfl
    rw [built, makes.build_eq, reads.build_eq]
    rfl
  passes name check document member := (List.mem_append.mp member).elim
    (makes.passes name check document) (reads.passes name check document)

theorem map {fields : Fields Empty α} {value : α} (make : α → β) (reads : fields.Reads find value) :
    (make <$> fields).Reads find (make value) :=
  (pure make).seq reads

/-- A field that is found where it has to be, or has an answer where it is not. -/
theorem field {name : String} {decode : Decoder Empty α}
    {missing : RecordForm → Except DecodeFault α} {value : α}
    (answers : (find name).elim (missing .named) decode = .ok value) :
    (Fields.field name decode missing).Reads find value where
  build_eq := answers
  passes other check document member found := by
    obtain ⟨rfl, rfl⟩ := Prod.mk.inj (List.mem_singleton.mp member)
    rw [found, Option.elim_some] at answers
    exact congrArg (Except.map fun _ => ()) answers

/-- A field that was written with another value than null. -/
theorem of_written {name : String} {versions : Versions} {written : Json} {decode : Decoder Empty α}
    {missing : RecordForm → Except DecodeFault α} {value : α}
    (found : Versions.Found versions (some written) (find name)) (solid : written ≠ .null)
    (reads : ∀ version, versions written version → decode version = .ok value) :
    (Fields.field name decode missing).Reads find value := by
  apply field
  generalize find name = there at found
  cases found with
  | dropped => exact absurd rfl solid
  | kept changed => exact reads _ changed

theorem of_scalar {name : String} {written : Json} {decode : Decoder Empty α}
    {missing : RecordForm → Except DecodeFault α} {value : α}
    (found : Versions.Found Eq (some written) (find name)) (solid : written ≠ .null)
    (decoded : decode written = .ok value) : (Fields.field name decode missing).Reads find value :=
  of_written found solid fun _ same => same ▸ decoded

/-- A field that was left out or written as null if there was nothing to write. -/
theorem optional {name : String} {written : Option Json} {decode : Decoder Empty α}
    {value : Option α} (encode : α → Json) (found : Versions.Found Eq written (find name))
    (writes : written.getD .null = value.elim .null encode) (solid : ∀ item, encode item ≠ .null)
    (reads : ∀ item, decode (encode item) = .ok item) :
    (Fields.optional name decode).Reads find value := by
  have decoded : Decoder.optional decode (written.getD .null) = .ok value := by
    rw [writes]
    cases value with
    | none => rfl
    | some item =>
      have other : Decoder.optional decode (encode item) = (decode (encode item)).map some := by
        cases encoded : encode item with
        | null => exact absurd encoded (solid item)
        | _ => rfl
      exact other.trans (congrArg (Except.map some) (reads item))
  apply field
  generalize find name = there at found
  cases found with
  | absent => exact decoded
  | dropped => exact decoded
  | kept same => exact same ▸ decoded

/-- What is read field by field from the entries of an object is read from the object, unless a
field is repeated. -/
theorem decode {fields : Fields Empty α} {entries : List (String × Json)} {value : α}
    (reads : fields.Reads (fun name => entries.lookup name) value)
    (once : ((entries.map Prod.fst).filter fun name => (fields.known.lookup name).isSome).Nodup) :
    fields.decode (.record entries) = .ok value := by
  have checked : checkFields fields.known [] entries = .ok () := by
    refine checkFields_eq once (fun _ member => absurd member List.not_mem_nil) ?_
    intro name check value known found
    obtain ⟨before, after, listed, _⟩ := List.lookup_eq_some_iff.mp known
    refine reads.passes name check value ?_ found
    rw [listed]
    exact List.mem_append_right _ (List.mem_cons_self ..)
  rw [Document.record, Fields.decode, checked]
  exact reads.build_eq

end Reads

/-- What is read from the fields of a record that are found in its versions. -/
theorem decode_of_version {fields : Fields Empty α} {parts : List (String × Versions)}
    {written : List (String × Json)} {version : Json} {value : α}
    (names : fields.known.map Prod.fst = parts.map Prod.fst)
    (distinct : (written.map Prod.fst).Nodup)
    (versioned : Versions.record parts (.record written) version)
    (reads : ∀ find : String → Option Json,
      (∀ (name : String) (versions : Versions), parts.lookup name = some versions →
        Versions.Found versions (written.lookup name) (find name)) → fields.Reads find value) :
    fields.decode version = .ok value := by
  obtain ⟨entries, rfl, loosened⟩ := Versions.object_iff.mp versioned
  refine (reads _ fun name versions known => loosened.lookup distinct known).decode ?_
  have same (name : String) :
      (fields.known.lookup name).isSome = (parts.lookup name).isSome := by
    rw [Bool.eq_iff_iff, isSome_lookup_iff, names, isSome_lookup_iff]
  simp only [same]
  exact loosened.sublist.nodup distinct

end Fields

namespace Decoder

variable {α : Type} {decode : Decoder Empty α}

theorem entries_eq {pairs : List (String × α)} {entries : List (String × Json)}
    (read : List.Forall₂ (fun pair entry => pair.1 = entry.1 ∧ decode entry.2 = .ok pair.2)
      pairs entries) : Decoder.entries decode entries =
        .ok (pairs.foldl (fun done pair => done.insert pair.1 pair.2) ∅) := by
  rw [Decoder.entries]
  generalize (∅ : Std.ExtTreeMap String α) = done
  induction read generalizing done with
  | nil => rfl
  | @cons pair entry pairs entries first rest ih =>
    obtain ⟨same, decoded⟩ := first
    rw [List.foldlM_cons, List.foldl_cons, decoded, same]
    exact ih _

/-- A map is read from the versions of what its entries were written as. -/
theorem map_of_version {values : Std.ExtTreeMap String α} {encode : α → Json} {versions : Versions}
    {version : Json}
    (versioned : Versions.map versions
      (.record (values.toList.map fun entry => (entry.1, encode entry.2))) version)
    (reads : ∀ (name : String) (value : α), values[name]? = some value →
      ∀ version, versions (encode value) version → decode version = .ok value) :
    Decoder.map decode version = .ok values := by
  obtain ⟨entries, rfl, loosened⟩ := Versions.object_iff.mp versioned
  rw [List.forall₂_map_left_iff] at loosened
  have read : List.Forall₂ (fun pair entry => pair.1 = entry.1 ∧ decode entry.2 = .ok pair.2)
      values.toList entries := by
    have shown : ∀ entry ∈ values.toList, values[entry.1]? = some entry.2 :=
      fun entry member => Std.ExtTreeMap.mem_toList_iff_getElem?_eq_some.mp member
    refine ((List.forall₂_and_left _ _).mpr ⟨shown, loosened⟩).imp ?_
    rintro entry version ⟨shown, same, changed⟩
    exact ⟨same, reads entry.1 entry.2 shown version.2 changed⟩
  rw [Document.record, Decoder.map, entries_eq read, Collections.foldl_insert_toList]
  rfl

end Decoder
end FaultCorrelation
