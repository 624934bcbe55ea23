import Cupping.Proofs.Json.Members
import Mathlib.Data.List.Nodup
import Mathlib.Logic.Relation

/-!
Data that only differs where the reader of a record takes no notice: in the order of the members, in
members of other names, and in fields that are null instead of absent. What a record reads to
depends on its fields alone, so it is the same for all such data, whether it is accepted or not.
-/

namespace Cupping.Json

/-- A field of the records of some kind. -/
structure Field where
  name : String
  /-- Whether null says the same as leaving the field out. -/
  optional : Bool
  /-- The values of the field that differ only where its own reader takes no notice. -/
  alike : Value → Value → Prop

namespace Field

/-- A field that cannot be null, or where null is not the same as nothing. -/
def plain (name : String) : Field :=
  ⟨name, false, Eq⟩

def nullable (name : String) : Field :=
  ⟨name, true, Eq⟩

end Field

/-- A change to the members of an object with some fields. -/
inductive Edit (fields : List Field) :
    List (Option String × Value) → List (Option String × Value) → Prop
  | reorder {members others : List (Option String × Value)} (moved : members.Perm others) :
      Edit fields members others
  /-- A member of another name comes in, with any value. -/
  | ignored {before after : List (Option String × Value)} {name : String}
      (unknown : name ∉ fields.map Field.name) (value : Value) :
      Edit fields (before ++ after) (before ++ (some name, value) :: after)
  | null {before after : List (Option String × Value)} {field : Field} (known : field ∈ fields)
      (optional : field.optional = true)
      (absent : ∀ member ∈ before ++ after, member.1 ≠ some field.name) :
      Edit fields (before ++ after) (before ++ (some field.name, .null) :: after)
  | within {before after : List (Option String × Value)} {field : Field} (known : field ∈ fields)
      {value other : Value} (alike : field.alike value other) :
      Edit fields (before ++ (some field.name, value) :: after)
        (before ++ (some field.name, other) :: after)

/-- Whether two values differ only by changes to the members of an object, made or undone. -/
inductive Alike (fields : List Field) : Value → Value → Prop
  | same (value : Value) : Alike fields value value
  | object {members others : List (Option String × Value)}
      (edited : Relation.EqvGen (Edit fields) members others) :
      Alike fields (.object members) (.object others)

/-- Whether two values are the same, or lists of items that are alike one by one. -/
inductive AlikeItems (alike : Value → Value → Prop) : Value → Value → Prop
  | same (value : Value) : AlikeItems alike value value
  | list {items others : List Value} (each : List.Forall₂ alike items others) :
      AlikeItems alike (.list items) (.list others)

/-- What two records of alike data have of a field. -/
inductive Slot.Alike (field : Field) : Slot → Slot → Prop
  | same (slot : Slot) : Alike field slot slot
  | given {value other : Value} (alike : field.alike value other) :
      Alike field (.given value) (.given other)
  | null (optional : field.optional = true) : Alike field .unnamed (.given .null)

namespace Record

/-! What a change does to the values under the name of a field. -/

/-- What a change can do to the values of a field. -/
inductive Shift (field : Field) : List Value → List Value → Prop
  | moved {values others : List Value} (moved : values.Perm others) : Shift field values others
  | null (optional : field.optional = true) : Shift field [] [.null]
  | within {before after : List Value} {value other : Value} (alike : field.alike value other) :
      Shift field (before ++ value :: after) (before ++ other :: after)

variable {fields : List Field} {field : Field}

theorem Shift.length_le_one {values others : List Value} (shift : Shift field values others) :
    values.length ≤ 1 ↔ others.length ≤ 1 := by
  cases shift with
  | moved moved => rw [moved.length_eq]
  | null optional => exact iff_of_true (Nat.zero_le 1) (Nat.le_refl 1)
  | within alike => simp

theorem Shift.slotOf {values others : List Value} (shift : Shift field values others)
    (once : values.length ≤ 1) : Slot.Alike field (slotOf values) (slotOf others) := by
  cases shift with
  | moved moved =>
    have same : values = others := by
      rcases values with - | ⟨value, - | ⟨second, rest⟩⟩
      · exact moved.nil_eq
      · exact (List.perm_singleton.mp moved.symm).symm
      · simp at once
    exact same ▸ .same _
  | null optional => exact .null optional
  | @within before after value other alike =>
    have alone : before = [] := by
      cases before with
      | nil => rfl
      | cons first more => simp at once
    subst alone
    exact .given alike

variable {members others : List (Option String × Value)}

/-- A change only shifts the values of each field. -/
theorem shift_of_edit (distinct : (fields.map Field.name).Nodup) (edit : Edit fields members others)
    (known : field ∈ fields) :
    Shift field (under field.name members) (under field.name others) := by
  cases edit with
  | reorder moved => exact .moved ((moved.filter _).map _)
  | @ignored before after name unknown value =>
    have differs : some name ≠ some field.name := by
      rintro ⟨⟩
      exact unknown (List.mem_map_of_mem known)
    rw [under_append, under_append, under_cons_other differs]
    exact .moved (.refl _)
  | @null before after changed changedKnown optional absent =>
    by_cases same : changed.name = field.name
    · obtain rfl := List.inj_on_of_nodup_map distinct changedKnown known same
      rw [under_absent absent, under_append, under_cons_self,
        under_absent fun member held => absent member (List.mem_append_left _ held),
        under_absent fun member held => absent member (List.mem_append_right _ held)]
      exact .null optional
    · have differs : some changed.name ≠ some field.name := mt Option.some.inj same
      rw [under_append, under_append, under_cons_other differs]
      exact .moved (.refl _)
  | @within before after changed changedKnown value other alike =>
    by_cases same : changed.name = field.name
    · obtain rfl := List.inj_on_of_nodup_map distinct changedKnown known same
      rw [under_append, under_append, under_cons_self, under_cons_self]
      exact .within alike
    · have differs : some changed.name ≠ some field.name := mt Option.some.inj same
      rw [under_append, under_append, under_cons_other differs, under_cons_other differs]
      exact .moved (.refl _)

theorem named_of_edit (edit : Edit fields members others) :
    (∀ member ∈ members, member.1.isSome = true) ↔ ∀ member ∈ others, member.1.isSome = true := by
  cases edit with
  | reorder moved => exact forall_congr' fun member => by rw [moved.mem_iff]
  | ignored unknown value => simp [or_imp, forall_and]
  | null known optional absent => simp [or_imp, forall_and]
  | within known alike => simp [or_imp, forall_and]

/-- A change makes no record of what was none, and leaves none of what was one. -/
theorem isRecord_of_edit (distinct : (fields.map Field.name).Nodup)
    (edit : Edit fields members others) :
    IsRecord (fields.map Field.name) members ↔ IsRecord (fields.map Field.name) others := by
  refine and_congr (named_of_edit edit) ?_
  rw [List.forall_mem_map, List.forall_mem_map]
  exact forall₂_congr fun field known => (shift_of_edit distinct edit known).length_le_one

/-- Whether two records are of alike data. -/
def Alike (fields : List Field) (record other : Record) : Prop :=
  ∀ field ∈ fields, Slot.Alike field (record.slot field.name) (other.slot field.name)

section Reading

variable {α : Type} {decode : Record → Option α}
  (respects : ∀ {record other : Record}, record.Alike fields other → decode record = decode other)
  (distinct : (fields.map Field.name).Nodup)
include respects distinct

theorem ofMembers?_bind_of_edit (edit : Edit fields members others) :
    (ofMembers? (fields.map Field.name) members).bind decode =
      (ofMembers? (fields.map Field.name) others).bind decode := by
  by_cases isRecord : IsRecord (fields.map Field.name) members
  · rw [ofMembers?_of_isRecord isRecord,
      ofMembers?_of_isRecord ((isRecord_of_edit distinct edit).mp isRecord)]
    refine respects fun field known => ?_
    have name_mem := List.mem_map_of_mem (f := Field.name) known
    rw [slot_map name_mem, slot_map name_mem]
    exact (shift_of_edit distinct edit known).slotOf (isRecord.2 _ name_mem)
  · rw [ofMembers?_of_not_isRecord isRecord,
      ofMembers?_of_not_isRecord ((isRecord_of_edit distinct edit).not.mp isRecord)]

/-- Alike data is read as the same from its fields. -/
theorem ofValue?_bind_of_alike {value edited : Value} (alike : Json.Alike fields value edited) :
    (ofValue? (fields.map Field.name) value).bind decode =
      (ofValue? (fields.map Field.name) edited).bind decode := by
  cases alike with
  | same => rfl
  | object edited =>
    simp only [ofValue?]
    induction edited with
    | rel members others edit => exact ofMembers?_bind_of_edit respects distinct edit
    | refl members => rfl
    | symm members others _ ih => exact ih.symm
    | trans members middle others _ _ first second => exact first.trans second

end Reading

end Record

/-! Each way to read a field takes alike slots for the same. -/

namespace Slot.Alike

variable {α : Type} {record other : Record} {name : String} {alike : Value → Value → Prop}
  {read : Value → Option α}

theorem required
    (slots : Slot.Alike ⟨name, false, alike⟩ (record.slot name) (other.slot name))
    (reads : ∀ {value other}, alike value other → read value = read other) :
    record.required name read = other.required name read := by
  unfold Record.required
  generalize record.slot name = slot, other.slot name = changed at slots
  cases slots with
  | same => rfl
  | given alike => exact reads alike
  | null optional => contradiction

theorem defaulted
    (slots : Slot.Alike ⟨name, false, alike⟩ (record.slot name) (other.slot name))
    (reads : ∀ {value other}, alike value other → read value = read other) (default : α) :
    record.defaulted name default read = other.defaulted name default read := by
  unfold Record.defaulted
  generalize record.slot name = slot, other.slot name = changed at slots
  cases slots with
  | same => rfl
  | given alike => exact reads alike
  | null optional => contradiction

theorem optional
    (slots : Slot.Alike ⟨name, true, alike⟩ (record.slot name) (other.slot name))
    (reads : ∀ {value other}, alike value other →
      Record.orNull read value = Record.orNull read other) :
    record.optional name read = other.optional name read := by
  unfold Record.optional Record.defaulted
  generalize record.slot name = slot, other.slot name = changed at slots
  cases slots with
  | same => rfl
  | given alike => exact reads alike
  | null => rfl

theorem nullable
    (slots : Slot.Alike ⟨name, true, alike⟩ (record.slot name) (other.slot name))
    (reads : ∀ {value other}, alike value other →
      Record.orNull read value = Record.orNull read other) :
    record.nullable name read = other.nullable name read := by
  unfold Record.nullable
  generalize record.slot name = slot, other.slot name = changed at slots
  cases slots with
  | same => rfl
  | given alike => exact reads alike
  | null => rfl

end Slot.Alike

section Nested

variable {α : Type} {read : Value → Option α}

theorem orNull_of_alike {fields : List Field}
    (reads : ∀ {value other}, Alike fields value other → read value = read other)
    {value other : Value} (alike : Alike fields value other) :
    Record.orNull read value = Record.orNull read other := by
  cases alike with
  | same => rfl
  | object edited => exact congrArg (Option.map some) (reads (.object edited))

theorem listOf?_of_alike {alike : Value → Value → Prop}
    (reads : ∀ value other, alike value other → read value = read other)
    {value other : Value} (items : AlikeItems alike value other) :
    value.listOf? read = other.listOf? read := by
  cases items with
  | same => rfl
  | list each =>
    simp only [Value.listOf?]
    induction each with
    | nil => rfl
    | cons first _ ih => rw [List.mapM_cons, List.mapM_cons, reads _ _ first, ih]

end Nested
end Cupping.Json
