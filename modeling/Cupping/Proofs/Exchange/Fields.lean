import Cupping.Exchange.Run
import Cupping.Json.Record
import Cupping.Proofs.Json.Members
import Cupping.Proofs.Json.RoundTrip
import Cupping.Proofs.RunId
import Mathlib.Data.List.Nodup

/-!
The fields of records, read from the data that is written for them. A field is found by its name
alone, and each kind of value reads back from its own form.
-/

namespace Cupping

namespace Json.Record

variable {names : List String} {members : List (String × Value)} {name : String} {value : Value}

/-- The fields of some names among some members. -/
def slots (names : List String) (members : List (String × Value)) : Record :=
  names.map fun name => (name, ((members.lookup name).map Slot.given).getD .unnamed)

theorem length_filter_named (distinct : (members.map Prod.fst).Nodup) (name : String) :
    (members.filter (·.1 = name)).length ≤ 1 := by
  have once := List.nodup_iff_count_le_one.mp distinct name
  rw [List.count, List.countP_map, List.countP_eq_length_filter] at once
  exact once

/-- Members of distinct names make a record. -/
theorem ofValue?_record (distinct : (members.map Prod.fst).Nodup) (names : List String) :
    ofValue? names (.record members) = some (slots names members) := by
  have isRecord : IsRecord names (members.map fun member => (some member.1, member.2)) := by
    refine ⟨List.forall_mem_map.mpr fun _ _ => rfl, fun name _ => ?_⟩
    rw [under_named, List.length_map]
    exact length_filter_named distinct name
  rw [Value.record, ofValue?, ofMembers?_of_isRecord isRecord]
  simp only [slots, slotOf, lookup_eq_under]

theorem slot_slots (named : name ∈ names) :
    (slots names members).slot name = ((members.lookup name).map Slot.given).getD .unnamed :=
  slot_map named _

section Named

variable {α : Type} (named : name ∈ names)
include named

@[simp]
theorem required_slots (read : Value → Option α) :
    (slots names members).required name read = (members.lookup name).bind read := by
  rw [required, slot_slots named]
  cases members.lookup name <;> rfl

@[simp]
theorem defaulted_slots (default : α) (read : Value → Option α) :
    (slots names members).defaulted name default read =
      ((members.lookup name).map read).getD (some default) := by
  rw [defaulted, slot_slots named]
  cases members.lookup name <;> rfl

@[simp]
theorem optional_slots (read : Value → Option α) :
    (slots names members).optional name read =
      ((members.lookup name).map (orNull read)).getD (some none) :=
  defaulted_slots named none (orNull read)

@[simp]
theorem nullable_slots (read : Value → Option α) :
    (slots names members).nullable name read =
      ((members.lookup name).map (orNull read)).getD (some none) := by
  rw [nullable, slot_slots named]
  cases members.lookup name <;> rfl

end Named

end Json.Record

namespace NameMap

variable {α : Type}

theorem insertEntry_last {name : String} {value : α} {entries : List (String × α)}
    (above : ∀ entry ∈ entries, entry.1 < name) :
    insertEntry name value entries = entries ++ [(name, value)] := by
  induction entries with
  | nil => rfl
  | cons entry rest ih =>
    obtain ⟨here, later⟩ := List.forall_mem_cons.mp above
    have notBelow : ¬ name < entry.1 := String.lt_asymm here
    have other : name ≠ entry.1 := fun same => String.lt_irrefl name (by rwa [← same] at here)
    rw [insertEntry, if_neg notBelow, if_neg other, ih later, List.cons_append]

theorem entries_foldl_insert {bindings : List (String × α)} (map : NameMap α)
    (ascending : (map.entries ++ bindings).Pairwise fun a b => a.1 < b.1) :
    (bindings.foldl (fun map binding => map.insert binding.1 binding.2) map).entries =
      map.entries ++ bindings := by
  induction bindings generalizing map with
  | nil => rw [List.foldl_nil, List.append_nil]
  | cons binding rest ih =>
    have above : ∀ entry ∈ map.entries, entry.1 < binding.1 := fun entry member =>
      (List.pairwise_append.mp ascending).2.2 entry member binding List.mem_cons_self
    have last : (map.insert binding.1 binding.2).entries = map.entries ++ [binding] :=
      insertEntry_last above
    rw [List.foldl_cons, ih _ (by simpa [last] using ascending), last, List.append_assoc,
      List.singleton_append]

/-- A map is made again from its entries. -/
theorem ofList_entries (map : NameMap α) : ofList map.entries = map := by
  have same : (ofList map.entries).entries = map.entries :=
    entries_foldl_insert empty (by simpa [empty] using map.ascending)
  cases made : ofList map.entries
  cases map
  rw [made] at same
  subst same
  rfl

end NameMap

namespace Json.Value

@[simp]
theorem text?_text (value : String) : (text value).text? = some value :=
  rfl

@[simp]
theorem bool?_bool (value : Bool) : (bool value).bool? = some value :=
  rfl

@[simp]
theorem float?_real (value : Float) : (number (.real value)).float? = some value :=
  rfl

theorem orNull_of_ne_null {α : Type} {value : Value} (filled : value ≠ null)
    (read : Value → Option α) : Record.orNull read value = (read value).map some := by
  unfold Record.orNull
  split
  · contradiction
  · rfl

theorem orNull_map {α : Type} {write : α → Value} {read : Value → Option α}
    (back : ∀ a, read (write a) = some a) (filled : ∀ a, write a ≠ null) (given : Option α) :
    Record.orNull read ((given.map write).getD null) = some given := by
  cases given with
  | none => rfl
  | some a =>
    rw [Option.map_some, Option.getD_some, orNull_of_ne_null (filled a), back, Option.map_some]

@[simp]
theorem orNull_ofFloat? (given : Option Float) :
    Record.orNull float? (ofFloat? given) = some given := by
  cases given <;> rfl

@[simp]
theorem orNull_ofText? (given : Option String) :
    Record.orNull text? (ofText? given) = some given := by
  cases given <;> rfl

theorem listOf?_map {α : Type} {write : α → Value} {read : Value → Option α}
    (back : ∀ a, read (write a) = some a) (items : List α) :
    listOf? read (list (items.map write)) = some items := by
  rw [listOf?]
  induction items with
  | nil => rfl
  | cons item rest ih =>
    rw [List.map_cons, List.mapM_cons, back, ih]
    rfl

@[simp]
theorem integer64?_toInt (value : Int64) :
    integer64? (number (.whole value.toInt)) = some value := by
  have low := value.le_toInt
  have high := value.toInt_lt
  simp only [integer64?, wholeIn?, Nat.pow_eq]
  rw [if_pos (by omega), Option.map_some, Int64.ofInt_toInt]

end Json.Value

@[simp]
theorem word32?_wordToJson (value : UInt32) : (wordToJson value).word32? = some value := by
  have high := value.toNat_lt
  simp only [wordToJson, Json.Value.word32?, Json.Value.wholeIn?, Nat.pow_eq]
  rw [if_pos (by omega), Option.map_some, Int.toNat_natCast, UInt32.ofNat_toNat]

@[simp]
theorem textsOfJson?_textsToJson (values : List String) :
    textsOfJson? (textsToJson values) = some values :=
  Json.Value.listOf?_map Json.Value.text?_text values

@[simp]
theorem RunId.ofJson?_write (id : RunId) : RunId.ofJson? (.text id.write) = some id :=
  ofText?_write id

@[simp]
theorem ScoringMethod.ofJson?_name (method : ScoringMethod) :
    ScoringMethod.ofJson? (.text method.name) = some method := by
  cases method <;> rfl

@[simp]
theorem RunStatus.ofJson?_name (status : RunStatus) :
    RunStatus.ofJson? (.text status.name) = some status := by
  cases status <;> rfl

@[simp]
theorem TrialState.choice?_name (state : TrialState) :
    Json.Value.choice? TrialState.ofName? (.text state.name) = some state := by
  cases state <;> rfl

@[simp]
theorem ParameterKind.choice?_name (kind : ParameterKind) :
    Json.Value.choice? ParameterKind.ofName? (.text kind.name) = some kind := by
  cases kind <;> rfl

end Cupping
