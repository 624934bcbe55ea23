import Cupping.Json.Record
import Mathlib.Data.List.Basic
import Mathlib.Tactic.ByContra

/-!
Reading the members of an object as a record. It comes down to the values under each name: there is
a record if every member has a name and no known name has two values, and the record has what stands
under the names.
-/

namespace Cupping.Json.Record

/-- The values that members have under a name. -/
def under (name : String) (members : List (Option String × Value)) : List Value :=
  (members.filter (·.1 = some name)).map Prod.snd

section Under

variable {name : String} {members before after : List (Option String × Value)} {value : Value}

@[simp]
theorem under_append : under name (before ++ after) = under name before ++ under name after := by
  rw [under, List.filter_append, List.map_append, under, under]

@[simp]
theorem under_cons_self :
    under name ((some name, value) :: members) = value :: under name members := by
  simp [under]

@[simp]
theorem under_cons_other {other : Option String} (differs : other ≠ some name) :
    under name ((other, value) :: members) = under name members := by
  simp [under, differs]

theorem under_absent (absent : ∀ member ∈ members, member.1 ≠ some name) :
    under name members = [] := by
  rw [under, List.filter_eq_nil_iff.mpr (by simpa using absent), List.map_nil]

end Under

/-- What there is of a field with some values in an object. -/
def slotOf (values : List Value) : Slot :=
  (values.head?.map Slot.given).getD .unnamed

/-- Whether members make a record: each has a name, and no known name is repeated. -/
def IsRecord (names : List String) (members : List (Option String × Value)) : Prop :=
  (∀ member ∈ members, member.1.isSome = true) ∧
    ∀ name ∈ names, (under name members).length ≤ 1

section Named

variable {members : List (Option String × Value)}

theorem mapM_named (members : List (String × Value)) :
    (members.map fun member => (some member.1, member.2)).mapM
        (fun member : Option String × Value => member.1.map (·, member.2)) = some members := by
  induction members with
  | nil => rfl
  | cons member rest ih =>
    rw [List.map_cons, List.mapM_cons, ih]
    rfl

theorem exists_named (named : ∀ member ∈ members, member.1.isSome = true) :
    ∃ pairs : List (String × Value), members = pairs.map fun pair => (some pair.1, pair.2) := by
  induction members with
  | nil => exact ⟨[], rfl⟩
  | cons member rest ih =>
    obtain ⟨first, others⟩ := List.forall_mem_cons.mp named
    obtain ⟨name, given⟩ := Option.isSome_iff_exists.mp first
    obtain ⟨pairs, rfl⟩ := ih others
    refine ⟨(name, member.2) :: pairs, ?_⟩
    rw [List.map_cons, ← given]

theorem mapM_unnamed (unnamed : ¬ ∀ member ∈ members, member.1.isSome = true) :
    members.mapM (fun member => member.1.map (·, member.2)) = none := by
  induction members with
  | nil => exact absurd (List.forall_mem_nil _) unnamed
  | cons member rest ih =>
    rw [List.mapM_cons]
    cases given : member.1 with
    | none => rfl
    | some name =>
      rw [List.forall_mem_cons, given, not_and] at unnamed
      rw [ih (unnamed rfl)]
      rfl

variable (name : String) (pairs : List (String × Value))

theorem under_named : under name (pairs.map fun pair => (some pair.1, pair.2)) =
    (pairs.filter (·.1 = name)).map Prod.snd := by
  rw [under, List.filter_map, List.map_map]
  congr 1
  exact List.filter_congr fun pair _ => by simp

theorem lookup_eq_under :
    pairs.lookup name = (under name (pairs.map fun pair => (some pair.1, pair.2))).head? := by
  rw [under_named]
  induction pairs with
  | nil => rfl
  | cons pair rest ih =>
    rw [List.lookup_cons, List.filter_cons, ih]
    by_cases same : pair.1 = name
    · simp [same]
    · simp [same, beq_false_of_ne (Ne.symm same)]

end Named

variable {names : List String} {members : List (Option String × Value)}

theorem ofMembers?_of_isRecord (isRecord : IsRecord names members) :
    ofMembers? names members =
      some (names.map fun name => (name, slotOf (under name members))) := by
  obtain ⟨named, once⟩ := isRecord
  obtain ⟨pairs, rfl⟩ := exists_named named
  have noneTwice : (names.any fun name =>
      decide (2 ≤ (pairs.filter (·.1 = name)).length)) = false := by
    rw [List.any_eq_false]
    intro name known
    have most := once name known
    rw [under_named, List.length_map] at most
    rw [decide_eq_true_eq]
    omega
  rw [ofMembers?, mapM_named, Option.bind_eq_bind, Option.bind_some, noneTwice,
    if_neg Bool.false_ne_true]
  simp only [lookup_eq_under, slotOf]

theorem ofMembers?_of_not_isRecord (noRecord : ¬ IsRecord names members) :
    ofMembers? names members = none := by
  by_cases named : ∀ member ∈ members, member.1.isSome = true
  · obtain ⟨pairs, rfl⟩ := exists_named named
    have twice : (names.any fun name =>
        decide (2 ≤ (pairs.filter (·.1 = name)).length)) = true := by
      rw [List.any_eq_true]
      by_contra never
      refine noRecord ⟨named, fun name known => ?_⟩
      by_contra more
      refine never ⟨name, known, decide_eq_true ?_⟩
      rw [under_named, List.length_map] at more
      omega
    rw [ofMembers?, mapM_named, Option.bind_eq_bind, Option.bind_some, twice, if_pos rfl]
  · rw [ofMembers?, mapM_unnamed named, Option.bind_eq_bind, Option.bind_none]

/-- A field of a record with a slot for each name is found by its name. -/
theorem slot_map {name : String} (known : name ∈ names) (slots : String → Slot) :
    slot (names.map fun name => (name, slots name)) name = slots name := by
  unfold slot
  induction names with
  | nil => contradiction
  | cons first rest ih =>
    rw [List.map_cons, List.lookup_cons]
    by_cases same : name = first
    · rw [same, beq_self_eq_true, Option.getD_some]
    · rw [beq_false_of_ne same]
      exact ih ((List.mem_cons.mp known).resolve_left same)

end Cupping.Json.Record
