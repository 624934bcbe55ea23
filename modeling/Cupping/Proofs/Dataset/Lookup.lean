import Cupping.Row
import Mathlib.Data.List.Sort

/-!
Lookup by name: a map made of bindings knows the last one under each name, and a projection of a row
knows what the row knows about the chosen columns.
-/

namespace Cupping.NameMap

variable {α : Type}

theorem lookup_cons (name : String) (entry : String × α) (rest : List (String × α)) :
    (entry :: rest).lookup name = if name = entry.1 then some entry.2 else rest.lookup name := by
  rw [List.lookup_cons]
  by_cases same : name = entry.1
  · simp [same]
  · rw [beq_false_of_ne same, if_neg same]

theorem lookup_insertEntry (name other : String) (value : α) (entries : List (String × α)) :
    (insertEntry name value entries).lookup other =
      if other = name then some value else entries.lookup other := by
  induction entries with
  | nil => simp [insertEntry, lookup_cons]
  | cons entry rest ih =>
    simp only [insertEntry]
    split
    · rw [lookup_cons]
    · split
      · rename_i replaced
        by_cases same : other = name <;> simp [lookup_cons, same, ← replaced]
      · rename_i kept
        by_cases here : other = entry.1
        · simp [lookup_cons, here, Ne.symm kept]
        · simpa [lookup_cons, here] using ih

theorem get?_insert (map : NameMap α) (name other : String) (value : α) :
    (map.insert name value).get? other = if other = name then some value else map.get? other :=
  lookup_insertEntry name other value map.entries

@[simp]
theorem get?_empty (name : String) : (empty : NameMap α).get? name = none := rfl

/-- A later binding hides the earlier ones, and all of them hide the map they were added to. -/
theorem get?_foldl_insert (bindings : List (String × α)) (map : NameMap α) (name : String) :
    (bindings.foldl (fun map binding => map.insert binding.1 binding.2) map).get? name =
      (bindings.reverse.lookup name).or (map.get? name) := by
  induction bindings generalizing map with
  | nil => simp
  | cons binding rest ih =>
    rw [List.foldl_cons, ih, get?_insert, List.reverse_cons, List.lookup_append, Option.or_assoc]
    by_cases same : name = binding.1 <;> simp [lookup_cons, same]

theorem get?_ofList (bindings : List (String × α)) (name : String) :
    (ofList bindings).get? name = bindings.reverse.lookup name := by
  simp [ofList, get?_foldl_insert]

theorem get?_ofList_eq_none {bindings : List (String × α)} {name : String}
    (absent : ∀ binding ∈ bindings, binding.1 ≠ name) : (ofList bindings).get? name = none := by
  rw [get?_ofList, List.lookup_eq_none_iff]
  intro binding member
  simpa using (absent binding (List.mem_reverse.mp member)).symm

/-- Where all bindings of a name agree, the map has their value. -/
theorem get?_ofList_eq_some {bindings : List (String × α)} {name : String} {value : α}
    (member : (name, value) ∈ bindings)
    (single : ∀ binding ∈ bindings, binding.1 = name → binding.2 = value) :
    (ofList bindings).get? name = some value := by
  rw [get?_ofList]
  cases found : bindings.reverse.lookup name with
  | none =>
    have apart := List.lookup_eq_none_iff.mp found _ (List.mem_reverse.mpr member)
    simp at apart
  | some other =>
    obtain ⟨before, after, whole, -⟩ := List.lookup_eq_some_iff.mp found
    have listed : (name, other) ∈ bindings :=
      List.mem_reverse.mp (whole ▸ List.mem_append_right before (.head after))
    rw [← single _ listed rfl]

theorem mem_iff_lookup {entries : List (String × α)}
    (ascending : entries.Pairwise fun a b => a.1 < b.1) (name : String) (value : α) :
    (name, value) ∈ entries ↔ entries.lookup name = some value := by
  induction entries with
  | nil => simp
  | cons entry rest ih =>
    obtain ⟨below, later⟩ := List.pairwise_cons.mp ascending
    rw [List.mem_cons, lookup_cons]
    by_cases same : name = entry.1
    · have fresh : (name, value) ∉ rest := fun member =>
        String.lt_irrefl name (same ▸ below (name, value) member)
      simp [same ▸ fresh, same, Prod.ext_iff, eq_comm]
    · simp [same, ih later, Prod.ext_iff]

/-- Two maps with the same bindings are equal. -/
theorem ext_get? {first second : NameMap α} (same : ∀ name, first.get? name = second.get? name) :
    first = second := by
  obtain ⟨left, ascendingLeft⟩ := first
  obtain ⟨right, ascendingRight⟩ := second
  let above (a b : String × α) : Prop := a.1 < b.1
  have : Std.Irrefl above := ⟨fun entry => String.lt_irrefl entry.1⟩
  have : Std.Antisymm above := ⟨fun a b less more => absurd more (String.lt_asymm less)⟩
  have members : ∀ entry, entry ∈ left ↔ entry ∈ right := fun entry => by
    rw [mem_iff_lookup ascendingLeft, mem_iff_lookup ascendingRight]
    exact Eq.congr_left (same entry.1)
  have equal : left = right :=
    List.Pairwise.eq_of_mem_iff (r := above) ascendingLeft ascendingRight members
  subst equal
  rfl

section Chosen

variable {β : Type} {items : List β} {key : β → String} {value? : β → Option α}

/-- A map with one entry for every item that has a value has the value of an item under its key,
if items with that key have only one. -/
theorem get?_ofList_filterMap {item : β} (member : item ∈ items)
    (single : ∀ other ∈ items, key other = key item → value? other = value? item) :
    (ofList (items.filterMap fun item => (value? item).map (key item, ·))).get? (key item) =
      value? item := by
  cases found : value? item with
  | none =>
    refine get?_ofList_eq_none fun binding bound same => ?_
    obtain ⟨other, listed, made⟩ := List.mem_filterMap.mp bound
    obtain ⟨value, chosen, rfl⟩ := Option.map_eq_some_iff.mp made
    rw [single other listed same, found] at chosen
    cases chosen
  | some value =>
    refine get?_ofList_eq_some (List.mem_filterMap.mpr ⟨item, member, by simp [found]⟩) ?_
    intro binding bound same
    obtain ⟨other, listed, made⟩ := List.mem_filterMap.mp bound
    obtain ⟨value, chosen, rfl⟩ := Option.map_eq_some_iff.mp made
    rw [single other listed same, found] at chosen
    exact (Option.some.inj chosen).symm

theorem get?_ofList_filterMap_of_notMem {name : String} (absent : ∀ item ∈ items, key item ≠ name) :
    (ofList (items.filterMap fun item => (value? item).map (key item, ·))).get? name = none := by
  refine get?_ofList_eq_none fun binding bound => ?_
  obtain ⟨item, listed, made⟩ := List.mem_filterMap.mp bound
  obtain ⟨value, -, rfl⟩ := Option.map_eq_some_iff.mp made
  exact absent item listed

end Chosen

end Cupping.NameMap

namespace Cupping.Row

theorem get?_project (row : Row) (fields : List String) (name : String) :
    (row.project fields).get? name = if name ∈ fields then row.get? name else none := by
  unfold project
  split
  · rename_i listed
    exact NameMap.get?_ofList_filterMap listed fun other _ same => congrArg row.get? same
  · rename_i absent
    exact NameMap.get?_ofList_filterMap_of_notMem fun field listed same => absent (same ▸ listed)

end Cupping.Row
