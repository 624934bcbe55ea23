/-!
Maps from names to values that hold their entries in ascending order of the names. Two maps with
the same bindings are equal, and printing one needs no sorting.
-/

namespace Cupping

/-- Values under distinct names, in ascending order of the names. -/
structure NameMap (α : Type) where
  entries : List (String × α)
  ascending : entries.Pairwise fun a b => a.1 < b.1
deriving DecidableEq

namespace NameMap

variable {α : Type}

/-- Puts a value under a name into a list of entries, in place of an earlier one. -/
def insertEntry (name : String) (value : α) : List (String × α) → List (String × α)
  | [] => [(name, value)]
  | entry :: rest =>
    if name < entry.1 then (name, value) :: entry :: rest
    else if name = entry.1 then (name, value) :: rest
    else entry :: insertEntry name value rest

theorem mem_insertEntry {name : String} {value : α} {entries : List (String × α)}
    {entry : String × α} (member : entry ∈ insertEntry name value entries) :
    entry = (name, value) ∨ entry ∈ entries := by
  induction entries with
  | nil => simpa [insertEntry] using member
  | cons head rest ih =>
    simp only [insertEntry] at member
    split at member
    · simpa using member
    · split at member
      · rcases List.mem_cons.mp member with same | old
        · exact .inl same
        · exact .inr (List.mem_cons_of_mem _ old)
      · rcases List.mem_cons.mp member with same | old
        · exact .inr (by simp [same])
        · exact (ih old).imp_right (List.mem_cons_of_mem _)

theorem ascending_insertEntry {name : String} {value : α} {entries : List (String × α)}
    (ascending : entries.Pairwise fun a b => a.1 < b.1) :
    (insertEntry name value entries).Pairwise fun a b => a.1 < b.1 := by
  induction entries with
  | nil => simp [insertEntry]
  | cons head rest ih =>
    obtain ⟨below, later⟩ := List.pairwise_cons.mp ascending
    simp only [insertEntry]
    split
    · rename_i first
      refine List.pairwise_cons.mpr ⟨fun entry member => ?_, ascending⟩
      rcases List.mem_cons.mp member with same | old
      · simpa [same] using first
      · exact String.lt_trans first (below entry old)
    · rename_i notFirst
      split
      · rename_i same
        exact List.pairwise_cons.mpr ⟨fun entry member => same ▸ below entry member, later⟩
      · rename_i different
        refine List.pairwise_cons.mpr ⟨fun entry member => ?_, ih later⟩
        rcases mem_insertEntry member with new | old
        · subst new
          exact Decidable.byContradiction fun notBelow =>
            different (String.le_antisymm notBelow notFirst)
        · exact below entry old

def empty : NameMap α :=
  ⟨[], .nil⟩

instance : Inhabited (NameMap α) := ⟨empty⟩

instance : EmptyCollection (NameMap α) := ⟨empty⟩

/-- Puts a value under a name, in place of an earlier one. -/
def insert (map : NameMap α) (name : String) (value : α) : NameMap α :=
  ⟨insertEntry name value map.entries, ascending_insertEntry map.ascending⟩

/-- The map of a list of bindings; of two with one name the later wins. -/
def ofList (bindings : List (String × α)) : NameMap α :=
  bindings.foldl (fun map binding => map.insert binding.1 binding.2) empty

def get? (map : NameMap α) (name : String) : Option α :=
  map.entries.lookup name

def contains (map : NameMap α) (name : String) : Bool :=
  (map.get? name).isSome

/-- Whether there are no entries. -/
def isEmpty (map : NameMap α) : Bool :=
  map.entries.isEmpty

end NameMap
end Cupping
