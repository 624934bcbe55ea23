import Cupping.Proofs.Dataset.Metadata
import Mathlib.Data.List.Nodup

/-!
What is known about a dataset that was accepted: its columns are the ones its metadata describes,
in that order, no two columns share a name, and every numeric parameter has a range.
-/

namespace Cupping

namespace Parameter

/-- A numeric parameter has a range. -/
def IsRanged (parameter : Parameter) : Prop :=
  parameter.kind.isNumeric = true → parameter.range.isSome = true

theorem IsProper.isRanged {parameter : Parameter} (proper : parameter.IsProper) :
    parameter.IsRanged := by
  intro isNumeric
  obtain ⟨range, found, -⟩ := proper.numeric isNumeric
  rw [found, Option.isSome_some]

end Parameter

namespace Column

/-- The name of the parameter that a row of metadata describes, if it describes one. -/
def parameterName? (row : Row) : Option String :=
  if (row.get? "type").map (fun cell => Text.lowerAscii cell.display) = some "parameter" then
    (row.get? "name").map Cell.display
  else none

/-- The parameter that a column holds. -/
def parameter? : Column → Option Parameter
  | .parameter described => some described
  | .score _ => none

/-- The person whose scores a column holds. -/
def person? : Column → Option String
  | .parameter _ => none
  | .score person => some person

theorem Labels.parameterName? {row : Row} {name type : String} (labels : Labels row name type) :
    parameterName? row = if type = "parameter" then some name else none := by
  have typed : (row.get? "type").map (fun cell => Text.lowerAscii cell.display) = some type := by
    rw [← labels.type, said?, Option.map_map]
    rfl
  have named : (row.get? "name").map Cell.display = some name := labels.name
  simp only [Column.parameterName?, typed, named, Option.some.injEq]

theorem Describes.parameterName? {row : Row} {column : Column} (describes : Describes row column) :
    column.parameter?.map Parameter.name = Column.parameterName? row := by
  cases describes with
  | score labels => rw [labels.parameterName?]; rfl
  | category labels given => rw [labels.parameterName?]; rfl
  | numeric labels given isNumeric bounds proper => rw [labels.parameterName?]; rfl

/-- The columns of a metadata table are those that its rows describe, one for each. -/
theorem ofRows_eq_ok_iff {number : Nat} {rows : List Row} {columns : List Column} :
    ofRows number rows = .ok columns ↔ List.Forall₂ Describes rows columns := by
  constructor
  · intro accepted
    induction rows generalizing number columns with
    | nil =>
      cases accepted
      exact .nil
    | cons row rest ih =>
      simp only [ofRows] at accepted
      split at accepted
      · cases accepted
      · rename_i column described
        split at accepted
        · cases accepted
        · rename_i others readable
          cases accepted
          exact .cons (ofRow_eq_ok_iff.mp described) (ih readable)
  · intro described
    induction described generalizing number with
    | nil => rfl
    | cons describes _ ih => simp only [ofRows, ofRow_eq_ok_iff.mpr describes, ih]

/-- The names of the parameters are those that the rows of the metadata give, in their order. -/
theorem parameterNames_eq {rows : List Row} {columns : List Column}
    (described : List.Forall₂ Describes rows columns) :
    (columns.filterMap parameter?).map Parameter.name = rows.filterMap parameterName? := by
  induction described with
  | nil => rfl
  | cons describes _ ih =>
    rw [List.map_filterMap] at ih ⊢
    rw [List.filterMap_cons, List.filterMap_cons, describes.parameterName?, ih]

theorem isProper_of_described {rows : List Row} {columns : List Column}
    (described : List.Forall₂ Describes rows columns) :
    ∀ parameter ∈ columns.filterMap parameter?, parameter.IsProper := by
  induction described with
  | nil => simp
  | @cons _ column _ _ describes _ ih =>
    cases column with
    | parameter described => exact List.forall_mem_cons.mpr ⟨describes.isProper, ih⟩
    | score person => exact ih

/-- Every column has the name of a parameter or of a person, and not of both. -/
theorem names_perm (columns : List Column) :
    ((columns.filterMap parameter?).map Parameter.name ++ columns.filterMap person?).Perm
      (columns.map name) := by
  induction columns with
  | nil => exact .nil
  | cons column rest ih =>
    cases column with
    | parameter described => exact ih.cons described.name
    | score person => exact List.perm_middle.trans (ih.cons person)

end Column

namespace Dataset

theorem firstRepeated?_eq_none_iff {seen names : List String} :
    firstRepeated? seen names = none ↔ names.Nodup ∧ ∀ name ∈ names, name ∉ seen := by
  induction names generalizing seen with
  | nil => simp [firstRepeated?]
  | cons name rest ih =>
    by_cases again : name ∈ seen
    · simp [firstRepeated?, again]
    · simp only [firstRepeated?, again, if_false, ih, List.nodup_cons, List.mem_cons]
      grind

/-- The dataset of some rows and columns. -/
def ofColumns (stem : String) (rows : List Row) (columns : List Column) : Dataset :=
  ⟨stem, rows, columns.filterMap Column.parameter?, columns.filterMap Column.person?⟩

theorem make_eq_ok_iff {stem : String} {rows : List Row} {columns : List Column}
    {dataset : Dataset} :
    make stem rows columns = .ok dataset ↔
      (columns.map Column.name).Nodup ∧ dataset = ofColumns stem rows columns := by
  have fresh : firstRepeated? [] (columns.map Column.name) = none ↔
      (columns.map Column.name).Nodup := by
    simp [firstRepeated?_eq_none_iff]
  rw [← fresh]
  cases repeated : firstRepeated? [] (columns.map Column.name) with
  | some name => simp [make, repeated]
  | none =>
    have made : make stem rows columns = .ok (ofColumns stem rows columns) := by
      rw [make, repeated]
      rfl
    simp [made, eq_comm]

/-- Two texts are accepted exactly if both are tables, every row of the second describes a column,
and the columns have different names. -/
theorem ofTexts_eq_ok_iff {stem data metadata : String} {dataset : Dataset} :
    ofTexts stem data metadata = .ok dataset ↔ ∃ rows described columns,
      Table.read data = .ok rows ∧ Table.read metadata = .ok described ∧
        List.Forall₂ Column.Describes described columns ∧ (columns.map Column.name).Nodup ∧
          dataset = ofColumns stem rows columns := by
  simp only [ofTexts, bind_eq_ok, mapError_eq_ok, Column.ofRows_eq_ok_iff, make_eq_ok_iff]
  constructor
  · rintro ⟨rows, first, described, second, columns, meant, distinct, same⟩
    exact ⟨rows, described, columns, first, second, meant, distinct, same⟩
  · rintro ⟨rows, described, columns, first, second, meant, distinct, same⟩
    exact ⟨rows, first, described, second, columns, meant, distinct, same⟩

/-- Whether a dataset has the parameters that the rows of its metadata describe. -/
structure IsDescribedBy (dataset : Dataset) (metadata : List Row) : Prop where
  /-- The parameters come in the order of their rows. -/
  names : dataset.parameterNames = metadata.filterMap Column.parameterName?
  distinct : dataset.parameterNames.Nodup
  ranged : ∀ parameter ∈ dataset.parameters, parameter.IsRanged

/-- No name of a parameter or a person occurs twice. -/
theorem nodup_names {stem : String} {rows : List Row} {columns : List Column}
    (distinct : (columns.map Column.name).Nodup) :
    ((ofColumns stem rows columns).parameterNames ++ (ofColumns stem rows columns).persons).Nodup :=
  (Column.names_perm columns).nodup_iff.mpr distinct

/-- In a dataset that was accepted no person is named like a parameter. -/
theorem persons_apart_of_accepted {stem data metadata : String} {dataset : Dataset}
    (accepted : ofTexts stem data metadata = .ok dataset) :
    ∀ person ∈ dataset.persons, person ∉ dataset.parameterNames := by
  obtain ⟨rows, described, columns, -, -, -, distinct, rfl⟩ := ofTexts_eq_ok_iff.mp accepted
  intro person scored named
  exact List.disjoint_of_nodup_append (nodup_names distinct) named scored

/-- A dataset that was accepted is described by its metadata. -/
theorem isDescribedBy_of_accepted {stem data metadata : String} {dataset : Dataset}
    (accepted : ofTexts stem data metadata = .ok dataset) :
    ∃ described, Table.read metadata = .ok described ∧ dataset.IsDescribedBy described := by
  obtain ⟨rows, described, columns, -, readable, meant, distinct, rfl⟩ :=
    ofTexts_eq_ok_iff.mp accepted
  refine ⟨described, readable, Column.parameterNames_eq meant,
    (List.nodup_append.mp (nodup_names distinct)).1, fun parameter listed => ?_⟩
  exact (Column.isProper_of_described meant parameter listed).isRanged

end Dataset
end Cupping
