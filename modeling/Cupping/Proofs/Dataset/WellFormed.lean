import Cupping.Advice
import Cupping.Proofs.Dataset.Description

/-!
What can be relied on in every dataset that was accepted, and what is reported when texts are not
accepted. Whatever is wrong with them, it is reported as a failure of the dataset.
-/

namespace Cupping

/-- Whether a library has two texts as the files of a dataset. -/
structure Library.Keeps (library : Library) (stem data metadata : String) : Prop where
  data : library.source (Library.dataPath library.directory stem) = .ok data
  metadata : library.source (Library.metadataPath library.directory stem) = .ok metadata

theorem Library.Keeps.loadFor {library : Library} {stem data metadata : String}
    (kept : library.Keeps stem data metadata) {preferences : Preferences}
    (possible : Recommendation.isWeight preferences.weight = true) :
    library.loadFor stem preferences =
      (Dataset.ofTexts stem data metadata).mapError fun fault => .dataset fault.message := by
  have loaded : library.load stem = Dataset.ofTexts stem data metadata := by
    rw [load, text, text, kept.data, kept.metadata]
    rfl
  rw [Library.loadFor, possible, loaded]
  rfl

namespace Dataset

/-- What can be relied on in a dataset with some rows and metadata. -/
structure IsWellFormed (dataset : Dataset) (rows metadata : List Row) : Prop where
  rows : dataset.rows = rows
  /-- Every row of the metadata describes one column, and the columns keep their order. -/
  columns : ∃ columns, List.Forall₂ Column.Describes metadata columns ∧
    dataset.parameters = columns.filterMap Column.parameter? ∧
      dataset.persons = columns.filterMap Column.person?
  /-- No row of the metadata is lost, and none counts twice. -/
  count : dataset.parameters.length + dataset.persons.length = metadata.length
  distinct : (dataset.parameterNames ++ dataset.persons).Nodup
  proper : ∀ parameter ∈ dataset.parameters, parameter.IsProper
  /-- A parameter is found under its name. -/
  found : ∀ parameter ∈ dataset.parameters, dataset.parameter? parameter.name = some parameter

/-- A parameter is found under its name if no other one has the name. -/
theorem parameter?_name {dataset : Dataset} (distinct : dataset.parameterNames.Nodup)
    {parameter : Parameter} (listed : parameter ∈ dataset.parameters) :
    dataset.parameter? parameter.name = some parameter := by
  cases found : dataset.parameter? parameter.name with
  | none =>
    have different := List.find?_eq_none.mp found parameter listed
    simp at different
  | some other =>
    have named : other.name = parameter.name := by simpa using List.find?_some found
    have member : other ∈ dataset.parameters := List.mem_of_find?_eq_some found
    rw [List.inj_on_of_nodup_map distinct member listed named]

theorem isWellFormed_ofColumns (stem : String) (rows : List Row) {metadata : List Row}
    {columns : List Column} (described : List.Forall₂ Column.Describes metadata columns)
    (distinct : (columns.map Column.name).Nodup) :
    (ofColumns stem rows columns).IsWellFormed rows metadata := by
  have names := Column.names_perm columns
  refine ⟨rfl, ⟨columns, described, rfl, rfl⟩, ?_, nodup_names distinct,
    Column.isProper_of_described described, fun parameter => ?_⟩
  · have count := names.length_eq
    rw [List.length_append, List.length_map, List.length_map, ← described.length_eq] at count
    exact count
  · exact parameter?_name (List.nodup_append.mp (nodup_names distinct)).1

/-- Two texts that are accepted are tables and make a well-formed dataset. If they are not accepted,
every attempt to load them from a library ends with a failure of the dataset. -/
theorem ofTexts_isWellFormed (stem data metadata : String) :
    (∀ dataset, ofTexts stem data metadata = .ok dataset →
      ∃ rows described, Table.read data = .ok rows ∧ Table.read metadata = .ok described ∧
        dataset.IsWellFormed rows described) ∧
      ∀ fault, ofTexts stem data metadata = .error fault →
        ∀ (library : Library) (preferences : Preferences), library.Keeps stem data metadata →
          Recommendation.isWeight preferences.weight = true →
            library.loadFor stem preferences = .error (.dataset fault.message) := by
  constructor
  · intro dataset accepted
    obtain ⟨rows, described, columns, readable, meant, matched, distinct, rfl⟩ :=
      ofTexts_eq_ok_iff.mp accepted
    exact ⟨rows, described, readable, meant, isWellFormed_ofColumns stem rows matched distinct⟩
  · intro fault refused library preferences kept possible
    rw [kept.loadFor possible, refused]
    rfl

/-- Texts that are accepted, and the same brews with a parameter that has its bounds the wrong way
round. -/
theorem ofTexts_isWellFormed_of_bounds :
    let data := "grind,filter,nick\n12,paper,7\n"
    let metadata := "type,name,unit,low,high,step,parameter type\n" ++
      "parameter,grind,clicks,10,30,,int\nscore,nick\nparameter,filter,,,,,category\n"
    let inverted := "type,name,low,high\nparameter,grind,30,10\n"
    let dataset : Dataset :=
      ⟨"v60.", [.ofList [("grind", .number 12), ("filter", .text "paper"), ("nick", .number 7)]],
        [⟨"grind", .integer, some "clicks", some ⟨10, 30, 1⟩⟩, .category "filter"], ["nick"]⟩
    let library : Library := ⟨"brews", TextSource.ofReadings
      [("brews/v60.data.csv", .ok data), ("brews/v60.meta.csv", .ok inverted)]⟩
    let preferences : Preferences := ⟨.mean, ["nick"], 0.5, false⟩
    (∃ rows described, Table.read data = .ok rows ∧ Table.read metadata = .ok described ∧
      dataset.IsWellFormed rows described) ∧
      library.loadFor "v60." preferences = .error (.dataset
        ("metadata row 1: Dataset error: Invalid input: grind: Invalid input: " ++
          "low 30 exceeds high 10")) := by
  intro data metadata inverted dataset library preferences
  have accepted : ofTexts "v60." data metadata = .ok dataset := by decide +kernel
  have refused : ofTexts "v60." data inverted = .error (.metadata 1
      (.impossible (.badRange "grind" (.inverted 30 10)))) := by decide +kernel
  have kept : library.Keeps "v60." data inverted := ⟨by decide +kernel, by decide +kernel⟩
  have possible : Recommendation.isWeight preferences.weight = true := by decide +kernel
  refine ⟨(ofTexts_isWellFormed "v60." data metadata).1 dataset accepted, ?_⟩
  rw [(ofTexts_isWellFormed "v60." data inverted).2 _ refused library preferences kept possible]
  decide +kernel

end Dataset
end Cupping
