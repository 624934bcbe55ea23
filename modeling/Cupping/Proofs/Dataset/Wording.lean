import Cupping.Proofs.Dataset.Columns
import Cupping.Proofs.Dataset.Description

/-!
What the texts of metadata come to. Cells are read as numbers wherever they can be, and the cell of
a name is no exception: a column has the name that its cell shows, unless that is a number that is
not written the way numbers are shown. Bounds have to be numbers. A step that is a number is kept,
and one that is not a number counts as none at all.
-/

namespace Cupping

namespace Cell

/-- The cell of a text that is trimmed and not empty. -/
def ofShown (text : String) : Cell :=
  match readNumber? text with
  | some value => .number value
  | none => .text text

theorem ofShown_eq (text : String) :
    ofShown text = ((readNumber? text).map number).getD (.text text) := by
  delta ofShown
  cases readNumber? text <;> rfl

theorem ofRaw?_of_filled {raw : String} (filled : Text.trim raw ≠ "") :
    ofRaw? raw = some (ofShown (Text.trim raw)) := by
  have visible : ¬ (Text.trim raw).isEmpty = true := fun nothing =>
    filled (String.isEmpty_iff.mp nothing)
  simp only [ofRaw?, if_neg visible, ofShown_eq, readNumber?, Text.trim_trim]
  cases (Decimal.read? (Text.trim raw)).filter Float.isFinite <;> rfl

theorem ofRaw?_of_blank {raw : String} (blank : Text.trim raw = "") : ofRaw? raw = none := by
  simp [ofRaw?, blank]

theorem isFinite_of_readNumber? {text : String} {value : Float}
    (read : readNumber? text = some value) : value.isFinite = true :=
  (Option.filter_eq_some_iff.mp read).2

theorem number?_ofShown (text : String) : (ofShown text).number? = readNumber? text := by
  cases read : readNumber? text with
  | none => simp [ofShown_eq, read, number?]
  | some value => simp [ofShown_eq, read, number?, isFinite_of_readNumber? read]

/-- Whether a text is shown as it was once it has been read: it is no number, or it is one in the
only way in which numbers are shown. -/
def IsVerbatim (text : String) : Prop :=
  ∀ value, readNumber? text = some value → Decimal.display value = text

theorem display_ofShown_eq_iff {text : String} :
    (ofShown text).display = text ↔ IsVerbatim text := by
  cases read : readNumber? text with
  | none => simp [ofShown_eq, IsVerbatim, read, display]
  | some value => simp [ofShown_eq, IsVerbatim, read, display]

end Cell

namespace Table

/-- What a line has to say in the columns of one name, from left to right: the trimmed texts of the
cells that are not blank. -/
def textsUnder (name : String) (names cells : List String) : List String :=
  (names.zip cells).filterMap fun column =>
    if column.1 = name ∧ Text.trim column.2 ≠ "" then some (Text.trim column.2) else none

theorem valuesUnder_eq (name : String) (names cells : List String) :
    valuesUnder name names cells = (textsUnder name names cells).map Cell.ofShown := by
  rw [textsUnder, List.map_filterMap, valuesUnder]
  refine List.filterMap_congr fun column _ => ?_
  by_cases here : column.1 = name
  · by_cases blank : Text.trim column.2 = ""
    · simp [here, blank, Cell.ofRaw?_of_blank blank]
    · simp [here, blank, Cell.ofRaw?_of_filled blank]
  · simp [here]

/-- What a line says in the column of a name. Of several columns it is the last one that is not
blank. -/
def wording? (header line : List Char) (name : String) : Option String :=
  (textsUnder name (headings header) (cellsOf line)).getLast?

/-- The row of a line after a header. -/
def rowAfter (header line : List Char) : Row :=
  rowOf (headings header) (cellsOf line)

theorem get?_rowAfter (header line : List Char) (name : String) :
    (rowAfter header line).get? name = (wording? header line name).map Cell.ofShown := by
  rw [rowAfter, get?_rowOf, valuesUnder_eq, List.getLast?_map, wording?]

theorem number?_rowAfter (header line : List Char) (name : String) :
    (rowAfter header line).number? name = (wording? header line name).bind Cell.readNumber? := by
  rw [Row.number?, get?_rowAfter]
  cases wording? header line name with
  | none => rfl
  | some text => rw [Option.map_some, Option.bind_some, Option.bind_some, Cell.number?_ofShown]

/-- The rows of an accepted text are those of its lines. -/
theorem exists_of_read {text : String} {rows : List Row} (accepted : read text = .ok rows) :
    ∃ header lines, filledLines text = header :: lines ∧ rows = lines.map (rowAfter header) := by
  rcases hasLines_or_isRefused text with ⟨header, lines, table⟩ | refused
  · rw [table.read] at accepted
    exact ⟨header, lines, table.filled, (Except.ok.inj accepted).symm⟩
  · obtain ⟨fault, failed⟩ := refused.read
    rw [failed] at accepted
    cases accepted

end Table

namespace Dataset

/-- The lines of the metadata of a dataset, each with the column that it describes. -/
structure IsListed (dataset : Dataset) (metadata : String) (header : List Char)
    (lines : List (List Char)) (columns : List Column) : Prop where
  filled : Table.filledLines metadata = header :: lines
  described : List.Forall₂ (fun line => Column.Describes (Table.rowAfter header line)) lines columns
  parameters : dataset.parameters = columns.filterMap Column.parameter?
  persons : dataset.persons = columns.filterMap Column.person?

/-- The lines of the data of a dataset are its rows. -/
structure IsFilled (dataset : Dataset) (data : String) (header : List Char)
    (lines : List (List Char)) : Prop where
  filled : Table.filledLines data = header :: lines
  rows : dataset.rows = lines.map (Table.rowAfter header)

variable {stem data metadata : String} {dataset : Dataset}

theorem exists_isListed (accepted : ofTexts stem data metadata = .ok dataset) :
    ∃ header lines columns, dataset.IsListed metadata header lines columns := by
  obtain ⟨_, described, columns, -, readable, meant, -, rfl⟩ := ofTexts_eq_ok_iff.mp accepted
  obtain ⟨header, lines, filled, rfl⟩ := Table.exists_of_read readable
  exact ⟨header, lines, columns, filled, List.forall₂_map_left_iff.mp meant, rfl, rfl⟩

/-- Metadata of one line lists one column. -/
theorem IsListed.single {header first line : List Char} {lines : List (List Char)}
    {columns : List Column} (listed : dataset.IsListed metadata header lines columns)
    (lined : Table.filledLines metadata = [first, line]) :
    header = first ∧ lines = [line] ∧ ∃ column, columns = [column] := by
  obtain ⟨rfl, rfl⟩ := List.cons.inj (lined.symm.trans listed.filled)
  have described := listed.described
  cases described with
  | cons describes others =>
    cases others
    exact ⟨rfl, rfl, _, rfl⟩

theorem exists_isFilled (accepted : ofTexts stem data metadata = .ok dataset) :
    ∃ header lines, dataset.IsFilled data header lines := by
  obtain ⟨rows, _, _, readable, -, -, -, rfl⟩ := ofTexts_eq_ok_iff.mp accepted
  obtain ⟨header, lines, filled, same⟩ := Table.exists_of_read readable
  exact ⟨header, lines, filled, same⟩

end Dataset

/-! The names of columns. -/

namespace Column

theorem Describes.labelled {row : Row} {column : Column} (describes : Describes row column) :
    said? row "name" = some column.name := by
  cases describes with
  | score labels => exact labels.name
  | category labels given => exact labels.name
  | numeric labels given isNumeric bounds proper => exact labels.name

theorem Describes.named {header line : List Char} {column : Column}
    (describes : Describes (Table.rowAfter header line) column) :
    ∃ text, Table.wording? header line "name" = some text ∧
      column.name = (Cell.ofShown text).display := by
  have labelled := describes.labelled
  rw [said?, Table.get?_rowAfter] at labelled
  obtain ⟨cell, given, shown⟩ := Option.map_eq_some_iff.mp labelled
  obtain ⟨text, said, rfl⟩ := Option.map_eq_some_iff.mp given
  exact ⟨text, said, shown.symm⟩

end Column

namespace Dataset

/-- Whether the rows of a dataset have, under a name, whatever stands in the data under a heading
that only one column has. -/
def Finds (dataset : Dataset) (data heading name : String) : Prop :=
  ∃ header lines, dataset.IsFilled data header lines ∧ ∀ place : Nat,
    (Table.headings header)[place]? = some heading →
    (∀ other : Nat, (Table.headings header)[other]? = some heading → other = place) →
      List.Forall₂ (fun line row => ∀ raw, (Table.cellsOf line)[place]? = some raw →
        Text.trim raw ≠ "" → ∃ cell, Cell.ofRaw? raw = some cell ∧ row.get? name = some cell)
        lines dataset.rows

variable {stem data metadata : String} {dataset : Dataset}

/-- Whatever stands under a heading is found under that very heading. -/
theorem finds_heading (accepted : ofTexts stem data metadata = .ok dataset) (heading : String) :
    dataset.Finds data heading heading := by
  obtain ⟨header, lines, filled⟩ := exists_isFilled accepted
  refine ⟨header, lines, filled, fun place headed single => ?_⟩
  rw [filled.rows, List.forall₂_map_right_iff, List.forall₂_same]
  intro line _ raw stands seen
  have held := (Table.holds_rowOf (Table.headings header) (Table.cellsOf line)).single
    place heading headed single
  rw [stands, Option.bind_some] at held
  exact ⟨_, Cell.ofRaw?_of_filled seen, held.trans (Cell.ofRaw?_of_filled seen)⟩

/-- Every line of the metadata names its column, as it says exactly if what it says is verbatim. Of
a column that is named so, the data is found under its name. -/
theorem ofTexts_names (accepted : ofTexts stem data metadata = .ok dataset) :
    ∃ header lines columns, dataset.IsListed metadata header lines columns ∧
      List.Forall₂ (fun line column => ∃ text, Table.wording? header line "name" = some text ∧
        (column.name = text ↔ Cell.IsVerbatim text) ∧
        (Cell.IsVerbatim text → dataset.Finds data text column.name)) lines columns := by
  obtain ⟨header, lines, columns, listed⟩ := exists_isListed accepted
  refine ⟨header, lines, columns, listed, listed.described.imp fun line column describes => ?_⟩
  obtain ⟨text, said, named⟩ := describes.named
  have exact_iff : column.name = text ↔ Cell.IsVerbatim text := by
    rw [named]
    exact Cell.display_ofShown_eq_iff
  refine ⟨text, said, exact_iff, fun verbatim => ?_⟩
  rw [exact_iff.mpr verbatim]
  exact finds_heading accepted text

/-- A parameter whose name is a number as numbers are shown, with a row that lacks it. -/
theorem ofTexts_names_of_numeral :
    let data := "nick,5.5\n7, paper \n9,\n"
    let metadata := "type,name,parameter type\nparameter, 5.5 ,category\nscore,nick\n"
    let dataset : Dataset := ⟨"v60.", [.ofList [("5.5", .text "paper"), ("nick", .number 7)],
      .ofList [("nick", .number 9)]], [.category "5.5"], ["nick"]⟩
    ofTexts "v60." data metadata = .ok dataset ∧ Cell.IsVerbatim "5.5" ∧
      dataset.Finds data "5.5" "5.5" := by
  intro data metadata dataset
  have accepted : ofTexts "v60." data metadata = .ok dataset := by decide +kernel
  have read : Cell.readNumber? "5.5" = some 5.5 := by decide +kernel
  have shown : Decimal.display 5.5 = "5.5" := by decide +kernel
  have verbatim : Cell.IsVerbatim "5.5" := by
    intro value given
    rw [← Option.some.inj (read.symm.trans given), shown]
  have lined : Table.filledLines metadata = ["type,name,parameter type".toList,
      "parameter, 5.5 ,category".toList, "score,nick".toList] := by decide +kernel
  obtain ⟨header, lines, columns, listed, named⟩ := ofTexts_names accepted
  have filled := listed.filled
  rw [lined] at filled
  obtain ⟨rfl, rfl⟩ := List.cons.inj filled
  cases named with
  | cons first others =>
    obtain ⟨text, said, same, found⟩ := first
    have written : Table.wording? "type,name,parameter type".toList
        "parameter, 5.5 ,category".toList "name" = some "5.5" := by decide +kernel
    obtain rfl : "5.5" = text := Option.some.inj (written.symm.trans said)
    have kept := found verbatim
    rw [same.mpr verbatim] at kept
    exact ⟨accepted, verbatim, kept⟩

/-- A name that is a number in another form than numbers are shown is not kept. -/
theorem ofTexts_rewrites_name :
    ¬ ∀ (stem data metadata : String) (dataset : Dataset),
      ofTexts stem data metadata = .ok dataset →
      ∀ (header : List Char) (lines : List (List Char)) (columns : List Column),
        dataset.IsListed metadata header lines columns →
        List.Forall₂ (fun line column => Table.wording? header line "name" = some column.name)
          lines columns := by
  intro kept
  let dataset : Dataset := ⟨"v60.", [.ofList [("5.50", .number 7)]], [], ["5.5"]⟩
  have accepted : ofTexts "v60." "5.50\n7\n" "type,name\nscore,5.50\n" = .ok dataset := by
    decide +kernel
  have lined : Table.filledLines "type,name\nscore,5.50\n" =
      ["type,name".toList, "score,5.50".toList] := by decide +kernel
  have written : Table.wording? "type,name".toList "score,5.50".toList "name" = some "5.50" := by
    decide +kernel
  obtain ⟨header, lines, columns, listed⟩ := exists_isListed accepted
  obtain ⟨rfl, rfl, column, rfl⟩ := listed.single lined
  have named := (List.forall₂_cons.mp (kept _ _ _ _ accepted _ _ _ listed)).1
  have same : column.name = "5.50" := Option.some.inj (named.symm.trans written)
  have persons := listed.persons
  cases column with
  | parameter described => exact absurd persons (List.cons_ne_nil _ _)
  | score person =>
    have found : ["5.5"] = [person] := persons
    have other : "5.5" = "5.50" := (List.cons.inj found).1.trans same
    exact absurd other (by decide)

end Dataset

/-! The ranges of parameters. -/

namespace Column

/-- Whether the bounds of a range are those that some texts state. -/
structure StatesBounds (wording : String → Option String) (range : NumericRange) : Prop where
  low : ∃ text, wording "low" = some text ∧ Cell.readNumber? text = some range.low
  high : ∃ text, wording "high" = some text ∧ Cell.readNumber? text = some range.high

/-- Whether the step of a range is the one that some texts state. Without a statement it is one. -/
def StatesStep (wording : String → Option String) (range : NumericRange) : Prop :=
  match wording "step" with
  | none => range.step = 1.0
  | some text => Cell.readNumber? text = some range.step

variable {header line : List Char} {range : NumericRange}

theorem Bounds.statesBounds (bounds : Bounds (Table.rowAfter header line) range) :
    StatesBounds (Table.wording? header line) range := by
  obtain ⟨low, high, -⟩ := bounds
  rw [Table.number?_rowAfter] at low high
  exact ⟨Option.bind_eq_some_iff.mp low, Option.bind_eq_some_iff.mp high⟩

/-- A step that is stated and is no number would be passed over. -/
theorem Bounds.statesStep (bounds : Bounds (Table.rowAfter header line) range)
    (readable : ∀ text, Table.wording? header line "step" = some text →
      (Cell.readNumber? text).isSome = true) :
    StatesStep (Table.wording? header line) range := by
  obtain ⟨-, -, step⟩ := bounds
  rw [Table.number?_rowAfter] at step
  rw [StatesStep]
  cases stated : Table.wording? header line "step" with
  | none =>
    rw [stated, Option.bind_none, Option.getD_none] at step
    exact step.symm
  | some text =>
    obtain ⟨value, read⟩ := Option.isSome_iff_exists.mp (readable text stated)
    rw [stated, Option.bind_some, read, Option.getD_some] at step
    exact read.trans (congrArg some step)

end Column

namespace Dataset

variable {stem data metadata : String} {dataset : Dataset}

/-- The range of a numeric parameter has the bounds that its line of the metadata states, and its
step as well, as long as no step is stated that is no number. -/
theorem ofTexts_ranges (accepted : ofTexts stem data metadata = .ok dataset) :
    ∃ header lines columns, dataset.IsListed metadata header lines columns ∧
      List.Forall₂ (fun line column => ∀ described, column = .parameter described →
        described.kind.isNumeric = true → ∃ range, described.range = some range ∧
          Column.StatesBounds (Table.wording? header line) range ∧
          ((∀ text, Table.wording? header line "step" = some text →
              (Cell.readNumber? text).isSome = true) →
            Column.StatesStep (Table.wording? header line) range)) lines columns := by
  obtain ⟨header, lines, columns, listed⟩ := exists_isListed accepted
  refine ⟨header, lines, columns, listed, listed.described.imp fun line column describes => ?_⟩
  rintro described rfl isNumeric
  cases describes with
  | category labels given => cases isNumeric
  | @numeric name kind range labels given numeric bounds proper =>
    exact ⟨range, rfl, bounds.statesBounds, bounds.statesStep⟩

/-- A parameter whose step is stated among blanks. -/
theorem ofTexts_ranges_of_dose :
    let metadata := "type,name,low,high,step,parameter type\nparameter,dose, 14 ,22, 0.5 ,real\n"
    let dataset : Dataset := ⟨"v60.", [], [⟨"dose", .real, none, some ⟨14, 22, 0.5⟩⟩], []⟩
    ofTexts "v60." "dose\n" metadata = .ok dataset ∧
      ∃ header line, Table.filledLines metadata = [header, line] ∧
        Table.wording? header line "step" = some "0.5" ∧
        Column.StatesBounds (Table.wording? header line) ⟨14, 22, 0.5⟩ ∧
        Column.StatesStep (Table.wording? header line) ⟨14, 22, 0.5⟩ := by
  intro metadata dataset
  have accepted : ofTexts "v60." "dose\n" metadata = .ok dataset := by decide +kernel
  have lined : Table.filledLines metadata = ["type,name,low,high,step,parameter type".toList,
      "parameter,dose, 14 ,22, 0.5 ,real".toList] := by decide +kernel
  have stated : Table.wording? "type,name,low,high,step,parameter type".toList
      "parameter,dose, 14 ,22, 0.5 ,real".toList "step" = some "0.5" := by decide +kernel
  have read : (Cell.readNumber? "0.5").isSome = true := by decide +kernel
  obtain ⟨header, lines, columns, listed, ranged⟩ := ofTexts_ranges accepted
  obtain ⟨rfl, rfl, column, rfl⟩ := listed.single lined
  have dose := (List.forall₂_cons.mp ranged).1
  have parameters := listed.parameters
  cases column with
  | score person => exact absurd parameters (List.cons_ne_nil _ _)
  | parameter described =>
    obtain rfl : (⟨"dose", .real, none, some ⟨14, 22, 0.5⟩⟩ : Parameter) = described :=
      (List.cons.inj parameters).1
    obtain ⟨range, found, bounds, step⟩ := dose _ rfl rfl
    obtain rfl : (⟨14, 22, 0.5⟩ : NumericRange) = range := Option.some.inj found
    refine ⟨accepted, _, _, lined, stated, bounds, step fun text said => ?_⟩
    rw [← Option.some.inj (stated.symm.trans said), read]

/-- A step that is stated and is no number gives way to the default. -/
theorem ofTexts_ignores_step :
    ¬ ∀ (stem data metadata : String) (dataset : Dataset),
      ofTexts stem data metadata = .ok dataset →
      ∀ (header : List Char) (lines : List (List Char)) (columns : List Column),
        dataset.IsListed metadata header lines columns →
        List.Forall₂ (fun line column => ∀ described, column = .parameter described →
          ∀ range, described.range = some range →
            Column.StatesStep (Table.wording? header line) range) lines columns := by
  intro kept
  let metadata := "type,name,low,high,step,parameter type\nparameter,grind,10,30,abc,int\n"
  let dataset : Dataset := ⟨"v60.", [], [⟨"grind", .integer, none, some ⟨10, 30, 1⟩⟩], []⟩
  have accepted : ofTexts "v60." "grind\n" metadata = .ok dataset := by decide +kernel
  have lined : Table.filledLines metadata = ["type,name,low,high,step,parameter type".toList,
      "parameter,grind,10,30,abc,int".toList] := by decide +kernel
  have stated : Table.wording? "type,name,low,high,step,parameter type".toList
      "parameter,grind,10,30,abc,int".toList "step" = some "abc" := by decide +kernel
  have unread : Cell.readNumber? "abc" = none := by decide +kernel
  obtain ⟨header, lines, columns, listed⟩ := exists_isListed accepted
  obtain ⟨rfl, rfl, column, rfl⟩ := listed.single lined
  have grind := (List.forall₂_cons.mp (kept _ _ _ _ accepted _ _ _ listed)).1
  have parameters := listed.parameters
  cases column with
  | score person => exact absurd parameters (List.cons_ne_nil _ _)
  | parameter described =>
    obtain rfl : (⟨"grind", .integer, none, some ⟨10, 30, 1⟩⟩ : Parameter) = described :=
      (List.cons.inj parameters).1
    have step := grind _ rfl _ rfl
    rw [Column.StatesStep, stated] at step
    exact Option.some_ne_none _ (step.symm.trans unread)

end Dataset
end Cupping
