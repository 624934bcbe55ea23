import Cupping.Proofs.Dataset.Lookup
import Cupping.Proofs.Text.Blank
import Cupping.Proofs.Text.Lines
import Cupping.Table
import Mathlib.Data.List.Forall2

/-!
Reading a table by its columns. A text that is no table is refused for one of three reasons. In a
table each line is a row, and the row has under the name of a column what the line says there. A
name that stands over several columns has the last of their cells that is not blank.
-/

namespace Cupping

namespace Cell

/-- A cell that was read holds something. -/
theorem isBlank_of_ofRaw? {raw : String} {cell : Cell} (read : ofRaw? raw = some cell) :
    cell.isBlank = false := by
  simp only [ofRaw?] at read
  split at read
  · cases read
  · rename_i filled
    split at read
    · cases read
      rfl
    · cases read
      exact Text.isBlank_trim fun nothing => filled (by simp [nothing])

/-- White space around a cell makes no difference. -/
theorem ofRaw?_congr {raw other : String} (same : Text.trim raw = Text.trim other) :
    ofRaw? raw = ofRaw? other := by
  simp only [ofRaw?, same]

end Cell

theorem lookup_reverse_eq_getLast? {α : Type} (bindings : List (String × α)) (name : String) :
    bindings.reverse.lookup name =
      (bindings.filterMap fun binding =>
        if binding.1 = name then some binding.2 else none).getLast? := by
  induction bindings with
  | nil => rfl
  | cons binding rest ih =>
    rw [List.reverse_cons, List.lookup_append, ih, NameMap.lookup_cons, List.filterMap_cons]
    by_cases same : name = binding.1
    · rw [if_pos same, if_pos same.symm, List.getLast?_cons]
      cases (rest.filterMap fun binding =>
        if binding.1 = name then some binding.2 else none).getLast? <;> rfl
    · rw [if_neg same, if_neg (Ne.symm same)]
      simp

namespace Table

/-- The cells of a line as it is written: what stands between its commas. -/
def cellsOf (line : List Char) : List String :=
  (line.splitOn ',').map String.ofList

theorem splitCells_eq (line : List Char) : splitCells line = cellsOf line := by
  rw [splitCells, Text.splitAt_eq_splitOn, cellsOf]

/-- What a line holds in the columns of one name, from left to right and without the blanks. -/
def valuesUnder (name : String) (names cells : List String) : List Cell :=
  (names.zip cells).filterMap fun column =>
    if column.1 = name then Cell.ofRaw? column.2 else none

theorem get?_cells_rowOf (names cells : List String) (name : String) :
    (rowOf names cells).cells.get? name = (valuesUnder name names cells).getLast? := by
  rw [rowOf, Row.ofList, NameMap.get?_ofList, lookup_reverse_eq_getLast?, List.filterMap_filterMap,
    valuesUnder]
  congr 1
  refine List.filterMap_congr fun column _ => ?_
  by_cases here : column.1 = name <;>
    cases read : Cell.ofRaw? column.2 <;> simp [here, read]

theorem isBlank_of_mem_valuesUnder {name : String} {names cells : List String} {cell : Cell}
    (member : cell ∈ valuesUnder name names cells) : cell.isBlank = false := by
  obtain ⟨column, -, read⟩ := List.mem_filterMap.mp member
  split at read
  · exact Cell.isBlank_of_ofRaw? read
  · cases read

theorem get?_rowOf (names cells : List String) (name : String) :
    (rowOf names cells).get? name = (valuesUnder name names cells).getLast? := by
  rw [Row.get?, get?_cells_rowOf]
  cases last : (valuesUnder name names cells).getLast? with
  | none => rfl
  | some cell =>
    have filled := isBlank_of_mem_valuesUnder (List.mem_of_getLast? last)
    rw [Option.filter_some, filled]
    rfl

theorem valuesUnder_of_notMem {name : String} {names : List String} (absent : name ∉ names)
    (cells : List String) : valuesUnder name names cells = [] := by
  rw [valuesUnder, List.filterMap_eq_nil_iff]
  intro column member
  have listed : column.1 ∈ names := (List.of_mem_zip member).1
  have other : column.1 ≠ name := fun same => absent (same ▸ listed)
  exact if_neg other

/-- Under a name that stands over one column only there is the cell of that column. -/
theorem valuesUnder_of_single {name : String} {names : List String} {column : Nat}
    (named : names[column]? = some name)
    (single : ∀ other : Nat, names[other]? = some name → other = column)
    (cells : List String) :
    valuesUnder name names cells = (cells[column]?.bind Cell.ofRaw?).toList := by
  induction names generalizing column cells with
  | nil => simp at named
  | cons first rest ih =>
    cases cells with
    | nil => simp [valuesUnder]
    | cons cell more =>
      cases column with
      | zero =>
        have same : first = name := by simpa using named
        have absent : name ∉ rest := by
          intro member
          obtain ⟨other, found⟩ := List.mem_iff_getElem?.mp member
          have again := single (other + 1) (by simpa using found)
          omega
        have others := valuesUnder_of_notMem absent more
        rw [valuesUnder] at others
        rw [valuesUnder, List.zip_cons_cons, List.filterMap_cons, others]
        cases read : Cell.ofRaw? cell <;> simp [same, read]
      | succ column =>
        have other : first ≠ name := by
          intro same
          have again := single 0 (by simp [same])
          omega
        have below := ih (by simpa using named)
          (fun other found => Nat.succ.inj (single (other + 1) (by simpa using found))) more
        rw [valuesUnder] at below
        rw [valuesUnder, List.zip_cons_cons, List.filterMap_cons, if_neg other, below,
          List.getElem?_cons_succ]

/-- The names of the columns of a table. -/
def headings (header : List Char) : List String :=
  (cellsOf header).map Text.trim

/-- A text has the lines of a table: the header names every column, and no other line has more cells
than there are columns. -/
structure HasLines (text : String) (header : List Char) (lines : List (List Char)) : Prop where
  filled : filledLines text = header :: lines
  named : ∀ cell ∈ cellsOf header, Text.trim cell ≠ ""
  fits : ∀ line ∈ lines, (cellsOf line).length ≤ (cellsOf header).length

theorem readRows_of_fits {names : List String} {lines : List (List Char)}
    (fits : ∀ line ∈ lines, (cellsOf line).length ≤ names.length) (number : Nat) :
    readRows names number lines = .ok (lines.map fun line => rowOf names (cellsOf line)) := by
  induction lines generalizing number with
  | nil => rfl
  | cons line rest ih =>
    obtain ⟨fit, others⟩ := List.forall_mem_cons.mp fits
    rw [readRows, splitCells_eq]
    simp only [if_neg (Nat.not_lt.mpr fit), ih others, List.map_cons]

theorem readRows_of_long {names : List String} {lines : List (List Char)} {line : List Char}
    (member : line ∈ lines) (long : names.length < (cellsOf line).length) (number : Nat) :
    ∃ fault, readRows names number lines = .error fault := by
  induction lines generalizing number with
  | nil => cases member
  | cons first rest ih =>
    rw [readRows, splitCells_eq]
    by_cases longer : names.length < (cellsOf first).length
    · exact ⟨_, if_pos longer⟩
    · have later : line ∈ rest := by
        rcases List.mem_cons.mp member with rfl | later
        · exact absurd long longer
        · exact later
      obtain ⟨fault, refused⟩ := ih later (number + 1)
      exact ⟨fault, by simp only [if_neg longer, refused]⟩

theorem read_of_filled {text : String} {header : List Char} {lines : List (List Char)}
    (filled : filledLines text = header :: lines) :
    read text = if (headings header).any String.isEmpty then .error .unnamedColumn
      else readRows (headings header) 2 lines := by
  rw [Table.read, filled, headings, ← splitCells_eq]

theorem HasLines.read {text : String} {header : List Char} {lines : List (List Char)}
    (table : HasLines text header lines) :
    read text = .ok (lines.map fun line => rowOf (headings header) (cellsOf line)) := by
  have named : ¬ (headings header).any String.isEmpty = true := by
    rw [List.any_eq_true]
    rintro ⟨name, member, blank⟩
    obtain ⟨cell, listed, rfl⟩ := List.mem_map.mp member
    exact table.named cell listed (String.isEmpty_iff.mp blank)
  have fits : ∀ line ∈ lines, (cellsOf line).length ≤ (headings header).length := by
    simpa [headings] using table.fits
  rw [read_of_filled table.filled, if_neg named, readRows_of_fits fits]

/-- Why a text is no table. -/
def IsRefused (text : String) : Prop :=
  filledLines text = [] ∨ ∃ header lines, filledLines text = header :: lines ∧
    ((∃ cell ∈ cellsOf header, Text.trim cell = "") ∨
      ∃ line ∈ lines, (cellsOf header).length < (cellsOf line).length)

theorem IsRefused.read {text : String} (refused : IsRefused text) :
    ∃ fault, read text = .error fault := by
  rcases refused with
    nothing | ⟨header, lines, filled, ⟨cell, listed, blank⟩ | ⟨line, member, long⟩⟩
  · exact ⟨.noHeader, by rw [Table.read, nothing]⟩
  · have unnamed : (headings header).any String.isEmpty = true :=
      List.any_eq_true.mpr
        ⟨_, List.mem_map.mpr ⟨cell, listed, rfl⟩, String.isEmpty_iff.mpr blank⟩
    exact ⟨.unnamedColumn, by rw [read_of_filled filled, if_pos unnamed]⟩
  · rw [read_of_filled filled]
    by_cases unnamed : (headings header).any String.isEmpty = true
    · exact ⟨.unnamedColumn, if_pos unnamed⟩
    · have longer : (headings header).length < (cellsOf line).length := by
        simpa [headings] using long
      obtain ⟨fault, refused⟩ := readRows_of_long member longer 2
      exact ⟨fault, (if_neg unnamed).trans refused⟩

theorem hasLines_or_isRefused (text : String) :
    (∃ header lines, HasLines text header lines) ∨ IsRefused text := by
  cases filled : filledLines text with
  | nil => exact .inr (.inl filled)
  | cons header lines =>
    by_cases named : ∃ cell ∈ cellsOf header, Text.trim cell = ""
    · exact .inr (.inr ⟨header, lines, filled, .inl named⟩)
    · by_cases long : ∃ line ∈ lines, (cellsOf header).length < (cellsOf line).length
      · exact .inr (.inr ⟨header, lines, filled, .inr long⟩)
      · push Not at named long
        exact .inl ⟨header, lines, filled, named, long⟩

/-- A row holds the cells of a line. -/
structure Holds (names cells : List String) (row : Row) : Prop where
  /-- Under the name of a column that has it to itself, there is what the line has in the column,
  which is nothing where the line has ended. -/
  single : ∀ (column : Nat) (name : String), names[column]? = some name →
    (∀ other : Nat, names[other]? = some name → other = column) →
      row.get? name = cells[column]?.bind Cell.ofRaw?
  /-- Under a name that several columns share there is the last of their cells that is not blank. -/
  shared : ∀ name, row.get? name = (valuesUnder name names cells).getLast?

theorem holds_rowOf (names cells : List String) : Holds names cells (rowOf names cells) := by
  refine ⟨fun column name named single => ?_, get?_rowOf names cells⟩
  rw [get?_rowOf, valuesUnder_of_single named single]
  cases cells[column]?.bind Cell.ofRaw? <;> rfl

/-- A text is refused exactly if it has no line that is not blank, or its header does not name a
column, or some other line has more cells than the header. If it is not refused, every line after
the header is a row that holds its cells. -/
theorem read_columns (text : String) :
    ((∃ fault, read text = .error fault) ↔ IsRefused text) ∧
      ∀ rows, read text = .ok rows → ∃ header lines, filledLines text = header :: lines ∧
        List.Forall₂ (fun line row => Holds (headings header) (cellsOf line) row) lines rows := by
  constructor
  · constructor
    · rintro ⟨fault, refused⟩
      rcases hasLines_or_isRefused text with ⟨header, lines, table⟩ | reason
      · rw [table.read] at refused
        cases refused
      · exact reason
    · exact IsRefused.read
  · intro rows accepted
    rcases hasLines_or_isRefused text with ⟨header, lines, table⟩ | reason
    · rw [table.read] at accepted
      obtain rfl := Except.ok.inj accepted
      refine ⟨header, lines, table.filled, ?_⟩
      rw [List.forall₂_map_right_iff]
      exact List.forall₂_same.mpr fun line _ => holds_rowOf (headings header) (cellsOf line)
    · obtain ⟨fault, refused⟩ := reason.read
      rw [refused] at accepted
      cases accepted

/-- A line that ends early, and one with blanks, in a table with a repeated name. -/
theorem read_columns_of_blanks :
    let names := ["bean", "dose", "bean"]
    let first := Row.ofList [("bean", .number 12.0), ("dose", .text "x")]
    let second := Row.ofList [("bean", .number 7.0)]
    read "bean, dose,bean\r\n \n12,x\n,,7 \n" = .ok [first, second] ∧
      Holds names ["12", "x"] first ∧ Holds names ["", "", "7 "] second := by
  intro names first second
  let text := "bean, dose,bean\r\n \n12,x\n,,7 \n"
  have accepted : read text = .ok [first, second] := by decide
  have written : filledLines text = ["bean, dose,bean".toList, "12,x".toList, ",,7 ".toList] := by
    decide
  obtain ⟨header, lines, filled, held⟩ := (read_columns text).2 _ accepted
  rw [written] at filled
  cases filled
  cases held with
  | cons early others =>
    cases others with
    | cons blank _ => exact ⟨accepted, early, blank⟩

/-- Of two columns with one name the first can lose its cell. -/
theorem read_repeated_name :
    ¬ ∀ (text : String) (rows : List Row) (header : List Char) (lines : List (List Char)),
      read text = .ok rows → filledLines text = header :: lines →
        List.Forall₂ (fun line row => ∀ (column : Nat) (name : String),
          (headings header)[column]? = some name →
            row.get? name = (cellsOf line)[column]?.bind Cell.ofRaw?) lines rows := by
  intro kept
  let row := Row.ofList [("a", .number 2.0)]
  have accepted : read "a,a\n1,2\n" = .ok [row] := by decide +kernel
  have held := kept "a,a\n1,2\n" [row] "a,a".toList ["1,2".toList] accepted (by decide)
  cases held with
  | cons first _ => exact absurd (first 0 "a" (by decide)) (by decide)

end Table
end Cupping
