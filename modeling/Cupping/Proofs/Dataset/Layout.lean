import Cupping.Proofs.Dataset.Columns
import Cupping.Proofs.Decimal.Notation
import Mathlib.Tactic.MkIffOfInductiveProp

/-!
Tables as they are written. The same rows can be laid out in many ways: with white space around the
cells, with blank lines anywhere, with either line end, and with empty cells at the end of a line
left out. Reading takes each of them back to the rows.
-/

namespace Cupping

namespace Table

/-- White space within a line. -/
def IsPadding (chars : List Char) : Prop :=
  ∀ c ∈ chars, Text.isBlankChar c = true ∧ c ≠ '\n'

instance (chars : List Char) : Decidable (IsPadding chars) :=
  List.decidableBAll _ chars

def IsLineEnd (ending : List Char) : Prop :=
  ending = ['\n'] ∨ ending = ['\r', '\n']

/-- A cell that shows a text, with white space around it. -/
def Pads (cell : List Char) (text : String) : Prop :=
  ∃ before after, IsPadding before ∧ IsPadding after ∧ cell = before ++ text.toList ++ after

/-- A line that shows some texts, one in each of its cells. -/
def Shows (line : List Char) (texts : List String) : Prop :=
  ∃ cells, line = [','].intercalate cells ∧ List.Forall₂ Pads cells texts

/-- A line that shows some texts, where empty ones at the end may be left out: there must still be a
comma then, or something to see. -/
inductive Writes (line : List Char) : List String → Prop where
  | whole {texts : List String} (shows : Shows line texts) : Writes line texts
  | short {texts : List String} (shows : Shows line texts)
      (visible : ',' ∈ line ∨ ∃ text ∈ texts, text ≠ "") (dropped : Nat) :
      Writes line (texts ++ List.replicate dropped "")

/-- A text with some lines, each with a line end of its own, and any blank lines between them. What
follows the last line end may be blank, or a line. -/
inductive LaysOut : List Char → List (List Char) → Prop where
  | nil {rest : List Char} (blank : IsPadding rest) : LaysOut rest []
  | last (line : List Char) : LaysOut line [line]
  | blank {line ending rest : List Char} {lines : List (List Char)} (blank : IsPadding line)
      (ended : IsLineEnd ending) (later : LaysOut rest lines) :
      LaysOut (line ++ ending ++ rest) lines
  | line {ending rest : List Char} {lines : List (List Char)} (line : List Char)
      (ended : IsLineEnd ending) (later : LaysOut rest lines) :
      LaysOut (line ++ ending ++ rest) (line :: lines)

/-- A text that can stand in a cell. -/
@[mk_iff]
structure IsPlain (text : String) : Prop where
  unbroken : '\n' ∉ text.toList
  whole : ',' ∉ text.toList
  trimmed : Text.trim text = text

instance (text : String) : Decidable (IsPlain text) :=
  decidable_of_iff _ (isPlain_iff text).symm

/-- What the cells of a row show under some names. -/
def textsOf (names : List String) (row : Row) : List String :=
  names.map fun name => ((row.cells.get? name).map Cell.display).getD ""

/-- The names of some columns, of which there is at least one. -/
structure IsHeader (names : List String) : Prop where
  some : names ≠ []
  filled : ∀ name ∈ names, name ≠ ""
  plain : ∀ name ∈ names, IsPlain name

/-- A text that shows the names of the columns, and then the rows. -/
def Renders (text : String) (names : List String) (rows : List Row) : Prop :=
  ∃ header lines, LaysOut text.toList (header :: lines) ∧ Shows header names ∧
    List.Forall₂ Writes lines (rows.map (textsOf names))

/-- The plainest of the texts that show some names and rows. -/
def write (names : List String) (rows : List Row) : String :=
  String.ofList ((names :: rows.map (textsOf names)).flatMap fun texts =>
    [','].intercalate (texts.map String.toList) ++ ['\n'])

end Table

namespace Cell

/-- A cell that is told from its text alone: a finite number that its text reads back as, or a text
that can stand in a cell and reads as no finite number. -/
def IsWritable : Cell → Prop
  | .number value => value.isFinite = true ∧ Decimal.read? (Decimal.display value) = some value
  | .text value => value ≠ "" ∧ Table.IsPlain value ∧ readNumber? value = none

instance : DecidablePred IsWritable
  | .number _ => inferInstanceAs (Decidable (_ ∧ _))
  | .text _ => inferInstanceAs (Decidable (_ ∧ _))

end Cell

/-- A row with cells that can be written, all of them under the names. -/
def Row.IsWritable (names : List String) (row : Row) : Prop :=
  ∀ entry ∈ row.cells.entries, entry.1 ∈ names ∧ entry.2.IsWritable

instance (names : List String) (row : Row) : Decidable (row.IsWritable names) :=
  inferInstanceAs (Decidable (∀ entry ∈ row.cells.entries, _))

theorem Row.IsWritable.of_get? {names : List String} {row : Row} (writable : row.IsWritable names)
    {name : String} {cell : Cell} (found : row.cells.get? name = some cell) :
    name ∈ names ∧ cell.IsWritable :=
  writable (name, cell) ((NameMap.mem_iff_lookup row.cells.ascending name cell).mpr found)

namespace Table

theorem exists_of_forall₂ {α β : Type} {related : α → β → Prop} {firsts : List α}
    {seconds : List β} (matched : List.Forall₂ related firsts seconds) {first : α}
    (listed : first ∈ firsts) : ∃ second ∈ seconds, related first second := by
  induction matched with
  | nil => cases listed
  | cons here _ ih =>
    rcases List.mem_cons.mp listed with rfl | later
    · exact ⟨_, .head _, here⟩
    · obtain ⟨second, member, there⟩ := ih later
      exact ⟨second, .tail _ member, there⟩

namespace Pads

variable {cell : List Char} {text : String}

/-- White space around a cell makes no difference. -/
theorem trim (pads : Pads cell text) : Text.trim (String.ofList cell) = Text.trim text := by
  obtain ⟨before, after, ahead, behind, rfl⟩ := pads
  rw [Text.trim, String.toList_ofList,
    Text.trimChars_pad (fun c member => (ahead c member).1) (fun c member => (behind c member).1)]
  rfl

/-- A cell has no other characters than its text and white space. -/
theorem notMem (pads : Pads cell text) {c : Char} (absent : c ∉ text.toList)
    (other : ¬ (Text.isBlankChar c = true ∧ c ≠ '\n')) : c ∉ cell := by
  obtain ⟨before, after, ahead, behind, rfl⟩ := pads
  rw [List.mem_append, List.mem_append]
  rintro ((inside | inside) | inside)
  · exact other (ahead c inside)
  · exact absent inside
  · exact other (behind c inside)

theorem unbroken (pads : Pads cell text) (plain : IsPlain text) : '\n' ∉ cell :=
  pads.notMem plain.unbroken (by decide)

theorem whole (pads : Pads cell text) (plain : IsPlain text) : ',' ∉ cell :=
  pads.notMem plain.whole (by decide)

theorem mem (pads : Pads cell text) {c : Char} (inside : c ∈ text.toList) : c ∈ cell := by
  obtain ⟨before, after, -, -, rfl⟩ := pads
  exact List.mem_append_left after (List.mem_append_right before inside)

end Pads

/-- A text that is not empty can be seen. -/
theorem IsPlain.exists_seen {text : String} (plain : IsPlain text) (filled : text ≠ "") :
    ∃ c ∈ text.toList, Text.isBlankChar c = false := by
  have seen := Text.isBlank_trim (plain.trimmed.symm ▸ filled)
  rw [plain.trimmed, Text.isBlank, List.all_eq_false] at seen
  simpa using seen

namespace Shows

variable {line : List Char} {texts : List String}

theorem unbroken (shows : Shows line texts) (plain : ∀ text ∈ texts, IsPlain text) :
    '\n' ∉ line := by
  obtain ⟨cells, rfl, padded⟩ := shows
  intro inside
  rcases Text.mem_intercalate inside with same | ⟨cell, listed, within⟩
  · exact absurd same (by decide)
  · obtain ⟨text, member, pads⟩ := exists_of_forall₂ padded listed
    exact pads.unbroken (plain text member) within

/-- A line has the cells that it shows. -/
theorem headings (shows : Shows line texts) (some : texts ≠ [])
    (plain : ∀ text ∈ texts, IsPlain text) : headings line = texts := by
  obtain ⟨cells, rfl, padded⟩ := shows
  have apart : ∀ cell ∈ cells, ',' ∉ cell := by
    intro cell listed
    obtain ⟨text, member, pads⟩ := exists_of_forall₂ padded listed
    exact pads.whole (plain text member)
  have cut : cells ≠ [] := by
    rintro rfl
    exact some (List.forall₂_nil_left_iff.mp padded)
  rw [Table.headings, cellsOf, List.splitOn_intercalate ',' apart cut]
  clear apart cut some
  induction padded with
  | nil => rfl
  | cons pads _ ih =>
    obtain ⟨first, others⟩ := List.forall_mem_cons.mp plain
    rw [List.map_cons, List.map_cons, pads.trim, first.trimmed, ih others]

/-- A line with a text that is not empty can be seen. -/
theorem exists_seen (shows : Shows line texts) (plain : ∀ text ∈ texts, IsPlain text)
    {text : String} (listed : text ∈ texts) (filled : text ≠ "") :
    ∃ c ∈ line, Text.isBlankChar c = false := by
  obtain ⟨cells, rfl, padded⟩ := shows
  obtain ⟨cell, member, pads⟩ := exists_of_forall₂ padded.flip listed
  obtain ⟨c, inside, seen⟩ := (plain text listed).exists_seen filled
  exact ⟨c, Text.mem_intercalate_of_mem member (Pads.mem pads inside), seen⟩

/-- Between two cells there is a comma. -/
theorem comma_mem (shows : Shows line texts) (several : 2 ≤ texts.length) : ',' ∈ line := by
  obtain ⟨cells, rfl, padded⟩ := shows
  cases padded with
  | nil => contradiction
  | cons _ others =>
    cases others with
    | nil => contradiction
    | cons _ _ =>
      rw [List.intercalate_cons_cons, List.append_assoc]
      exact List.mem_append_right _ (List.mem_append_left _ (List.mem_singleton.mpr rfl))

end Shows

/-- A line that is not blank. -/
structure IsLine (line : List Char) : Prop where
  unbroken : '\n' ∉ line
  seen : ∃ c ∈ line, Text.isBlankChar c = false

namespace Writes

variable {line : List Char} {texts : List String}

/-- A line that writes something shows all of it but for empty texts at the end. -/
theorem exists_shows (writes : Writes line texts) (some : texts ≠ [])
    (visible : 2 ≤ texts.length ∨ ∃ text ∈ texts, text ≠ "") :
    ∃ shown dropped, texts = shown ++ List.replicate dropped "" ∧ Shows line shown ∧ shown ≠ [] ∧
      (',' ∈ line ∨ ∃ text ∈ shown, text ≠ "") := by
  cases writes with
  | whole shows =>
    refine ⟨texts, 0, (List.append_nil texts).symm, shows, some, ?_⟩
    exact visible.imp_left shows.comma_mem
  | @short shown shows seen dropped =>
    refine ⟨shown, dropped, rfl, shows, ?_, seen⟩
    -- A line without cells has neither a comma nor anything to see.
    rintro rfl
    obtain ⟨cells, rfl, padded⟩ := shows
    obtain rfl := List.forall₂_nil_right_iff.mp padded
    simp at seen

/-- The line is not blank, and has the cells that it is to have, but for empty ones at its end. -/
theorem isLine (writes : Writes line texts) (some : texts ≠ [])
    (visible : 2 ≤ texts.length ∨ ∃ text ∈ texts, text ≠ "")
    (plain : ∀ text ∈ texts, IsPlain text) :
    IsLine line ∧ ∃ dropped, texts = headings line ++ List.replicate dropped "" := by
  obtain ⟨shown, dropped, rfl, shows, cut, seen⟩ := writes.exists_shows some visible
  have regular : ∀ text ∈ shown, IsPlain text :=
    fun text listed => plain text (List.mem_append_left _ listed)
  refine ⟨⟨shows.unbroken regular, ?_⟩, dropped, by rw [shows.headings cut regular]⟩
  rcases seen with comma | ⟨text, listed, filled⟩
  · exact ⟨',', comma, by decide⟩
  · exact shows.exists_seen regular listed filled

end Writes

/-- White space at the end of a line belongs to none of its cells. -/
theorem headings_append {after : List Char} (blank : ∀ c ∈ after, Text.isBlankChar c = true)
    (line : List Char) : headings (line ++ after) = headings line := by
  have apart : ',' ∉ after := fun inside => absurd (blank ',' inside) (by decide)
  obtain ⟨before, last, shorter, longer⟩ := Text.exists_splitOn_append apart line
  have same : Text.trimChars (last ++ after) = Text.trimChars last := by
    have ahead : ∀ c ∈ ([] : List Char), Text.isBlankChar c = true := by simp
    exact Text.trimChars_pad ahead blank last
  simp [headings, cellsOf, shorter, longer, Text.trim, same]

/-- A line as it is read, without the line end. -/
theorem lines_append_ending {line ending : List Char} (unbroken : '\n' ∉ line)
    (ended : IsLineEnd ending) (rest : List Char) :
    ∃ piece after, Text.lines (line ++ ending ++ rest) = piece :: Text.lines rest ∧
      line = piece ++ after ∧ ∀ c ∈ after, Text.isBlankChar c = true := by
  have blank : ∀ c ∈ ['\r'], Text.isBlankChar c = true := List.forall_mem_singleton.mpr rfl
  rcases ended with rfl | rfl
  -- White space at the end of the line may be a carriage return, which then goes with the feed.
  · have read := Text.lines_append_newline unbroken rest
    rw [← List.singleton_append, ← List.append_assoc] at read
    rcases Text.dropReturn_cases line with same | shorter
    · exact ⟨line, [], by rw [read, same], (List.append_nil line).symm, by simp⟩
    · exact ⟨Text.dropReturn line, ['\r'], read, shorter, blank⟩
  · have whole : '\n' ∉ line ++ ['\r'] := by simp [unbroken]
    have read := Text.lines_append_newline whole rest
    have same : Text.dropReturn (line ++ ['\r']) = line := by simp [Text.dropReturn]
    refine ⟨line, [], ?_, (List.append_nil line).symm, by simp⟩
    simpa [same] using read

theorem IsLine.all_eq_false {piece after : List Char} (regular : IsLine (piece ++ after))
    (blank : ∀ c ∈ after, Text.isBlankChar c = true) : piece.all Text.isBlankChar = false := by
  obtain ⟨c, inside, seen⟩ := regular.seen
  refine List.all_eq_false.mpr ⟨c, ?_, by simp [seen]⟩
  rcases List.mem_append.mp inside with here | behind
  · exact here
  · exact absurd (blank c behind) (by simp [seen])

/-- Of a text with some lines the lines that are not blank are read, with the same cells. -/
theorem LaysOut.headings {text : List Char} {lines : List (List Char)} (laid : LaysOut text lines)
    (regular : ∀ line ∈ lines, IsLine line) :
    ((Text.lines text).filter fun line => !line.all Text.isBlankChar).map Table.headings =
      lines.map Table.headings := by
  induction laid with
  | @nil rest blank =>
    have unbroken : '\n' ∉ rest := fun inside => (blank '\n' inside).2 rfl
    have all : rest.all Text.isBlankChar = true :=
      List.all_eq_true.mpr fun c inside => (blank c inside).1
    rw [Text.lines_of_unbroken unbroken]
    cases rest with
    | nil => rfl
    | cons c more => simp [all]
  | last line =>
    obtain ⟨unbroken, c, inside, seen⟩ := regular line (.head [])
    have some : line.isEmpty = false := by simpa using List.ne_nil_of_mem inside
    have all : line.all Text.isBlankChar = false :=
      List.all_eq_false.mpr ⟨c, inside, by simp [seen]⟩
    rw [Text.lines_of_unbroken unbroken]
    simp [some, all]
  | @blank line ending rest lines blank ended _ ih =>
    have unbroken : '\n' ∉ line := fun inside => (blank '\n' inside).2 rfl
    obtain ⟨piece, after, read, rfl, -⟩ := lines_append_ending unbroken ended rest
    have all : piece.all Text.isBlankChar = true :=
      List.all_eq_true.mpr fun c inside => (blank c (List.mem_append_left after inside)).1
    rw [read, List.filter_cons, all, ← ih regular]
    rfl
  | @line ending rest lines line ended _ ih =>
    obtain ⟨first, others⟩ := List.forall_mem_cons.mp regular
    obtain ⟨piece, after, read, rfl, blank⟩ := lines_append_ending first.unbroken ended rest
    rw [read, List.filter_cons, first.all_eq_false blank, List.map_cons,
      headings_append blank piece, ← ih others]
    rfl

theorem rowOf_eq (names cells : List String) :
    rowOf names cells = .ofList ((names.zip cells).filterMap fun column =>
      (Cell.ofRaw? column.2).map (column.1, ·)) := rfl

theorem rowOf_map_trim (names cells : List String) :
    rowOf names (cells.map Text.trim) = rowOf names cells := by
  rw [rowOf_eq, rowOf_eq, List.zip_map_right, List.filterMap_map]
  refine congrArg Row.ofList (List.filterMap_congr fun column _ => ?_)
  have same := Cell.ofRaw?_congr (Text.trim_trim column.2)
  rw [Function.comp_apply, Prod.map_snd, Prod.map_fst, same, id]

/-- All that matters about a text is what its lines that are not blank have in their cells. -/
theorem read_of_cells {text : String} {names : List String} {cells : List (List String)}
    (written : (filledLines text).map headings = names :: cells)
    (named : ∀ name ∈ names, name ≠ "") (fits : ∀ line ∈ cells, line.length ≤ names.length) :
    read text = .ok (cells.map (rowOf names)) := by
  obtain ⟨header, lines, filled, rfl, rfl⟩ := List.map_eq_cons_iff.mp written
  have table : HasLines text header lines := by
    refine ⟨filled, fun cell listed => named _ (List.mem_map_of_mem listed), fun line member => ?_⟩
    simpa [headings] using fits (headings line) (List.mem_map_of_mem member)
  rw [table.read, List.map_map]
  exact congrArg Except.ok
    (List.map_congr_left fun line _ => (rowOf_map_trim (headings header) (cellsOf line)).symm)

/-- Empty cells at the end of a line hold nothing. -/
theorem rowOf_append_empty (names cells : List String) (dropped : Nat) :
    rowOf names (cells ++ List.replicate dropped "") = rowOf names cells := by
  have nothing : Cell.ofRaw? "" = none := by decide
  rw [rowOf_eq, rowOf_eq]
  refine congrArg Row.ofList ?_
  induction names generalizing cells with
  | nil => rfl
  | cons name rest ih =>
    cases cells with
    | cons cell more => simp only [List.cons_append, List.zip_cons_cons, List.filterMap_cons, ih]
    | nil =>
      rw [List.nil_append, List.zip_nil_right, List.filterMap_nil, List.filterMap_eq_nil_iff]
      intro column member
      have empty : column.2 = "" := List.eq_of_mem_replicate (List.of_mem_zip member).2
      simp [empty, nothing]

end Table

namespace Cell.IsWritable

variable {cell : Cell}

theorem plain (writable : cell.IsWritable) : Table.IsPlain cell.display := by
  cases cell with
  | text _ => exact writable.2.1
  | number value =>
    have figures := Decimal.isFigure_display value
    refine ⟨fun feed => ?_, fun comma => (figures _ comma).ne_comma rfl, ?_⟩
    · exact absurd (figures _ feed).isBlankChar (by decide)
    · have kept := Text.trimChars_of_seen fun c inside => (figures c inside).isBlankChar
      exact (congrArg String.ofList kept).trans String.ofList_toList

theorem display_ne_empty (writable : cell.IsWritable) : cell.display ≠ "" := by
  cases cell with
  | text _ => exact writable.1
  | number value => exact Decimal.display_ne_empty value

/-- What a cell shows is read as the cell. -/
theorem ofRaw?_display (writable : cell.IsWritable) : ofRaw? cell.display = some cell := by
  have trimmed : Text.trim cell.display = cell.display := writable.plain.trimmed
  have filled : ¬ cell.display.isEmpty = true := by simp [writable.display_ne_empty]
  rw [ofRaw?, trimmed]
  simp only [if_neg filled]
  cases cell with
  | number value =>
    obtain ⟨finite, reads⟩ := writable
    simp [display, reads, Option.filter, finite]
  | text value =>
    obtain ⟨-, plain, other⟩ := writable
    rw [readNumber?, plain.trimmed] at other
    simp [display, other]

end Cell.IsWritable

namespace Table

/-- What a row shows under some names is read as the row. -/
theorem rowOf_textsOf {names : List String} {row : Row} (writable : row.IsWritable names) :
    rowOf names (textsOf names row) = row := by
  have cell (name : String) :
      Cell.ofRaw? (((row.cells.get? name).map Cell.display).getD "") = row.cells.get? name := by
    cases found : row.cells.get? name with
    | none => decide
    | some cell => exact (writable.of_get? found).2.ofRaw?_display
  have entries : rowOf names (textsOf names row) =
      .ofList (names.filterMap fun name => (row.cells.get? name).map (name, ·)) := by
    rw [rowOf_eq, textsOf, ← List.map_prod_left_eq_zip, List.filterMap_map]
    refine congrArg Row.ofList (List.filterMap_congr fun name _ => ?_)
    rw [Function.comp_apply, cell name]
  rw [entries, Row.ofList]
  refine congrArg Row.mk (NameMap.ext_get? fun name => ?_)
  by_cases listed : name ∈ names
  · exact NameMap.get?_ofList_filterMap listed fun other _ same => congrArg row.cells.get? same
  · have absent : ∀ other ∈ names, other ≠ name := fun other member same =>
      listed (same ▸ member)
    rw [NameMap.get?_ofList_filterMap_of_notMem absent]
    cases found : row.cells.get? name with
    | none => rfl
    | some cell => exact absurd (writable.of_get? found).1 listed

theorem isPlain_of_mem_textsOf {names : List String} {row : Row}
    (writable : row.IsWritable names) : ∀ text ∈ textsOf names row, IsPlain text := by
  intro text member
  obtain ⟨name, -, rfl⟩ := List.mem_map.mp member
  cases found : row.cells.get? name with
  | none => decide
  | some cell => exact (writable.of_get? found).2.plain

/-- A row with a cell shows something. -/
theorem exists_filled {names : List String} {row : Row} (writable : row.IsWritable names)
    (filled : row.cells.isEmpty = false) : ∃ text ∈ textsOf names row, text ≠ "" := by
  obtain ⟨⟨name, cell⟩, rest, entries⟩ :=
    List.exists_cons_of_ne_nil (List.isEmpty_eq_false_iff.mp filled)
  have member : (name, cell) ∈ row.cells.entries := entries ▸ .head rest
  have found : row.cells.get? name = some cell :=
    (NameMap.mem_iff_lookup row.cells.ascending name cell).mp member
  obtain ⟨listed, cells⟩ := writable (name, cell) member
  refine ⟨cell.display, List.mem_map.mpr ⟨name, listed, ?_⟩, cells.display_ne_empty⟩
  rw [found]
  rfl

/-- A line that writes a row is not too long, and is read as the row. -/
theorem Writes.rowOf {line : List Char} {names : List String} {row : Row}
    (writes : Writes line (textsOf names row)) (header : IsHeader names)
    (writable : row.IsWritable names) (visible : 2 ≤ names.length ∨ row.cells.isEmpty = false) :
    IsLine line ∧ (headings line).length ≤ names.length ∧
      Table.rowOf names (headings line) = row := by
  have size : (textsOf names row).length = names.length := List.length_map _
  have some : textsOf names row ≠ [] := by simpa [textsOf] using header.some
  have seen : 2 ≤ (textsOf names row).length ∨ ∃ text ∈ textsOf names row, text ≠ "" :=
    visible.imp (fun several => size ▸ several) (exists_filled writable)
  obtain ⟨regular, dropped, texts⟩ := writes.isLine some seen (isPlain_of_mem_textsOf writable)
  refine ⟨regular, ?_, ?_⟩
  · rw [← size, texts, List.length_append]
    exact Nat.le_add_right _ _
  · rw [← rowOf_append_empty names (headings line) dropped, ← texts, rowOf_textsOf writable]

/-- Lines that write rows are not too long, and are read as the rows. -/
theorem rows_of_written {lines : List (List Char)} {names : List String} {rows : List Row}
    (written : List.Forall₂ (fun line row => Writes line (textsOf names row)) lines rows)
    (header : IsHeader names) (writable : ∀ row ∈ rows, row.IsWritable names)
    (visible : 2 ≤ names.length ∨ ∀ row ∈ rows, row.cells.isEmpty = false) :
    (∀ line ∈ lines, IsLine line ∧ (headings line).length ≤ names.length) ∧
      (lines.map headings).map (Table.rowOf names) = rows := by
  induction written with
  | nil => simp
  | @cons line row lines rows writes _ ih =>
    obtain ⟨first, others⟩ := List.forall_mem_cons.mp writable
    obtain ⟨regular, fits, read⟩ :=
      writes.rowOf header first (visible.imp_right fun filled => filled row (.head rows))
    obtain ⟨later, rest⟩ :=
      ih others (visible.imp_right fun filled => (List.forall_mem_cons.mp filled).2)
    refine ⟨List.forall_mem_cons.mpr ⟨⟨regular, fits⟩, later⟩, ?_⟩
    rw [List.map_cons, List.map_cons, read, rest]

theorem Shows.isLine {line : List Char} {names : List String} (shows : Shows line names)
    (header : IsHeader names) : IsLine line := by
  obtain ⟨name, listed⟩ := List.exists_mem_of_ne_nil names header.some
  exact ⟨shows.unbroken header.plain,
    shows.exists_seen header.plain listed (header.filled name listed)⟩

theorem laysOut_lines (lines : List (List Char)) :
    LaysOut (lines.flatMap (· ++ ['\n'])) lines := by
  induction lines with
  | nil => exact .nil (by decide)
  | cons line rest ih => exact .line line (.inl rfl) ih

theorem shows_plain (texts : List String) :
    Shows ([','].intercalate (texts.map String.toList)) texts := by
  have padding : IsPadding [] := by decide
  refine ⟨_, rfl, List.forall₂_map_left_iff.mpr (List.forall₂_same.mpr fun text _ => ?_)⟩
  exact ⟨[], [], padding, padding, (List.append_nil _).symm⟩

theorem renders_write (names : List String) (rows : List Row) :
    Renders (write names rows) names rows := by
  let line (texts : List String) := [','].intercalate (texts.map String.toList)
  refine ⟨line names, (rows.map (textsOf names)).map line, ?_, shows_plain names, ?_⟩
  · rw [write, String.toList_ofList]
    have laid := laysOut_lines ((names :: rows.map (textsOf names)).map line)
    rw [List.flatMap_map] at laid
    exact laid
  · rw [List.forall₂_map_left_iff]
    exact List.forall₂_same.mpr fun texts _ => .whole (shows_plain texts)

/-- Rows below a header are read back from each of the texts that render them, and there is such a
text. A name may stand over several columns, which then show the same cells. -/
theorem read_renders {names : List String} {rows : List Row} (header : IsHeader names)
    (writable : ∀ row ∈ rows, row.IsWritable names)
    (visible : 2 ≤ names.length ∨ ∀ row ∈ rows, row.cells.isEmpty = false) :
    (∀ text, Renders text names rows → read text = .ok rows) ∧
      Renders (write names rows) names rows := by
  constructor
  · intro text renders
    obtain ⟨top, body, laid, shows, written⟩ := renders
    obtain ⟨regular, meant⟩ :=
      rows_of_written (List.forall₂_map_right_iff.mp written) header writable visible
    have cells : (filledLines text).map headings = (top :: body).map headings :=
      laid.headings (List.forall_mem_cons.mpr
        ⟨shows.isLine header, fun line member => (regular line member).1⟩)
    rw [List.map_cons, shows.headings header.some header.plain] at cells
    have fits : ∀ line ∈ body.map headings, line.length ≤ names.length :=
      List.forall_mem_map.mpr fun line member => (regular line member).2
    rw [read_of_cells cells header.filled fits, meant]
  · exact renders_write names rows

/-- A table with blank lines, both line ends, white space around the cells, a row without cells, and
one with a cell left out. -/
theorem read_renders_of_dose :
    let names := ["dose", "bean"]
    let first := Row.ofList [("dose", .number 12.5), ("bean", .text "a b")]
    let last := Row.ofList [("dose", .number 7)]
    let text := "\u3000\r\n dose,\u00a0bean \n12.5\t,a b\r\n\n,\n 7\r\n"
    let rows := [first, .ofList [], last]
    Renders text names rows ∧ read text = .ok rows := by
  intro names first last text rows
  have header : IsHeader names := ⟨by decide, by decide, by decide⟩
  have writable : ∀ row ∈ rows, row.IsWritable names := by decide +kernel
  have title : Shows " dose,\u00a0bean ".toList names :=
    ⟨[" dose".toList, "\u00a0bean ".toList], by decide, .cons ⟨" ".toList, [], by decide⟩
      (.cons ⟨"\u00a0".toList, " ".toList, by decide⟩ .nil)⟩
  have full : Shows "12.5\t,a b".toList ["12.5", "a b"] :=
    ⟨["12.5\t".toList, "a b".toList], by decide, .cons ⟨[], "\t".toList, by decide⟩
      (.cons ⟨[], [], by decide⟩ .nil)⟩
  have nothing : Shows ",".toList ["", ""] :=
    ⟨[[], []], by decide, .cons ⟨[], [], by decide⟩ (.cons ⟨[], [], by decide⟩ .nil)⟩
  have short : Shows " 7".toList ["7"] :=
    ⟨[" 7".toList], by decide, .cons ⟨" ".toList, [], by decide⟩ .nil⟩
  have written : List.Forall₂ Writes ["12.5\t,a b".toList, ",".toList, " 7".toList]
      (rows.map (textsOf names)) := by
    have texts : rows.map (textsOf names) =
        [["12.5", "a b"], ["", ""], ["7"] ++ List.replicate 1 ""] := by decide +kernel
    rw [texts]
    exact .cons (.whole full) (.cons (.whole nothing)
      (.cons (.short short (.inr (by decide)) 1) .nil))
  have empty : LaysOut [] [] := .nil (by decide)
  have blank : IsPadding [] ∧ IsPadding ['\u3000'] := by decide
  have built := LaysOut.blank blank.2 (.inr rfl) (.line " dose,\u00a0bean ".toList (.inl rfl)
    (.line "12.5\t,a b".toList (.inr rfl) (.blank blank.1 (.inl rfl) (.line ",".toList (.inl rfl)
      (.line " 7".toList (.inr rfl) empty)))))
  have laid : LaysOut text.toList _ := Eq.subst (motive := (LaysOut · _)) (by decide) built
  have renders : Renders text names rows := ⟨_, _, laid, title, written⟩
  exact ⟨renders, (read_renders header writable (.inl (by decide))).1 text renders⟩

end Table
end Cupping
