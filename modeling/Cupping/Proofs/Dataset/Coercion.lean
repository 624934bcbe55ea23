import Cupping.Proofs.Dataset.Wording

/-!
Numbers read early or late. A cell can be coerced when its text is read, or stay a text until its
number is asked for; both give the same number, and both call the same cells absent. So it makes no
difference to a row which of its cells have been coerced.
-/

namespace Cupping

namespace Cell

theorem readNumber?_of_blank {raw : String} (blank : Text.trim raw = "") :
    readNumber? raw = none := by
  rw [readNumber?, blank]
  rfl

/-- A number is read from the text of a cell when it is coerced, or whenever it is asked for. -/
theorem bind_number?_ofRaw? (raw : String) : (ofRaw? raw).bind number? = (text raw).number? := by
  by_cases blank : Text.trim raw = ""
  · rw [ofRaw?_of_blank blank, number?, readNumber?_of_blank blank, Option.bind_none]
  · rw [ofRaw?_of_filled blank, Option.bind_some, number?_ofShown, number?, readNumber?,
      Text.trim_trim, readNumber?]

theorem ofRaw?_eq_none_iff (raw : String) : ofRaw? raw = none ↔ (text raw).isBlank = true := by
  rw [isBlank, Text.isBlank_iff_trim]
  by_cases blank : Text.trim raw = ""
  · exact iff_of_true (ofRaw?_of_blank blank) blank
  · rw [ofRaw?_of_filled blank]
    exact iff_of_false (Option.some_ne_none _) blank

/-- What is left a text has been trimmed, and would be left the same text again. -/
theorem ofRaw?_of_ofRaw?_text {raw shown : String} (read : ofRaw? raw = some (.text shown)) :
    Text.trim shown = shown ∧ ofRaw? shown = some (.text shown) := by
  have filled : Text.trim raw ≠ "" := fun blank => by
    rw [ofRaw?_of_blank blank] at read
    cases read
  have trimmed : Text.trim raw = shown := by
    rw [ofRaw?_of_filled filled, Option.some.injEq, ofShown_eq] at read
    cases value : readNumber? (Text.trim raw) with
    | none =>
      rw [value] at read
      exact text.inj read
    | some number =>
      rw [value] at read
      cases read
  have settled : Text.trim shown = shown := by rw [← trimmed, Text.trim_trim]
  exact ⟨settled, (ofRaw?_congr (settled.trans trimmed.symm)).trans read⟩

/-- What may be kept of a text. -/
inductive Storage where
  | asText
  | coerced

/-- The cell that is kept of a text, if there is one. -/
def Storage.cell? : Storage → String → Option Cell
  | asText, raw => some (.text raw)
  | coerced, raw => ofRaw? raw

variable (storage : Storage) (raw : String)

/-- A text with something else than white space is present, however it is kept. -/
theorem Storage.isSome_cell? :
    ((storage.cell? raw).filter (!·.isBlank)).isSome = !Text.isBlank raw := by
  cases storage with
  | asText => cases blank : Text.isBlank raw <;> simp [cell?, isBlank, blank]
  | coerced =>
    cases read : ofRaw? raw with
    | none =>
      have blank : Text.isBlank raw = true := (ofRaw?_eq_none_iff raw).mp read
      simp [cell?, read, blank]
    | some cell =>
      have filled : Text.isBlank raw = false := by
        rw [Bool.eq_false_iff]
        exact fun blank => Option.some_ne_none cell (read ▸ (ofRaw?_eq_none_iff raw).mpr blank)
      simp [cell?, read, isBlank_of_ofRaw? read, filled]

/-- A text has the number that it is read as, however it is kept. -/
theorem Storage.number?_cell? :
    ((storage.cell? raw).filter (!·.isBlank)).bind number? = readNumber? raw := by
  cases storage with
  | asText =>
    rw [cell?, Option.filter_some, isBlank]
    cases blank : Text.isBlank raw with
    | false => rw [Bool.not_false, if_pos rfl, Option.bind_some, number?]
    | true =>
      rw [Bool.not_true, if_neg Bool.false_ne_true, Option.bind_none,
        readNumber?_of_blank (Text.isBlank_iff_trim.mp blank)]
  | coerced =>
    have present : (ofRaw? raw).filter (!·.isBlank) = ofRaw? raw := by
      cases read : ofRaw? raw with
      | none => rfl
      | some cell => rw [Option.filter_some, isBlank_of_ofRaw? read, Bool.not_false, if_pos rfl]
    rw [cell?, present, bind_number?_ofRaw?, number?]

end Cell

namespace Row

open Cell (Storage)

/-- The row of some texts, with the cell of each column kept in its own way. -/
def ofTexts (storage : String → Storage) (texts : NameMap String) : Row :=
  ofList (texts.entries.filterMap fun column =>
    ((storage column.1).cell? column.2).map (column.1, ·))

variable (storage : String → Storage) (texts : NameMap String) (name : String)

theorem cells_ofTexts :
    (ofTexts storage texts).cells.get? name = (texts.get? name).bind (storage name).cell? := by
  cases found : texts.get? name with
  | none =>
    refine NameMap.get?_ofList_filterMap_of_notMem fun column listed same => ?_
    have held : texts.get? column.1 = some column.2 :=
      (NameMap.mem_iff_lookup texts.ascending _ _).mp listed
    rw [same, found] at held
    cases held
  | some raw =>
    have listed : (name, raw) ∈ texts.entries :=
      (NameMap.mem_iff_lookup texts.ascending _ _).mpr found
    refine @NameMap.get?_ofList_filterMap _ _ _ Prod.fst _ _ listed fun column other same => ?_
    have held : texts.get? column.1 = some column.2 :=
      (NameMap.mem_iff_lookup texts.ascending _ _).mp other
    have equal : column.2 = raw := Option.some.inj (held.symm.trans (same ▸ found))
    dsimp only at same ⊢
    rw [same, equal]

theorem isPresent_ofTexts :
    (ofTexts storage texts).isPresent name = (texts.get? name).any (!Text.isBlank ·) := by
  rw [isPresent, get?, cells_ofTexts]
  cases texts.get? name with
  | none => rfl
  | some raw => exact (storage name).isSome_cell? raw

theorem number?_ofTexts :
    (ofTexts storage texts).number? name = (texts.get? name).bind Cell.readNumber? := by
  rw [number?, get?, cells_ofTexts]
  cases texts.get? name with
  | none => rfl
  | some raw =>
    rw [Option.bind_some, Option.bind_some]
    exact (storage name).number?_cell? raw

/-- A list of columns with different names has one text for each name. -/
theorem snd_eq_of_mem_zip {headers cells : List String} {name raw other : String}
    (distinct : headers.Nodup) (listed : (name, raw) ∈ headers.zip cells)
    (again : (name, other) ∈ headers.zip cells) : other = raw := by
  induction headers generalizing cells with
  | nil => cases listed
  | cons header rest ih =>
    obtain ⟨fresh, later⟩ := List.nodup_cons.mp distinct
    cases cells with
    | nil => cases listed
    | cons cell more =>
      rw [List.zip_cons_cons, List.mem_cons, Prod.mk.injEq] at listed again
      rcases listed with ⟨rfl, rfl⟩ | listed
      · rcases again with ⟨-, rfl⟩ | again
        · rfl
        · exact absurd (List.of_mem_zip again).1 fresh
      · rcases again with ⟨rfl, -⟩ | again
        · exact absurd (List.of_mem_zip listed).1 fresh
        · exact ih later listed again

/-- A table whose columns have different names makes rows of coerced cells. -/
theorem rowOf_eq_ofTexts {headers : List String} (distinct : headers.Nodup)
    (cells : List String) :
    Table.rowOf headers cells =
      ofTexts (fun _ => .coerced) (NameMap.ofList (headers.zip cells)) := by
  have same : (Table.rowOf headers cells).cells =
      (ofTexts (fun _ => .coerced) (NameMap.ofList (headers.zip cells))).cells := by
    refine NameMap.ext_get? fun name => ?_
    rw [cells_ofTexts, Table.rowOf, ofList]
    by_cases present : ∃ raw, (name, raw) ∈ headers.zip cells
    · obtain ⟨raw, listed⟩ := present
      have single : ∀ column ∈ headers.zip cells, column.1 = name → column.2 = raw := by
        rintro ⟨header, other⟩ again rfl
        exact snd_eq_of_mem_zip distinct listed again
      rw [NameMap.get?_ofList_eq_some listed single, Option.bind_some]
      refine @NameMap.get?_ofList_filterMap _ _ _ Prod.fst _ _ listed fun column again here => ?_
      rw [single column again here]
    · have absent : ∀ column ∈ headers.zip cells, column.1 ≠ name := by
        rintro ⟨header, raw⟩ listed rfl
        exact present ⟨raw, listed⟩
      rw [NameMap.get?_ofList_eq_none absent, Option.bind_none]
      exact NameMap.get?_ofList_filterMap_of_notMem absent
  exact congrArg Row.mk same

/-- Coercing a text and then asking for its number is asking the text for its number. A text is
dropped exactly if it is blank, and one that is left a text is settled. So a row answers alike
whether its cells have been coerced or not. -/
theorem coercion_agrees :
    (∀ raw, (Cell.ofRaw? raw).bind Cell.number? = (Cell.text raw).number?) ∧
    (∀ raw, Cell.ofRaw? raw = none ↔ (Cell.text raw).isBlank = true) ∧
    (∀ raw shown, Cell.ofRaw? raw = some (.text shown) →
      Text.trim shown = shown ∧ Cell.ofRaw? shown = some (.text shown)) ∧
    ∀ (storage other : String → Storage) (texts : NameMap String) (name : String),
      (ofTexts storage texts).isPresent name = (ofTexts other texts).isPresent name ∧
        (ofTexts storage texts).number? name = (ofTexts other texts).number? name := by
  refine ⟨Cell.bind_number?_ofRaw?, Cell.ofRaw?_eq_none_iff, fun _ _ => Cell.ofRaw?_of_ofRaw?_text,
    fun storage other texts name => ⟨?present, ?number⟩⟩
  case present => rw [isPresent_ofTexts, isPresent_ofTexts]
  case number => rw [number?_ofTexts, number?_ofTexts]

/-- A literal beyond the largest double is left a text, and stays one. -/
theorem coercion_agrees_on_overflow :
    Cell.ofRaw? "\u00a0-1e999 " = some (.text "-1e999") ∧
      Text.trim "-1e999" = "-1e999" ∧ Cell.ofRaw? "-1e999" = some (.text "-1e999") := by
  have read : Cell.ofRaw? "\u00a0-1e999 " = some (.text "-1e999") := by decide +kernel
  exact ⟨read, coercion_agrees.2.2.1 _ _ read⟩

end Row

end Cupping
