import Cupping.Text.Lines
import Mathlib.Data.List.Basic

/-!
Cutting a text at a character loses nothing: the pieces, joined by the character, are the text, and
none of them contains it.
-/

namespace Cupping.Text

theorem splitAt_eq_splitOn (separator : Char) (text : List Char) :
    splitAt separator text = text.splitOn separator := by
  induction text with
  | nil => rfl
  | cons c rest ih =>
    rw [splitAt, ih, List.splitOn_cons_eq_if_modifyHead]
    cases pieces : rest.splitOn separator with
    | nil => exact absurd pieces (List.splitOn_ne_nil separator rest)
    | cons piece more =>
      by_cases same : c = separator <;> simp [same]

theorem intercalate_splitAt (separator : Char) (text : List Char) :
    [separator].intercalate (splitAt separator text) = text := by
  rw [splitAt_eq_splitOn, List.intercalate_splitOn]

theorem splitAt_ne_nil (separator : Char) (text : List Char) : splitAt separator text ≠ [] := by
  rw [splitAt_eq_splitOn]
  exact List.splitOn_ne_nil separator text

theorem separator_notMem {separator : Char} {text piece : List Char}
    (member : piece ∈ splitAt separator text) : separator ∉ piece := by
  induction text generalizing piece with
  | nil =>
    obtain rfl := List.mem_singleton.mp member
    exact List.not_mem_nil
  | cons c rest ih =>
    rw [splitAt] at member
    cases pieces : splitAt separator rest with
    | nil => exact absurd pieces (splitAt_ne_nil separator rest)
    | cons first more =>
      rw [pieces] at member ih
      dsimp only at member
      split at member
      · rcases List.mem_cons.mp member with rfl | later
        · exact List.not_mem_nil
        · exact ih later
      · rename_i other
        rcases List.mem_cons.mp member with rfl | later
        · rw [List.mem_cons]
          rintro (same | inside)
          · exact other same.symm
          · exact ih List.mem_cons_self inside
        · exact ih (List.mem_cons_of_mem first later)

/-- The pieces of a text at its line feeds, as texts, join to the text. -/
theorem join_splitAt (text : String) :
    "\n".intercalate ((splitAt '\n' text.toList).map String.ofList) = text := by
  apply String.toList_injective
  have same : String.toList ∘ String.ofList = id := funext fun _ => String.toList_ofList
  rw [String.toList_intercalate, List.map_map, same, List.map_id]
  exact intercalate_splitAt '\n' text.toList

theorem mem_intercalate {separator c : Char} {pieces : List (List Char)}
    (member : c ∈ [separator].intercalate pieces) :
    c = separator ∨ ∃ piece ∈ pieces, c ∈ piece := by
  induction pieces with
  | nil => cases member
  | cons piece rest ih =>
    cases rest with
    | nil =>
      rw [List.intercalate_singleton] at member
      exact .inr ⟨piece, .head [], member⟩
    | cons second others =>
      rw [List.intercalate_cons_cons, List.append_assoc, List.mem_append] at member
      rcases member with inside | later
      · exact .inr ⟨piece, .head _, inside⟩
      · rcases List.mem_cons.mp later with same | later
        · exact .inl same
        · exact (ih later).imp_right fun ⟨found, listed, inside⟩ =>
            ⟨found, .tail piece listed, inside⟩

theorem mem_intercalate_of_mem {separator : List Char} {c : Char} {pieces : List (List Char)}
    {piece : List Char} (listed : piece ∈ pieces) (inside : c ∈ piece) :
    c ∈ separator.intercalate pieces := by
  induction pieces with
  | nil => cases listed
  | cons first rest ih =>
    cases rest with
    | nil =>
      rw [List.intercalate_singleton]
      exact List.mem_singleton.mp listed ▸ inside
    | cons second others =>
      rw [List.intercalate_cons_cons, List.append_assoc, List.mem_append]
      rcases List.mem_cons.mp listed with rfl | later
      · exact .inl inside
      · exact .inr (List.mem_append_right separator (ih later))

/-- A text is cut at a separator in it, whatever stands on its sides. -/
theorem splitAt_append_cons (separator : Char) (text rest : List Char) :
    splitAt separator (text ++ separator :: rest) =
      splitAt separator text ++ splitAt separator rest := by
  simp only [splitAt_eq_splitOn]
  induction text with
  | nil => simp [List.splitOn_cons_eq_if_modifyHead]
  | cons c text ih =>
    rw [List.cons_append, List.splitOn_cons_eq_if_modifyHead, List.splitOn_cons_eq_if_modifyHead,
      ih]
    split
    · rfl
    · cases pieces : text.splitOn separator with
      | nil => exact absurd pieces (List.splitOn_ne_nil separator text)
      | cons piece more => rfl

/-- What stands behind the last separator goes on in what follows, up to the next separator. -/
theorem exists_splitOn_append {separator : Char} {after : List Char} (apart : separator ∉ after)
    (text : List Char) :
    ∃ before last, text.splitOn separator = before ++ [last] ∧
      (text ++ after).splitOn separator = before ++ [last ++ after] := by
  induction text with
  | nil => exact ⟨[], [], rfl, List.splitOn_eq_singleton apart⟩
  | cons c rest ih =>
    obtain ⟨before, last, shorter, longer⟩ := ih
    rw [List.cons_append, List.splitOn_cons_eq_if_modifyHead, List.splitOn_cons_eq_if_modifyHead,
      shorter, longer]
    split
    · exact ⟨[] :: before, last, rfl, rfl⟩
    · cases before with
      | nil => exact ⟨[], c :: last, rfl, rfl⟩
      | cons first more => exact ⟨(c :: first) :: more, last, rfl, rfl⟩

/-- A line feed ends a line. -/
theorem lines_append_newline {line : List Char} (unbroken : '\n' ∉ line) (rest : List Char) :
    lines (line ++ '\n' :: rest) = dropReturn line :: lines rest := by
  have others : splitAt '\n' rest ≠ [] := splitAt_ne_nil '\n' rest
  have pieces : splitAt '\n' (line ++ '\n' :: rest) = line :: splitAt '\n' rest := by
    rw [splitAt_eq_splitOn, splitAt_eq_splitOn, List.splitOn_append_cons_self_of_not_mem unbroken]
  simp only [lines, pieces, List.dropLast_cons_of_ne_nil others, List.map_cons,
    List.getLast?_cons_of_ne_nil others, List.cons_append]

/-- A line keeps its characters, but for a carriage return at its end. -/
theorem dropReturn_cases (line : List Char) :
    dropReturn line = line ∨ line = dropReturn line ++ ['\r'] := by
  by_cases last : line.getLast? = some '\r'
  · exact .inr (by rw [dropReturn, if_pos last, List.dropLast_append_getLast? '\r' last])
  · exact .inl (if_neg last)

/-- Without a line feed there is no more than one line. -/
theorem lines_of_unbroken {line : List Char} (unbroken : '\n' ∉ line) :
    lines line = [line].filter (!·.isEmpty) := by
  rw [lines, splitAt_eq_splitOn, List.splitOn_eq_singleton unbroken]
  rfl

end Cupping.Text
