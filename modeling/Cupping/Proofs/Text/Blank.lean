import Cupping.Text.Blank
import Mathlib.Data.List.DropRight

/-!
Trimming. White space around a text makes no difference to the trimmed text, and a trimmed text has
none of it left.
-/

namespace Cupping.Text

theorem dropEndWhile_append {p : Char → Bool} {text after : List Char}
    (dropped : ∀ c ∈ after, p c = true) : dropEndWhile p (text ++ after) = dropEndWhile p text := by
  have reversed : ∀ c ∈ after.reverse, p c = true := fun c member =>
    dropped c (List.mem_reverse.mp member)
  rw [dropEndWhile, List.reverse_append, List.dropWhile_append_of_pos reversed, dropEndWhile]

/-- What is dropped from the end is what stands behind the rest. -/
theorem exists_dropEndWhile (p : Char → Bool) (text : List Char) :
    ∃ after, text = dropEndWhile p text ++ after ∧ ∀ c ∈ after, p c = true := by
  refine ⟨(text.reverse.takeWhile p).reverse, ?_, fun c member => ?_⟩
  · rw [dropEndWhile, ← List.reverse_append, List.takeWhile_append_dropWhile,
      List.reverse_reverse]
  · exact List.mem_takeWhile_imp (List.mem_reverse.mp member)

/-- White space around a text is not part of what is trimmed. -/
theorem trimChars_pad {before after : List Char} (ahead : ∀ c ∈ before, isBlankChar c = true)
    (behind : ∀ c ∈ after, isBlankChar c = true) (text : List Char) :
    trimChars (before ++ text ++ after) = trimChars text := by
  rw [trimChars, List.append_assoc, List.dropWhile_append_of_pos ahead, List.dropWhile_append,
    trimChars]
  split
  · rename_i nothing
    have left : text.dropWhile isBlankChar = [] := List.isEmpty_iff.mp nothing
    rw [left, List.dropWhile_eq_nil_iff.mpr behind]
  · exact dropEndWhile_append behind

/-- A text is its trimmed text with white space around it. -/
theorem exists_trimChars (text : List Char) :
    ∃ before after, text = before ++ trimChars text ++ after ∧
      (∀ c ∈ before, isBlankChar c = true) ∧ ∀ c ∈ after, isBlankChar c = true := by
  obtain ⟨after, whole, behind⟩ := exists_dropEndWhile isBlankChar (text.dropWhile isBlankChar)
  refine ⟨text.takeWhile isBlankChar, after, ?_, fun c => List.mem_takeWhile_imp, behind⟩
  rw [List.append_assoc, trimChars, ← whole, List.takeWhile_append_dropWhile]

theorem trimChars_trimChars (text : List Char) : trimChars (trimChars text) = trimChars text := by
  obtain ⟨before, after, whole, ahead, behind⟩ := exists_trimChars text
  have padded := trimChars_pad ahead behind (trimChars text)
  rw [← whole] at padded
  exact padded.symm

/-- A text without white space is trimmed. -/
theorem trimChars_of_seen {text : List Char} (seen : ∀ c ∈ text, isBlankChar c = false) :
    trimChars text = text := by
  obtain ⟨before, after, whole, ahead, behind⟩ := exists_trimChars text
  have nothing {part : List Char} (blank : ∀ c ∈ part, isBlankChar c = true)
      (within : ∀ c ∈ part, c ∈ text) : part = [] :=
    List.eq_nil_iff_forall_not_mem.mpr fun c inside =>
      absurd (blank c inside) (by simp [seen c (within c inside)])
  have first : before = [] := nothing ahead fun c inside => by
    rw [whole]
    exact List.mem_append_left _ (List.mem_append_left _ inside)
  have last : after = [] := nothing behind fun c inside => by
    rw [whole]
    exact List.mem_append_right _ inside
  rw [first, last, List.nil_append, List.append_nil] at whole
  exact whole.symm

theorem trimChars_eq_nil_iff {text : List Char} :
    trimChars text = [] ↔ ∀ c ∈ text, isBlankChar c = true := by
  constructor
  · intro nothing
    obtain ⟨before, after, whole, ahead, behind⟩ := exists_trimChars text
    rw [whole, nothing, List.append_nil]
    exact List.forall_mem_append.mpr ⟨ahead, behind⟩
  · intro blank
    rw [trimChars, List.dropWhile_eq_nil_iff.mpr blank]
    rfl

theorem toList_trim (text : String) : (trim text).toList = trimChars text.toList :=
  String.toList_ofList

theorem trim_trim (text : String) : trim (trim text) = trim text := by
  rw [trim, toList_trim, trimChars_trimChars, trim]

theorem isBlank_iff_trim {text : String} : isBlank text = true ↔ trim text = "" := by
  rw [isBlank, List.all_eq_true, ← trimChars_eq_nil_iff, trim, ← String.ofList_nil,
    String.ofList_inj]

/-- A trimmed text holds something else than white space, unless it is empty. -/
theorem isBlank_trim {text : String} (filled : trim text ≠ "") : isBlank (trim text) = false := by
  rw [Bool.eq_false_iff, ne_eq, isBlank_iff_trim, trim_trim]
  exact filled

/-- One character that can be seen is enough for a text that is not blank. -/
theorem isBlank_of_mem {text : String} {c : Char} (member : c ∈ text.toList)
    (seen : isBlankChar c = false) : isBlank text = false := by
  rw [isBlank, List.all_eq_false]
  exact ⟨c, member, by simp [seen]⟩

theorem exists_seen {text : String} (seen : isBlank text = false) :
    ∃ c ∈ text.toList, isBlankChar c = false := by
  obtain ⟨c, member, seen⟩ := List.all_eq_false.mp seen
  exact ⟨c, member, Bool.eq_false_iff.mpr seen⟩

end Cupping.Text
