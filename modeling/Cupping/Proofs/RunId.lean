import Cupping.RunId
import Mathlib.Algebra.Ring.Nat
import Mathlib.Data.List.Basic

/-!
The text that is written for the identifier of a run reads back as the identifier.
-/

namespace Cupping.RunId

theorem readDigit?_writeDigit (digit : Fin 16) : readDigit? (writeDigit digit) = some digit := by
  decide +revert

theorem hyphenate_cons (size next : Nat) (more : List Nat) (text : List Char) :
    hyphenate (size :: next :: more) text =
      text.take size ++ '-' :: hyphenate (next :: more) (text.drop size) :=
  rfl

/-- Groups that take up the whole text are found again. -/
theorem unhyphenate?_hyphenate (size : Nat) (more : List Nat) {text : List Char}
    (whole : text.length = (size :: more).sum) :
    unhyphenate? (size :: more) (hyphenate (size :: more) text) = some text := by
  induction more generalizing size text with
  | nil =>
    have fits : text.length = size := by simpa using whole
    exact if_pos fits
  | cons next more ih =>
    have least : size ≤ text.length := by
      rw [whole, List.sum_cons]
      omega
    have taken : (text.take size).length = size := List.length_take_of_le least
    have rest : (text.drop size).length = (next :: more).sum := by
      rw [List.length_drop, whole, List.sum_cons]
      omega
    rw [hyphenate_cons, unhyphenate?, List.drop_left' taken, List.take_left' taken]
    · change (unhyphenate? (next :: more) _).map (text.take size ++ ·) = some text
      rw [ih next rest, Option.map_some, List.take_append_drop]
    · simp

theorem length_hyphenate (size : Nat) (more : List Nat) {text : List Char}
    (whole : text.length = (size :: more).sum) :
    (hyphenate (size :: more) text).length = text.length + more.length := by
  induction more generalizing size text with
  | nil => rfl
  | cons next more ih =>
    have rest : (text.drop size).length = (next :: more).sum := by
      rw [List.length_drop, whole, List.sum_cons]
      omega
    have parts : (text.take size).length + (text.drop size).length = text.length := by
      rw [← List.length_append, List.take_append_drop]
    rw [hyphenate_cons, List.length_append, List.length_cons, ih next rest, List.length_cons]
    omega

theorem mem_hyphenate {sizes : List Nat} {text : List Char} {c : Char}
    (member : c ∈ hyphenate sizes text) : c = '-' ∨ c ∈ text := by
  induction sizes generalizing text with
  | nil => exact .inr member
  | cons size more ih =>
    cases more with
    | nil => exact .inr member
    | cons next more =>
      rw [hyphenate_cons, List.mem_append, List.mem_cons] at member
      rcases member with first | hyphen | later
      · exact .inr (List.mem_of_mem_take first)
      · exact .inl hyphen
      · exact (ih later).imp_right List.mem_of_mem_drop

/-- An identifier is written with digits and hyphens only. -/
theorem mem_write {id : RunId} {c : Char} (member : c ∈ id.write.toList) :
    c = '-' ∨ ∃ digit, c = writeDigit digit := by
  rw [write, String.toList_ofList] at member
  refine (mem_hyphenate member).imp_right fun inside => ?_
  obtain ⟨digit, -, written⟩ := List.mem_map.mp inside
  exact ⟨digit, written.symm⟩

/-- Nothing is wrapped around an identifier that starts with one of its digits. -/
theorem unwrap_digit (digit : Fin 16) (rest : List Char) :
    unwrap (writeDigit digit :: rest) = writeDigit digit :: rest := by
  have noUrn : writeDigit digit ≠ 'u' := by decide +revert
  have noBrace : writeDigit digit ≠ '{' := by decide +revert
  unfold unwrap
  split
  · rename_i shape
    exact absurd (List.cons.inj shape).1 noUrn
  · rename_i shape
    exact absurd (List.cons.inj shape).1 noBrace
  · rfl

theorem mapM_readDigit? (digits : List (Fin 16)) :
    (digits.map writeDigit).mapM readDigit? = some digits := by
  induction digits with
  | nil => rfl
  | cons digit rest ih =>
    rw [List.map_cons, List.mapM_cons, readDigit?_writeDigit, ih]
    rfl

theorem ofText?_write (id : RunId) : ofText? id.write = some id := by
  have whole : (id.digits.map writeDigit).length = groupSizes.sum := by
    rw [List.length_map, id.size]
    rfl
  have long : (hyphenate groupSizes (id.digits.map writeDigit)).length ≠ 32 := by
    rw [groupSizes, length_hyphenate 8 _ whole, List.length_map, id.size]
    decide
  have bare : unwrap (hyphenate groupSizes (id.digits.map writeDigit)) =
      hyphenate groupSizes (id.digits.map writeDigit) := by
    cases shape : id.digits with
    | nil => exact absurd id.size (by simp [shape])
    | cons digit rest => exact unwrap_digit digit _
  have plain : plainDigits? id.write.toList = some (id.digits.map writeDigit) := by
    rw [write, String.toList_ofList, plainDigits?, if_neg long, bare]
    exact unhyphenate?_hyphenate 8 _ whole
  have made : ofDigits? id.digits = some id := dif_pos id.size
  rw [ofText?, plain, Option.bind_eq_bind, Option.bind_some, mapM_readDigit?]
  exact made

end Cupping.RunId
