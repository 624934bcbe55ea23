import Cupping.Decimal.Notation
import Cupping.Text.Blank

/-!
The characters of a number as people read it. None of them is white space or a comma, so that a
number can stand in a line of words or of cells.
-/

namespace Cupping.Decimal

theorem isDigit_digitsOf (value : Nat) : ∀ c ∈ digitsOf value, c.isDigit = true :=
  fun _ member => Nat.isDigit_of_mem_toDigits (by omega) (by omega) member

/-- A character of a number as people read it. -/
def IsFigure (c : Char) : Prop :=
  c.isDigit = true ∨ c ∈ ['.', '-', 'N', 'a', 'i', 'n', 'f']

theorem isFigure_withPoint {digits : List Char} (all : ∀ c ∈ digits, IsFigure c) (after : Nat) :
    ∀ c ∈ withPoint digits after, IsFigure c := by
  have zero : IsFigure '0' := .inl rfl
  have point : IsFigure '.' := .inr (by decide)
  have padded : ∀ c ∈ List.replicate (after + 1 - digits.length) '0' ++ digits, IsFigure c := by
    intro c member
    rcases List.mem_append.mp member with ahead | inside
    · exact List.eq_of_mem_replicate ahead ▸ zero
    · exact all c inside
  intro c member
  rcases List.mem_append.mp member with ahead | behind
  · exact padded c (List.mem_of_mem_take ahead)
  · rcases List.mem_cons.mp behind with rfl | later
    · exact point
    · exact padded c (List.mem_of_mem_drop later)

theorem isFigure_positional (d : Decimal) : ∀ c ∈ positional d, IsFigure c := by
  have zero : IsFigure '0' := .inl rfl
  have digits : ∀ c ∈ digitsOf d.coefficient, IsFigure c :=
    fun c member => .inl (isDigit_digitsOf d.coefficient c member)
  unfold positional
  split
  · split
    · exact List.forall_mem_singleton.mpr zero
    · intro c member
      rcases List.mem_append.mp member with ahead | behind
      · exact digits c ahead
      · exact List.eq_of_mem_replicate behind ▸ zero
  · exact isFigure_withPoint digits _

theorem positional_ne_nil (d : Decimal) : positional d ≠ [] := by
  unfold positional
  split
  · split
    · exact List.cons_ne_nil '0' []
    · exact List.append_ne_nil_of_left_ne_nil Nat.toDigits_ne_nil _
  · exact List.append_ne_nil_of_right_ne_nil _ (List.cons_ne_nil _ _)

/-- A double is shown by one character or more. -/
theorem exists_figures (x : Float) :
    ∃ figures, display x = String.ofList figures ∧ figures ≠ [] ∧ ∀ c ∈ figures, IsFigure c := by
  have infinite : ∀ c ∈ ['i', 'n', 'f'], IsFigure c := by simp [IsFigure]
  have magnitude : ∃ digits, (if x.isInf then ['i', 'n', 'f'] else positional (ofMagnitude .up x)) =
      digits ∧ digits ≠ [] ∧ ∀ c ∈ digits, IsFigure c := by
    split
    · exact ⟨_, rfl, List.cons_ne_nil _ _, infinite⟩
    · exact ⟨_, rfl, positional_ne_nil _, isFigure_positional _⟩
  obtain ⟨digits, shown, some, all⟩ := magnitude
  unfold display
  split
  · exact ⟨['N', 'a', 'N'], rfl, List.cons_ne_nil _ _, by simp [IsFigure]⟩
  · refine ⟨signed (Binary64.isNegative x) digits, by rw [shown], ?_⟩
    cases Binary64.isNegative x with
    | false => exact ⟨some, all⟩
    | true => exact ⟨List.cons_ne_nil _ _, List.forall_mem_cons.mpr ⟨.inr (by decide), all⟩⟩

theorem display_ne_empty (x : Float) : display x ≠ "" := by
  obtain ⟨figures, shown, some, -⟩ := exists_figures x
  rw [shown, ne_eq, ← String.ofList_nil, String.ofList_inj]
  exact some

theorem isFigure_display (x : Float) : ∀ c ∈ (display x).toList, IsFigure c := by
  obtain ⟨figures, shown, -, all⟩ := exists_figures x
  rw [shown, String.toList_ofList]
  exact all

namespace IsFigure

variable {c : Char}

theorem isBlankChar (figure : IsFigure c) : Text.isBlankChar c = false := by
  rcases figure with digit | other
  · obtain ⟨low, high⟩ : 48 ≤ c.toNat ∧ c.toNat ≤ 57 := by
      simpa [Char.isDigit, UInt32.le_iff_toNat_le] using digit
    simp [Text.isBlankChar, Text.blankRanges]
    omega
  · simp only [List.mem_cons, List.not_mem_nil, or_false] at other
    rcases other with rfl | rfl | rfl | rfl | rfl | rfl | rfl <;> rfl

theorem ne_comma (figure : IsFigure c) : c ≠ ',' := by
  rintro rfl
  revert figure
  unfold IsFigure
  decide

end IsFigure

end Cupping.Decimal
