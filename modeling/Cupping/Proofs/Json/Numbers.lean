import Cupping.Json.Numeral
import Cupping.Json.Record
import Cupping.Json.Token
import Cupping.Json.Writing
import Cupping.Proofs.Decimal.Notation
import Mathlib.Data.List.TakeWhile

/-!
Numbers as JSON text. A whole number of 64 bits reads back as itself. A double has a point or an
exponent, so that it is read as a double again; that it is the same one is no matter of form.
-/

namespace Cupping.Json

namespace Numeral

theorem spanDigits_digits {digits : List Char} (all : ∀ c ∈ digits, c.isDigit = true) :
    Decimal.spanDigits digits = (digits, []) := by
  rw [Decimal.spanDigits, List.takeWhile_eq_self_iff.mpr all, List.dropWhile_eq_nil_iff.mpr all]

theorem le_ofDigitChars (digits : List Char) (start : Nat) :
    start ≤ Nat.ofDigitChars 10 digits start := by
  induction digits generalizing start with
  | nil => exact Nat.le_refl start
  | cons digit rest ih =>
    rw [Nat.ofDigitChars_cons]
    have later := ih (10 * start + (digit.toNat - '0'.toNat))
    omega

/-- As long as all of the digits fit, gathering them drops none. -/
theorem gather_fit {significand : Nat} {digits : List Char}
    (fits : Nat.ofDigitChars 10 digits significand < Nat.pow 2 64) :
    gather significand digits = (Nat.ofDigitChars 10 digits significand, 0) := by
  induction digits generalizing significand with
  | nil => rfl
  | cons digit rest ih =>
    rw [Nat.ofDigitChars_cons] at fits ⊢
    rw [gather, if_pos (Nat.lt_of_le_of_lt (le_ofDigitChars rest _) fits), ih fits]

/-- No digits of a number start with a zero, except for those of zero. -/
theorem isWholePart_digitsOf (value : Nat) : isWholePart (Decimal.digitsOf value) = true := by
  unfold Decimal.digitsOf
  induction value using Nat.strongRecOn with
  | ind value ih =>
    rw [Nat.toDigits_eq_if (by omega)]
    split
    · rename_i small
      clear ih
      decide +revert
    · rename_i large
      have before := ih (value / 10) (by omega)
      have positive : Nat.toDigits 10 (value / 10) ≠ ['0'] := by
        intro zero
        have same := congrArg (Nat.ofDigitChars 10 · 0) zero
        rw [Nat.ofDigitChars_ten_toDigits, show Nat.ofDigitChars 10 ['0'] 0 = 0 from rfl] at same
        omega
      cases digits : Nat.toDigits 10 (value / 10) with
      | nil => exact absurd digits Nat.toDigits_ne_nil
      | cons first rest =>
        rw [digits] at before positive
        cases rest with
        | nil =>
          have other : first ≠ '0' := fun same => positive (by rw [same])
          simp [isWholePart, other]
        | cons second rest => simpa [isWholePart] using before

theorem unsigned?_digitsOf (negative : Bool) (value : Nat) :
    unsigned? negative (Decimal.digitsOf value) =
      some ⟨negative, Decimal.digitsOf value, [], none⟩ := by
  unfold unsigned?
  rw [spanDigits_digits (Decimal.isDigit_digitsOf value)]
  simp [isWholePart_digitsOf, fraction?, exponent?]

theorem value?_digitsOf (negative : Bool) {value : Nat} (fits : value < Nat.pow 2 64) :
    (Numeral.mk negative (Decimal.digitsOf value) [] none).value? =
      some (wholeValue negative value) := by
  have whole : Nat.ofDigitChars 10 (Decimal.digitsOf value) 0 = value :=
    Nat.ofDigitChars_ten_toDigits
  have gathered : gather 0 (Decimal.digitsOf value) = (value, 0) := by
    rw [gather_fit (by rwa [whole]), whole]
  simp [value?, gathered]

end Numeral

namespace Value

/-- Only the three names are read as something else than a number. -/
theorem ofWord?_numeral {word : List Char} {first : Char} {rest : List Char}
    (shape : word = first :: rest) (other : first ∉ ['n', 't', 'f']) :
    ofWord? word = (Numeral.ofChars? word).map fun numeral =>
      match numeral.value? with
      | some value => .number value
      | none => .unreadable := by
  simp only [List.mem_cons, List.not_mem_nil, or_false, not_or] at other
  obtain ⟨notNull, notTrue, notFalse⟩ := other
  have noNull : word ≠ ['n', 'u', 'l', 'l'] := by simp [shape, notNull]
  have noTrue : word ≠ ['t', 'r', 'u', 'e'] := by simp [shape, notTrue]
  have noFalse : word ≠ ['f', 'a', 'l', 's', 'e'] := by simp [shape, notFalse]
  exact (if_neg noNull).trans ((if_neg noTrue).trans (if_neg noFalse))

theorem ofChars?_signed (negative : Bool) (value : Nat) :
    Numeral.ofChars? (Decimal.signed negative (Decimal.digitsOf value)) =
      Numeral.unsigned? negative (Decimal.digitsOf value) := by
  cases negative with
  | true => rfl
  | false =>
    have digits := Decimal.isDigit_digitsOf value
    change Numeral.ofChars? (Decimal.digitsOf value) = _
    unfold Numeral.ofChars?
    split
    · rename_i rest shape
      have sign := digits '-' (by simp [shape])
      contradiction
    · rfl

/-- A whole number of 64 bits, with or without sign, reads back as itself. -/
theorem ofWord?_whole {value : Int} (least : -Nat.pow 2 63 ≤ value)
    (most : value < Nat.pow 2 64) :
    ofWord? (Number.whole value).write = some (.number (.whole value)) := by
  simp only [Nat.pow_eq] at least most
  have fits : value.natAbs < Nat.pow 2 64 := by
    simp only [Nat.pow_eq]
    omega
  have all := Decimal.isDigit_digitsOf value.natAbs
  obtain ⟨first, rest, shape, other⟩ : ∃ first rest, (Number.whole value).write = first :: rest ∧
      first ∉ ['n', 't', 'f'] := by
    rw [Number.write, Decimal.signed]
    split
    · exact ⟨'-', _, rfl, by decide⟩
    · cases digits : Decimal.digitsOf value.natAbs with
      | nil => exact absurd digits Nat.toDigits_ne_nil
      | cons first rest =>
        have digit := all first (by simp [digits])
        refine ⟨first, rest, rfl, fun letter => ?_⟩
        simp only [List.mem_cons, List.not_mem_nil, or_false] at letter
        rcases letter with rfl | rfl | rfl <;> contradiction
  rw [ofWord?_numeral shape other, Number.write, ofChars?_signed, Numeral.unsigned?_digitsOf,
    Option.map_some, Numeral.value?_digitsOf _ fits]
  have read : Numeral.wholeValue (decide (value < 0)) value.natAbs = .whole value := by
    unfold Numeral.wholeValue
    simp only [Nat.pow_eq]
    by_cases negative : value < 0
    · have inRange : ¬ (value.natAbs = 0 ∨ 2 ^ 63 < value.natAbs) := by omega
      rw [decide_eq_true negative, if_neg Bool.noConfusion, if_neg inRange]
      congr 1
      omega
    · rw [decide_eq_false negative, Bool.not_false, if_pos rfl]
      congr 1
      omega
  rw [read]

end Value

namespace Numeral

/-- A number without fraction and exponent is made of digits. -/
theorem isDigit_of_unsigned? {negative : Bool} {text : List Char} {numeral : Numeral}
    (read : unsigned? negative text = some numeral) (noFraction : numeral.fraction = [])
    (noExponent : numeral.exponent = none) : ∀ c ∈ text, c.isDigit = true := by
  unfold unsigned? Decimal.spanDigits at read
  dsimp only at read
  split at read
  · contradiction
  obtain ⟨⟨fraction, rest⟩, split, read⟩ := Option.bind_eq_some_iff.mp read
  obtain ⟨exponent, ended, same⟩ := Option.bind_eq_some_iff.mp read
  obtain rfl := Option.some.inj same
  obtain rfl : fraction = [] := noFraction
  obtain rfl : exponent = none := noExponent
  have nothing : rest = [] := by
    cases rest with
    | nil => rfl
    | cons c more =>
      obtain ⟨value, -, same⟩ := Option.map_eq_some_iff.mp ended
      contradiction
  have none : text.dropWhile Char.isDigit = [] := by
    unfold fraction? at split
    split at split
    · split at split
      · contradiction
      · rename_i filled
        simp_all
    · simp_all
  exact List.dropWhile_eq_nil_iff.mp none

/-- Only such a number can be whole. -/
theorem form_of_value?_whole {numeral : Numeral} {value : Int}
    (valued : numeral.value? = some (.whole value)) :
    numeral.fraction = [] ∧ numeral.exponent = none := by
  unfold value? at valued
  dsimp only at valued
  split at valued
  · rename_i plain
    simp only [Bool.and_eq_true, List.isEmpty_iff, Option.isNone_iff_eq_none] at plain
    exact plain.1
  · obtain ⟨scaled, -, same⟩ := Option.map_eq_some_iff.mp valued
    contradiction

end Numeral

namespace Value

theorem digits_of_ofWord?_whole {word : List Char} {value : Int}
    (read : ofWord? word = some (.number (.whole value))) :
    ∀ c ∈ word, c.isDigit = true ∨ c = '-' := by
  unfold ofWord? at read
  split_ifs at read
  · simp at read
  · simp at read
  · simp at read
  obtain ⟨numeral, parsed, valued⟩ := Option.map_eq_some_iff.mp read
  have whole : numeral.value? = some (.whole value) := by
    split at valued
    · rename_i number found
      rw [found, Value.number.inj valued]
    · contradiction
  obtain ⟨noFraction, noExponent⟩ := Numeral.form_of_value?_whole whole
  intro c member
  unfold Numeral.ofChars? at parsed
  split at parsed
  · rcases List.mem_cons.mp member with sign | later
    · exact .inr sign
    · exact .inl (Numeral.isDigit_of_unsigned? parsed noFraction noExponent c later)
  · exact .inl (Numeral.isDigit_of_unsigned? parsed noFraction noExponent c member)

end Value

/-- Whether a character may occur in a written number. -/
def isNumeric (c : Char) : Bool :=
  c.isDigit || c = '.' || c = 'e' || c = '+' || c = '-'

theorem isNumeric_of_isDigit {c : Char} (digit : c.isDigit = true) : isNumeric c = true := by
  simp [isNumeric, digit]

theorem isLetter_of_isNumeric {c : Char} (numeric : isNumeric c = true) :
    Lexing.isLetter c = true := by
  simp only [isNumeric, Bool.or_eq_true, decide_eq_true_eq] at numeric
  rcases numeric with (((digit | rfl) | rfl) | rfl) | rfl
  · simp [Lexing.isLetter, Char.isAlphanum, digit]
  all_goals rfl

section Doubles

open Decimal

/-- A text of the characters of a number that does not look like a whole one. -/
def LooksReal (text : List Char) : Prop :=
  (∀ c ∈ text, isNumeric c = true) ∧ ('.' ∈ text ∨ 'e' ∈ text)

theorem isNumeric_digitsOf (value : Nat) : ∀ c ∈ digitsOf value, isNumeric c = true :=
  fun c member => isNumeric_of_isDigit (Decimal.isDigit_digitsOf value c member)

theorem isNumeric_zeros (count : Nat) : ∀ c ∈ List.replicate count '0', isNumeric c = true := by
  intro c member
  rw [List.eq_of_mem_replicate member]
  rfl

theorem isNumeric_signed {digits : List Char} (all : ∀ c ∈ digits, isNumeric c = true)
    (negative : Bool) : ∀ c ∈ signed negative digits, isNumeric c = true := by
  cases negative with
  | false => exact all
  | true => exact List.forall_mem_cons.mpr ⟨rfl, all⟩

theorem looksReal_signed {digits : List Char} (real : LooksReal digits) (negative : Bool) :
    LooksReal (signed negative digits) := by
  refine ⟨isNumeric_signed real.1 negative, ?_⟩
  cases negative with
  | false => exact real.2
  | true => exact real.2.imp (List.mem_cons_of_mem '-') (List.mem_cons_of_mem '-')

theorem looksReal_withPoint (value after : Nat) : LooksReal (withPoint (digitsOf value) after) := by
  unfold withPoint
  dsimp only
  generalize shape : List.replicate _ '0' ++ digitsOf value = padded
  have all : ∀ c ∈ padded, isNumeric c = true := by
    rw [← shape]
    exact List.forall_mem_append.mpr
      ⟨isNumeric_zeros _, isNumeric_digitsOf value⟩
  constructor
  · refine List.forall_mem_append.mpr ⟨?_, List.forall_mem_cons.mpr ⟨rfl, ?_⟩⟩
    · exact fun c member => all c (List.mem_of_mem_take member)
    · exact fun c member => all c (List.mem_of_mem_drop member)
  · exact .inl (List.mem_append_right _ List.mem_cons_self)

/-- Whole digits get a point and a zero. -/
theorem looksReal_positional {d : Decimal} (whole : 0 ≤ d.exponent) :
    LooksReal (positional d ++ ['.', '0']) := by
  have all : ∀ c ∈ positional d, isNumeric c = true := by
    unfold positional
    rw [if_pos whole]
    split
    · exact List.forall_mem_singleton.mpr rfl
    · exact List.forall_mem_append.mpr ⟨isNumeric_digitsOf _, isNumeric_zeros _⟩
  constructor
  · exact List.forall_mem_append.mpr ⟨all, List.all_eq_true.mp rfl⟩
  · exact .inl (List.mem_append_right _ List.mem_cons_self)

theorem looksReal_exponent {mantissa sign : List Char}
    (mantissaAll : ∀ c ∈ mantissa, isNumeric c = true) (signAll : ∀ c ∈ sign, isNumeric c = true)
    (power : Nat) : LooksReal (mantissa ++ 'e' :: sign ++ digitsOf power) := by
  constructor
  · refine List.forall_mem_append.mpr ⟨?_, isNumeric_digitsOf power⟩
    exact List.forall_mem_append.mpr ⟨mantissaAll, List.forall_mem_cons.mpr ⟨rfl, signAll⟩⟩
  · exact .inr (List.mem_append_left _ (List.mem_append_right _ List.mem_cons_self))

theorem looksReal_scientific (d : Decimal) : LooksReal (scientific d) := by
  have digits := isNumeric_digitsOf d.coefficient
  have signAll : ∀ c ∈ (if magnitude d < 0 then ['-'] else ['+']), isNumeric c = true := by
    split <;> exact List.forall_mem_singleton.mpr rfl
  unfold scientific
  dsimp only
  split
  · rename_i shape
    rw [shape] at digits
    obtain ⟨first, rest⟩ := List.forall_mem_cons.mp digits
    refine looksReal_exponent ?_ signAll _
    exact List.forall_mem_cons.mpr ⟨first, List.forall_mem_cons.mpr ⟨rfl, rest⟩⟩
  · exact looksReal_exponent digits signAll _

/-- However a double is written, it does not look like a whole number. -/
theorem looksReal_json (x : Float) : LooksReal (json x).toList := by
  unfold json
  dsimp only
  rw [String.toList_ofList]
  apply looksReal_signed
  split_ifs with far whole
  · exact looksReal_scientific _
  · exact looksReal_positional whole
  · unfold positional
    rw [if_neg whole]
    exact looksReal_withPoint _ _

/-- Every number is written as a word, though it may be the word for null. -/
theorem Number.write_word (value : Number) :
    value.write ≠ [] ∧ ∀ c ∈ value.write, Lexing.isLetter c = true := by
  cases value with
  | whole value =>
    have all := isNumeric_signed (isNumeric_digitsOf value.natAbs) (value < 0)
    refine ⟨?_, fun c member => isLetter_of_isNumeric (all c member)⟩
    rw [Number.write, signed]
    split
    · exact List.cons_ne_nil _ _
    · exact Nat.toDigits_ne_nil
  | real x =>
    rw [Number.write]
    split
    · obtain ⟨all, marked⟩ := looksReal_json x
      refine ⟨?_, fun c member => isLetter_of_isNumeric (all c member)⟩
      exact marked.elim List.ne_nil_of_mem List.ne_nil_of_mem
    · exact ⟨List.cons_ne_nil _ _, List.all_eq_true.mp rfl⟩

/-- A finite double whose text is read as an equal number is read as itself. -/
theorem Value.ofWord?_real {x : Float} (finite : x.isFinite = true)
    (back : (Value.ofWord? (Number.real x).write).bind Value.float? = some x) :
    Value.ofWord? (Number.real x).write = some (.number (.real x)) := by
  obtain ⟨value, read, same⟩ := Option.bind_eq_some_iff.mp back
  have written : (Number.real x).write = (json x).toList := if_pos finite
  have marked := (looksReal_json x).2
  rw [← written] at marked
  unfold Value.float? at same
  split at same
  · rename_i number
    cases number with
    | real y => rw [read, ← Option.some.inj same, Number.toFloat]
    | whole k =>
      have digits := Value.digits_of_ofWord?_whole read
      rcases marked with point | exponent
      · exact absurd (digits '.' point) (by simp)
      · exact absurd (digits 'e' exponent) (by simp)
  · contradiction

end Doubles
end Cupping.Json
