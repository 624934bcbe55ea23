import Cupping.Json.Reading
import Cupping.Json.Writing
import Mathlib.Data.List.Basic
import Mathlib.Tactic.SplitIfs

/-!
Reading what is written, token by token. A token is read alike whatever it is a part of, so that
each kind is treated once: marks and spaces, words, which end only with what follows them, and
quoted texts with their escapes.
-/

namespace Cupping.Json

namespace Reading

/-- The value of a text that is read from some state on. -/
def readFrom (state : Reading) (text : List Char) : Option Value :=
  ((text.map some).foldlM next state).bind finish?

theorem readFrom_cons (state : Reading) (c : Char) (rest : List Char) :
    readFrom state (c :: rest) = (state.next (some c)).bind (readFrom · rest) := by
  rw [readFrom, List.map_cons, List.foldlM_cons]
  exact Option.bind_assoc _ _ _

variable {lexing after : Lexing} {parsing : Parsing} {c : Char} {rest : List Char}

/-- A character that completes no token only changes where in a token the text stands. -/
theorem readFrom_step (step : lexing.next (some c) = some ([], after)) :
    readFrom ⟨lexing, parsing⟩ (c :: rest) = readFrom ⟨after, parsing⟩ rest := by
  rw [readFrom_cons, next, step]
  rfl

/-- A character that completes a token hands it to the parser. -/
theorem readFrom_token {token : Token} (step : lexing.next (some c) = some ([token], .between)) :
    readFrom ⟨lexing, parsing⟩ (c :: rest) =
      (parsing.next token).bind fun parsing => readFrom ⟨.between, parsing⟩ rest := by
  rw [readFrom_cons, next, step]
  cases parsed : parsing.next token <;> simp [parsed]

theorem readFrom_space (space : Lexing.isSpace c = true) :
    readFrom ⟨.between, parsing⟩ (c :: rest) = readFrom ⟨.between, parsing⟩ rest :=
  readFrom_step (if_pos space)

/-- Whether a text does not go on with a letter. -/
def Breaks (text : List Char) : Prop :=
  ∀ c ∈ text.head?, Lexing.isLetter c = false

theorem breaks_nil : Breaks [] :=
  nofun

theorem next_letter (letter : Lexing.isLetter c = true) (letters : List Char) :
    Lexing.next (.word letters) (some c) = some ([], .word (c :: letters)) :=
  if_pos letter

theorem next_break (noLetter : Lexing.isLetter c = false) (letters : List Char) :
    Lexing.next (.word letters) (some c) =
      (Lexing.start c).map fun (tokens, after) => (.word letters.reverse :: tokens, after) :=
  if_neg (by simp [noLetter])

theorem next_start (letter : Lexing.isLetter c = true) :
    Lexing.next .between (some c) = some ([], .word [c]) := by
  have noSpace : Lexing.isSpace c ≠ true := by
    intro space
    simp only [Lexing.isSpace, Bool.or_eq_true, decide_eq_true_eq] at space
    rcases space with ((rfl | rfl) | rfl) | rfl <;> contradiction
  have noQuote : c ≠ '"' := by
    rintro rfl
    contradiction
  rw [Lexing.next, Lexing.start, if_neg noSpace, if_neg noQuote, if_pos letter]

/-- A word is complete once no letter follows. -/
theorem readFrom_word_break (breaks : Breaks rest) (letters : List Char) :
    readFrom ⟨.word letters, parsing⟩ rest =
      (parsing.next (.word letters.reverse)).bind fun parsing =>
        readFrom ⟨.between, parsing⟩ rest := by
  cases rest with
  | nil =>
    cases parsed : parsing.next (.word letters.reverse) <;>
      simp [readFrom, finish?, Lexing.finish?, parsed]
  | cons c rest =>
    have started : Lexing.next .between (some c) = Lexing.start c := rfl
    simp only [readFrom_cons, next, next_break (breaks c rfl), started]
    cases parsed : parsing.next (.word letters.reverse) <;>
      cases Lexing.start c <;> simp [parsed]

theorem readFrom_letters (breaks : Breaks rest) {more : List Char}
    (all : ∀ c ∈ more, Lexing.isLetter c = true) (letters : List Char) :
    readFrom ⟨.word letters, parsing⟩ (more ++ rest) =
      (parsing.next (.word (letters.reverse ++ more))).bind fun parsing =>
        readFrom ⟨.between, parsing⟩ rest := by
  induction more generalizing letters with
  | nil => rw [List.nil_append, List.append_nil, readFrom_word_break breaks]
  | cons c more ih =>
    obtain ⟨here, later⟩ := List.forall_mem_cons.mp all
    rw [List.cons_append, readFrom_step (next_letter here letters), ih later, List.reverse_cons,
      List.append_assoc, List.singleton_append]

theorem readFrom_word (breaks : Breaks rest) {word : List Char} (filled : word ≠ [])
    (all : ∀ c ∈ word, Lexing.isLetter c = true) :
    readFrom ⟨.between, parsing⟩ (word ++ rest) =
      (parsing.next (.word word)).bind fun parsing => readFrom ⟨.between, parsing⟩ rest := by
  cases word with
  | nil => exact absurd rfl filled
  | cons c more =>
    obtain ⟨here, later⟩ := List.forall_mem_cons.mp all
    rw [List.cons_append, readFrom_step (next_start here), readFrom_letters breaks later]
    rfl

end Reading

namespace Piece

/-- Whether a piece of a quoted text stands for a character, whatever follows. -/
def StandsFor (piece : Piece) (c : Char) : Prop :=
  ∀ rest, join? (piece :: rest) = (join? rest).map (c :: ·)

theorem standsFor_char (c : Char) : (Piece.char (some c)).StandsFor c := by
  intro rest
  cases joined : join? rest <;> simp [join?, joined]

/-- Below the surrogates a code unit is a character of its own. -/
theorem standsFor_unit {code : Nat} (small : code < 0xD800) :
    (Piece.unit code).StandsFor (Char.ofNat code) := by
  have noHigh : isHigh code = false := by simp [isHigh]; omega
  have noLow : isLow code = false := by simp [isLow]; omega
  intro rest
  rcases rest with - | ⟨c | low, rest⟩ <;> simp [join?, noHigh, noLow]

theorem hexDigit?_hexChar {digit : Nat} (small : digit < 16) :
    Lexing.hexDigit? (hexChar digit) = some digit := by
  decide +revert

end Piece

namespace Reading

variable {parsing : Parsing} {rest : List Char}

theorem readFrom_shortEscape {letter c : Char} (escaped : Lexing.escaped? letter = some c)
    (pieces : List Piece) :
    readFrom ⟨.text pieces, parsing⟩ ('\\' :: letter :: rest) =
      readFrom ⟨.text (.char (some c) :: pieces), parsing⟩ rest := by
  have short : letter ≠ 'u' := by
    rintro rfl
    contradiction
  have step : Lexing.next (.escape pieces) (some letter) =
      some ([], .text (.char (some c) :: pieces)) := by
    rw [Lexing.next, if_neg short, escaped, Option.map_some]
  rw [readFrom_step rfl, readFrom_step step]

theorem readFrom_digit {c : Char} {digit : Nat} (hex : Lexing.hexDigit? c = some digit)
    (pieces : List Piece) (value more : Nat) :
    readFrom ⟨.code pieces value (more + 1), parsing⟩ (c :: rest) =
      readFrom ⟨.code pieces (16 * value + digit) more, parsing⟩ rest := by
  apply readFrom_step
  rw [Lexing.next, hex, Option.map_some]

theorem readFrom_lastDigit {c : Char} {digit : Nat} (hex : Lexing.hexDigit? c = some digit)
    (pieces : List Piece) (value : Nat) :
    readFrom ⟨.code pieces value 0, parsing⟩ (c :: rest) =
      readFrom ⟨.text (.unit (16 * value + digit) :: pieces), parsing⟩ rest := by
  apply readFrom_step
  rw [Lexing.next, hex, Option.map_some]

theorem readFrom_plain {c : Char} (noQuote : c ≠ '"') (noBackslash : c ≠ '\\')
    (noControl : ¬ c.toNat < 0x20) (pieces : List Piece) :
    readFrom ⟨.text pieces, parsing⟩ (c :: rest) =
      readFrom ⟨.text (.char (some c) :: pieces), parsing⟩ rest := by
  apply readFrom_step
  rw [Lexing.next, Lexing.inText, if_neg noQuote, if_neg noBackslash, if_neg noControl]

end Reading
end Cupping.Json
