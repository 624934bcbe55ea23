import Cupping.Proofs.Json.Tokens
import Mathlib.Data.List.TakeWhile

/-!
The tokens of a text. How each kind of token can be spelled, with spaces in between, is laid down
without the reader; the reader finds the tokens of every text that is spelled so, and accepts no
other text.
-/

namespace Cupping.Json

/-- How a piece of a quoted text is spelled. Every character can be written as one of its code
units, and some cannot be written as themselves. -/
inductive Piece.IsSpelled : Piece → List Char → Prop
  | plain {c : Char} (noQuote : c ≠ '"') (noBackslash : c ≠ '\\') (noControl : ¬ c.toNat < 0x20) :
      IsSpelled (.char (some c)) [c]
  | escaped {letter c : Char} (letter_eq : Lexing.escaped? letter = some c) :
      IsSpelled (.char (some c)) ['\\', letter]
  | unit {first second third fourth : Char} {a b c d : Nat}
      (first_eq : Lexing.hexDigit? first = some a) (second_eq : Lexing.hexDigit? second = some b)
      (third_eq : Lexing.hexDigit? third = some c) (fourth_eq : Lexing.hexDigit? fourth = some d) :
      IsSpelled (.unit (16 * (16 * (16 * a + b) + c) + d))
        ['\\', 'u', first, second, third, fourth]

/-- How the pieces of a quoted text are spelled. -/
inductive Piece.AreSpelled : List Piece → List Char → Prop
  | nil : AreSpelled [] []
  | cons {piece : Piece} {pieces : List Piece} {here rest : List Char}
      (spelled : piece.IsSpelled here) (more : AreSpelled pieces rest) :
      AreSpelled (piece :: pieces) (here ++ rest)

/-- The token of a quoted text that is put together from pieces. -/
def Token.quoted (pieces : List Piece) : Token :=
  .text ((Piece.join? pieces).map String.ofList)

/-- How tokens are spelled. A word ends where no letter follows. -/
inductive Token.AreSpelled : List Token → List Char → Prop
  | nil : AreSpelled [] []
  | space {c : Char} {tokens : List Token} {rest : List Char} (space : Lexing.isSpace c = true)
      (more : AreSpelled tokens rest) : AreSpelled tokens (c :: rest)
  | mark {c : Char} {token : Token} {tokens : List Token} {rest : List Char}
      (mark : Lexing.mark? c = some token) (more : AreSpelled tokens rest) :
      AreSpelled (token :: tokens) (c :: rest)
  | word {word : List Char} {tokens : List Token} {rest : List Char} (filled : word ≠ [])
      (letters : ∀ c ∈ word, Lexing.isLetter c = true) (breaks : Reading.Breaks rest)
      (more : AreSpelled tokens rest) : AreSpelled (.word word :: tokens) (word ++ rest)
  | text {pieces : List Piece} {inside : List Char} {tokens : List Token} {rest : List Char}
      (spelled : Piece.AreSpelled pieces inside) (more : AreSpelled tokens rest) :
      AreSpelled (.quoted pieces :: tokens) ('"' :: (inside ++ '"' :: rest))

namespace Reading

/-- The value that is read from some tokens on, at the end of a text. -/
def readTokens (parsing : Parsing) (tokens : List Token) : Option Value :=
  (tokens.foldlM Parsing.next parsing).bind Parsing.result?

theorem readTokens_cons (parsing : Parsing) (token : Token) (tokens : List Token) :
    readTokens parsing (token :: tokens) =
      (parsing.next token).bind fun parsing => readTokens parsing tokens := by
  rw [readTokens, List.foldlM_cons]
  exact Option.bind_assoc _ _ _

variable {parsing : Parsing} {text inside rest : List Char} {value : Value}

theorem readFrom_nil (parsing : Parsing) :
    readFrom ⟨.between, parsing⟩ [] = readTokens parsing [] :=
  rfl

/-! From the spelling of tokens to the tokens. -/

theorem readFrom_isSpelled {piece : Piece} (spelled : piece.IsSpelled inside)
    (before : List Piece) :
    readFrom ⟨.text before, parsing⟩ (inside ++ rest) =
      readFrom ⟨.text (piece :: before), parsing⟩ rest := by
  cases spelled with
  | plain noQuote noBackslash noControl =>
    exact readFrom_plain noQuote noBackslash noControl before
  | escaped letter_eq => exact readFrom_shortEscape letter_eq before
  | unit first_eq second_eq third_eq fourth_eq =>
    simp only [List.cons_append, List.nil_append]
    rw [readFrom_step rfl, readFrom_step rfl, readFrom_digit first_eq, readFrom_digit second_eq,
      readFrom_digit third_eq, readFrom_lastDigit fourth_eq, Nat.mul_zero, Nat.zero_add]

theorem readFrom_areSpelled {pieces : List Piece} (spelled : Piece.AreSpelled pieces inside)
    (before : List Piece) :
    readFrom ⟨.text before, parsing⟩ (inside ++ rest) =
      readFrom ⟨.text (pieces.reverse ++ before), parsing⟩ rest := by
  induction spelled generalizing before with
  | nil => rfl
  | cons spelled more ih =>
    rw [List.append_assoc, readFrom_isSpelled spelled, ih, List.reverse_cons, List.append_assoc,
      List.singleton_append]

/-- The second quote completes a quoted text. -/
theorem readFrom_closing (pieces : List Piece) :
    readFrom ⟨.text pieces, parsing⟩ ('"' :: rest) =
      (parsing.next (.quoted pieces.reverse)).bind fun parsing =>
        readFrom ⟨.between, parsing⟩ rest :=
  readFrom_token rfl

theorem next_mark {c : Char} {token : Token} (mark : Lexing.mark? c = some token) :
    Lexing.next .between (some c) = some ([token], .between) := by
  unfold Lexing.mark? at mark
  split at mark <;> cases mark <;> rfl

/-- A text is read through its tokens. -/
theorem readFrom_eq_readTokens {tokens : List Token} (spelled : Token.AreSpelled tokens text)
    (parsing : Parsing) : readFrom ⟨.between, parsing⟩ text = readTokens parsing tokens := by
  induction spelled generalizing parsing with
  | nil => exact readFrom_nil parsing
  | space space more ih => rw [readFrom_space space, ih]
  | mark mark more ih =>
    rw [readFrom_token (next_mark mark), readTokens_cons]
    exact congrArg _ (funext ih)
  | word filled letters breaks more ih =>
    rw [readFrom_word breaks filled letters, readTokens_cons]
    exact congrArg _ (funext ih)
  | text spelled more ih =>
    rw [readFrom_step rfl, readFrom_areSpelled spelled, List.append_nil, readFrom_closing,
      List.reverse_reverse, readTokens_cons]
    exact congrArg _ (funext ih)

/-! From a text that is read to the spelling of its tokens. -/

theorem readFrom_stuck {lexing : Lexing} {c : Char} (stuck : lexing.next (some c) = none) :
    readFrom ⟨lexing, parsing⟩ (c :: rest) = none := by
  rw [readFrom_cons, next, stuck]
  rfl

theorem exists_digit {pieces : List Piece} {total more : Nat}
    (read : readFrom ⟨.code pieces total more, parsing⟩ text = some value) :
    ∃ c digit rest, text = c :: rest ∧ Lexing.hexDigit? c = some digit := by
  cases text with
  | nil => cases read
  | cons c rest =>
    cases hex : Lexing.hexDigit? c with
    | none =>
      have stuck : Lexing.next (.code pieces total more) (some c) = none := by
        rw [Lexing.next, hex, Option.map_none]
      rw [readFrom_stuck stuck] at read
      cases read
    | some digit => exact ⟨c, digit, rest, rfl, hex⟩

/-- Behind a backslash there is a letter, or a `u` with four digits. -/
theorem exists_escape {before : List Piece}
    (read : readFrom ⟨.escape before, parsing⟩ text = some value) :
    ∃ piece here rest, '\\' :: text = here ++ rest ∧ Piece.IsSpelled piece here ∧
      readFrom ⟨.text (piece :: before), parsing⟩ rest = some value := by
  cases text with
  | nil => cases read
  | cons letter rest =>
    by_cases unit : letter = 'u'
    · subst unit
      rw [readFrom_step rfl] at read
      obtain ⟨first, a, rest, rfl, first_eq⟩ := exists_digit read
      rw [readFrom_digit first_eq, Nat.mul_zero, Nat.zero_add] at read
      obtain ⟨second, b, rest, rfl, second_eq⟩ := exists_digit read
      rw [readFrom_digit second_eq] at read
      obtain ⟨third, c, rest, rfl, third_eq⟩ := exists_digit read
      rw [readFrom_digit third_eq] at read
      obtain ⟨fourth, d, rest, rfl, fourth_eq⟩ := exists_digit read
      rw [readFrom_lastDigit fourth_eq] at read
      exact ⟨_, _, rest, rfl, .unit first_eq second_eq third_eq fourth_eq, read⟩
    · cases letter_eq : Lexing.escaped? letter with
      | none =>
        have stuck : Lexing.next (.escape before) (some letter) = none := by
          rw [Lexing.next, if_neg unit, letter_eq, Option.map_none]
        rw [readFrom_stuck stuck] at read
        cases read
      | some c =>
        have step : Lexing.next (.escape before) (some letter) =
            some ([], .text (.char (some c) :: before)) := by
          rw [Lexing.next, if_neg unit, letter_eq, Option.map_some]
        rw [readFrom_step step] at read
        exact ⟨_, _, rest, rfl, .escaped letter_eq, read⟩

/-- Inside of quotes there is the second quote, or one more piece. -/
theorem exists_piece {before : List Piece} {c : Char}
    (read : readFrom ⟨.text before, parsing⟩ (c :: text) = some value) :
    c = '"' ∨ ∃ piece here rest, c :: text = here ++ rest ∧ Piece.IsSpelled piece here ∧
      readFrom ⟨.text (piece :: before), parsing⟩ rest = some value := by
  by_cases noQuote : c = '"'
  · exact .inl noQuote
  right
  by_cases noBackslash : c = '\\'
  · subst noBackslash
    rw [readFrom_step rfl] at read
    exact exists_escape read
  by_cases noControl : c.toNat < 0x20
  · have stuck : Lexing.next (.text before) (some c) = none := by
      rw [Lexing.next, Lexing.inText, if_neg noQuote, if_neg noBackslash, if_pos noControl]
    rw [readFrom_stuck stuck] at read
    cases read
  · rw [readFrom_plain noQuote noBackslash noControl] at read
    exact ⟨_, [c], text, rfl, .plain noQuote noBackslash noControl, read⟩

theorem Piece.IsSpelled.length_pos {piece : Piece} (spelled : piece.IsSpelled inside) :
    0 < inside.length := by
  cases spelled <;> exact Nat.zero_lt_succ _

/-- Quotes that are read are closed, and hold pieces. -/
theorem exists_pieces {before : List Piece}
    (read : readFrom ⟨.text before, parsing⟩ text = some value) :
    ∃ pieces inside rest, text = inside ++ '"' :: rest ∧ Piece.AreSpelled pieces inside ∧
      ((parsing.next (.quoted (before.reverse ++ pieces))).bind fun parsing =>
        readFrom ⟨.between, parsing⟩ rest) = some value := by
  induction length : text.length using Nat.strongRecOn generalizing text before with
  | ind length ih =>
    subst length
    cases text with
    | nil => cases read
    | cons c text =>
      rcases exists_piece read with rfl | ⟨piece, here, rest, whole, spelled, later⟩
      · rw [readFrom_closing] at read
        exact ⟨[], [], text, rfl, .nil, by rwa [List.append_nil]⟩
      · have shorter : rest.length < (c :: text).length := by
          have filled := Piece.IsSpelled.length_pos spelled
          rw [whole, List.length_append]
          omega
        obtain ⟨pieces, inside, after, rfl, more, closed⟩ := ih _ shorter later rfl
        refine ⟨piece :: pieces, here ++ inside, after, ?_, .cons spelled more, ?_⟩
        · rw [whole, List.append_assoc]
        · rwa [List.reverse_cons, List.append_assoc, List.singleton_append] at closed

theorem breaks_dropWhile (text : List Char) : Breaks (text.dropWhile Lexing.isLetter) := by
  intro c head
  have stopped := List.head?_dropWhile_not Lexing.isLetter text
  rw [head] at stopped
  simpa using stopped

theorem foldlM_single (parsing : Parsing) (token : Token) :
    [token].foldlM Parsing.next parsing = parsing.next token := by
  simp only [List.foldlM_cons, List.foldlM_nil, bind_pure]

/-- What stands in front of a text that is read: a space, or one token. -/
theorem exists_front {c : Char} (read : readFrom ⟨.between, parsing⟩ (c :: text) = some value) :
    ∃ (front : List Token) (rest : List Char), rest.length < (c :: text).length ∧
      (∀ tokens, Token.AreSpelled tokens rest →
        Token.AreSpelled (front ++ tokens) (c :: text)) ∧
      ((front.foldlM Parsing.next parsing).bind fun parsing =>
        readFrom ⟨.between, parsing⟩ rest) = some value := by
  by_cases space : Lexing.isSpace c = true
  · rw [readFrom_space space] at read
    exact ⟨[], text, Nat.lt_succ_self _, fun _ => .space space, read⟩
  by_cases quote : c = '"'
  · subst quote
    rw [readFrom_step rfl] at read
    obtain ⟨pieces, inside, rest, rfl, spelled, read⟩ := exists_pieces read
    refine ⟨[.quoted pieces], rest, ?_, fun _ => .text spelled, ?_⟩
    · simp only [List.length_cons, List.length_append]
      omega
    · rwa [foldlM_single]
  by_cases letter : Lexing.isLetter c = true
  · have whole : c :: text = (c :: text.takeWhile Lexing.isLetter) ++
        text.dropWhile Lexing.isLetter := by
      rw [List.cons_append, List.takeWhile_append_dropWhile]
    have letters : ∀ d ∈ c :: text.takeWhile Lexing.isLetter, Lexing.isLetter d = true :=
      List.forall_mem_cons.mpr ⟨letter, fun d => List.mem_takeWhile_imp⟩
    have breaks := breaks_dropWhile text
    have filled := List.cons_ne_nil c (text.takeWhile Lexing.isLetter)
    rw [whole, readFrom_word breaks filled letters] at read
    refine ⟨[.word (c :: text.takeWhile Lexing.isLetter)], text.dropWhile Lexing.isLetter, ?_,
      fun tokens more => ?_, ?_⟩
    · exact Nat.lt_succ_of_le (List.dropWhile_suffix _).length_le
    · rw [whole]
      exact .word filled letters breaks more
    · rwa [foldlM_single]
  · cases mark : Lexing.mark? c with
    | none =>
      have stuck : Lexing.next .between (some c) = none := by
        rw [Lexing.next, Lexing.start, if_neg space, if_neg quote, if_neg letter, mark,
          Option.map_none]
      rw [readFrom_stuck stuck] at read
      cases read
    | some token =>
      rw [readFrom_token (next_mark mark)] at read
      refine ⟨[token], text, Nat.lt_succ_self _, fun _ => .mark mark, ?_⟩
      rwa [foldlM_single]

/-- Every text that is read is spelled with tokens. -/
theorem exists_tokens (read : readFrom ⟨.between, parsing⟩ text = some value) :
    ∃ tokens, Token.AreSpelled tokens text ∧ readTokens parsing tokens = some value := by
  induction length : text.length using Nat.strongRecOn generalizing text parsing with
  | ind length ih =>
    subst length
    cases text with
    | nil => exact ⟨[], .nil, read⟩
    | cons c text =>
      obtain ⟨front, rest, shorter, spelled, read⟩ := exists_front read
      obtain ⟨after, passed, read⟩ := Option.bind_eq_some_iff.mp read
      obtain ⟨tokens, more, read⟩ := ih _ shorter read rfl
      refine ⟨front ++ tokens, spelled tokens more, ?_⟩
      rw [readTokens, List.foldlM_append, passed]
      exact read

end Reading

/-- Reading a text is reading its tokens. -/
theorem read?_eq_some_iff_tokens {text : List Char} {value : Value} :
    read? text = some value ↔ ∃ tokens, Token.AreSpelled tokens text ∧
      Reading.readTokens .initial tokens = some value := by
  constructor
  · exact Reading.exists_tokens
  · rintro ⟨tokens, spelled, read⟩
    exact (Reading.readFrom_eq_readTokens spelled .initial).trans read

end Cupping.Json
