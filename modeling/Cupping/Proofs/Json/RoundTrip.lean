import Cupping.Proofs.Json.Grammar
import Cupping.Proofs.Json.Numbers
import Mathlib.Tactic.Choose

/-!
What is written as JSON text, in any layout, reads back as the same data. Data that has no value of
its own is left out, and of each double its own text has to read back.
-/

namespace Cupping.Json

namespace Value

/-- Data that JSON text can hold: every scalar has a value, every member has a name, and the numbers
read back from their own text. -/
inductive IsPlain : Value → Prop where
  | null : IsPlain null
  | bool (value : Bool) : IsPlain (bool value)
  | number {value : Number} (back : ofWord? value.write = some (.number value)) :
      IsPlain (number value)
  | text (value : String) : IsPlain (text value)
  | list {items : List Value} (plain : ∀ item ∈ items, IsPlain item) : IsPlain (list items)
  | record {members : List (String × Value)} (plain : ∀ member ∈ members, IsPlain member.2) :
      IsPlain (record members)

theorem writeItems_eq (layout : Layout) (depth : Nat) (items : List Value) :
    writeItems layout depth items = items.map (writeAt layout depth) := by
  induction items with
  | nil => rfl
  | cons item rest ih => rw [writeItems, ih, List.map_cons]

def writeMember (layout : Layout) (depth : Nat) (member : Option String × Value) : List Char :=
  quote (member.1.getD "") ++ layout.colon ++ member.2.writeAt layout depth

theorem writeMembers_eq (layout : Layout) (depth : Nat) (members : List (Option String × Value)) :
    writeMembers layout depth members = members.map (writeMember layout depth) := by
  induction members with
  | nil => rfl
  | cons member rest ih =>
    rw [writeMembers, ih, List.map_cons]
    rfl

end Value

namespace Token

variable {more : List Token} {rest : List Char}

/-- What is written for a character spells one piece that stands for it. -/
theorem exists_piece_escape (c : Char) :
    ∃ piece : Piece, piece.StandsFor c ∧ piece.IsSpelled (escape c) := by
  have short (letter c : Char) (escaped : Lexing.escaped? letter = some c) :
      ∃ piece : Piece, piece.StandsFor c ∧ piece.IsSpelled ['\\', letter] :=
    ⟨_, Piece.standsFor_char c, .escaped escaped⟩
  unfold escape
  split_ifs with quote backslash backspace formFeed lineFeed carriage tab control
  · exact quote ▸ short '"' '"' rfl
  · exact backslash ▸ short '\\' '\\' rfl
  · exact backspace ▸ short 'b' '\x08' rfl
  · exact formFeed ▸ short 'f' '\x0c' rfl
  · exact lineFeed ▸ short 'n' '\n' rfl
  · exact carriage ▸ short 'r' '\r' rfl
  · exact tab ▸ short 't' '\t' rfl
  · have stands : (Piece.unit c.toNat).StandsFor _ := Piece.standsFor_unit (by omega)
    have high : Lexing.hexDigit? (hexChar (c.toNat / 16)) = some (c.toNat / 16) :=
      Piece.hexDigit?_hexChar (by omega)
    have low : Lexing.hexDigit? (hexChar (c.toNat % 16)) = some (c.toNat % 16) :=
      Piece.hexDigit?_hexChar (by omega)
    have zero : Lexing.hexDigit? '0' = some 0 := rfl
    have spelled := Piece.IsSpelled.unit zero zero high low
    rw [show 16 * (16 * (16 * 0 + 0) + c.toNat / 16) + c.toNat % 16 = c.toNat by omega] at spelled
    rw [Char.ofNat_toNat] at stands
    exact ⟨_, stands, spelled⟩
  · exact ⟨_, Piece.standsFor_char c, .plain quote backslash control⟩

theorem exists_pieces_escape (text : List Char) :
    ∃ pieces, Piece.join? pieces = some text ∧ Piece.AreSpelled pieces (text.flatMap escape) := by
  induction text with
  | nil => exact ⟨[], rfl, .nil⟩
  | cons c rest ih =>
    obtain ⟨piece, stands, here⟩ := exists_piece_escape c
    obtain ⟨pieces, joined, later⟩ := ih
    refine ⟨piece :: pieces, ?_, .cons here later⟩
    rw [stands, joined, Option.map_some]

/-- Whatever is in it, a quoted text is one token with that text. -/
theorem areSpelled_quote (text : String) (spelled : AreSpelled more rest) :
    AreSpelled (.text (some text) :: more) (quote text ++ rest) := by
  obtain ⟨pieces, joined, inside⟩ := exists_pieces_escape text.toList
  have whole : Token.quoted pieces = .text (some text) := by
    rw [quoted, joined, Option.map_some, String.ofList_toList]
  rw [← whole, quote, List.cons_append, List.cons_append, List.append_assoc,
    List.singleton_append]
  exact .text inside spelled

theorem areSpelled_lineBreak (layout : Layout) (depth : Nat) (spelled : AreSpelled more rest) :
    AreSpelled more (layout.lineBreak depth ++ rest) := by
  cases layout with
  | compact => exact spelled
  | indented =>
    refine .space rfl ?_
    induction 2 * depth with
    | zero => exact spelled
    | succ count ih => exact .space rfl ih

theorem areSpelled_colon (layout : Layout) (spelled : AreSpelled more rest) :
    AreSpelled (.colon :: more) (layout.colon ++ rest) := by
  cases layout with
  | compact => exact .mark rfl spelled
  | indented => exact .mark rfl (.space rfl spelled)

/-- Whether a text spells some tokens, if no letter follows. -/
def Spells (text : List Char) (tokens : List Token) : Prop :=
  ∀ {more rest}, Reading.Breaks rest → AreSpelled more rest →
    AreSpelled (tokens ++ more) (text ++ rest)

theorem spells_word {word : List Char} (filled : word ≠ [])
    (letters : ∀ c ∈ word, Lexing.isLetter c = true) : Spells word [.word word] := by
  intro more rest breaks spelled
  exact .word filled letters breaks spelled

theorem spells_quote (text : String) : Spells (quote text) [.text (some text)] := by
  intro more rest _ spelled
  exact areSpelled_quote text spelled

section Enclose

variable {α : Type} {parts : List α} {write : α → List Char} {tokens : α → List Token}
  {layout : Layout} {depth : Nat} {right : Char} {closing : Token}

theorem breaks_lineBreak (layout : Layout) (depth : Nat) {c : Char}
    (noLetter : Lexing.isLetter c = false) :
    Reading.Breaks (layout.lineBreak depth ++ c :: rest) := by
  rintro first head
  cases layout with
  | compact => exact Option.some.inj head ▸ noLetter
  | indented => exact Option.some.inj head ▸ rfl

theorem isLetter_of_mark? {c : Char} {token : Token} (mark : Lexing.mark? c = some token) :
    Lexing.isLetter c = false := by
  unfold Lexing.mark? at mark
  split at mark <;> cases mark <;> rfl

theorem breaks_parts (closes : Lexing.mark? right = some closing) (parts : List α) :
    Reading.Breaks (parts.flatMap (fun part => ',' :: layout.lineBreak (depth + 1) ++ write part) ++
      (layout.lineBreak depth ++ right :: rest)) := by
  cases parts with
  | nil => exact breaks_lineBreak layout depth (isLetter_of_mark? closes)
  | cons part more =>
    rintro first head
    exact Option.some.inj head ▸ rfl

/-- The parts behind the first one, up to the closing bracket. -/
theorem areSpelled_parts (closes : Lexing.mark? right = some closing)
    (each : ∀ part ∈ parts, Spells (write part) (tokens part)) (spelled : AreSpelled more rest) :
    AreSpelled ((parts.map tokens).flatMap (.comma :: ·) ++ closing :: more)
      (parts.flatMap (fun part => ',' :: layout.lineBreak (depth + 1) ++ write part) ++
        (layout.lineBreak depth ++ right :: rest)) := by
  induction parts with
  | nil => exact areSpelled_lineBreak layout depth (.mark closes spelled)
  | cons part parts ih =>
    obtain ⟨here, later⟩ := List.forall_mem_cons.mp each
    simp only [List.map_cons, List.flatMap_cons, List.cons_append, List.append_assoc]
    exact .mark rfl (areSpelled_lineBreak layout _ (here (breaks_parts closes parts) (ih later)))

theorem spells_enclose {left : Char} {opening : Token} (opens : Lexing.mark? left = some opening)
    (closes : Lexing.mark? right = some closing)
    (each : ∀ part ∈ parts, Spells (write part) (tokens part)) :
    Spells (enclose layout depth left right (parts.map write))
      (opening :: separated (parts.map tokens) ++ [closing]) := by
  intro more rest breaks spelled
  cases parts with
  | nil => exact .mark opens (.mark closes spelled)
  | cons part parts =>
    obtain ⟨here, later⟩ := List.forall_mem_cons.mp each
    have shape : enclose layout depth left right ((part :: parts).map write) ++ rest =
        left :: (layout.lineBreak (depth + 1) ++ (write part ++
          (parts.flatMap (fun part => ',' :: layout.lineBreak (depth + 1) ++ write part) ++
            (layout.lineBreak depth ++ right :: rest)))) := by
      simp [enclose, List.flatMap_map]
    rw [shape, List.map_cons, separated, List.cons_append, List.cons_append, List.append_assoc,
      List.append_assoc, List.singleton_append]
    exact .mark opens (areSpelled_lineBreak layout _
      (here (breaks_parts closes parts) (areSpelled_parts closes later spelled)))

end Enclose

theorem spells_member {layout : Layout} {depth : Nat} (name : String) {value : Value}
    {tokens : List Token} (spells : Spells (value.writeAt layout depth) tokens) :
    Spells (Value.writeMember layout depth (some name, value))
      (memberTokens ((some name, value), tokens)) := by
  intro more rest breaks spelled
  rw [Value.writeMember, Option.getD_some, memberTokens, List.append_assoc, List.append_assoc,
    List.cons_append, List.cons_append]
  exact areSpelled_quote name (areSpelled_colon layout (spells breaks spelled))

end Token

namespace Value

open Token

/-- Plain data, written at any depth of any layout, is spelled by tokens of it. -/
theorem IsPlain.exists_tokens {value : Value} (plain : value.IsPlain) (layout : Layout)
    (depth : Nat) :
    ∃ tokens, value.HasTokens tokens ∧ Spells (value.writeAt layout depth) tokens := by
  induction plain generalizing depth with
  | null =>
    rw [writeAt]
    exact ⟨_, .word rfl, spells_word (List.cons_ne_nil _ _) (List.all_eq_true.mp rfl)⟩
  | bool value =>
    cases value with
    | true =>
      rw [writeAt]
      exact ⟨_, .word rfl, spells_word (List.cons_ne_nil _ _) (List.all_eq_true.mp rfl)⟩
    | false =>
      rw [writeAt]
      exact ⟨_, .word rfl, spells_word (List.cons_ne_nil _ _) (List.all_eq_true.mp rfl)⟩
  | @number value back =>
    rw [writeAt]
    exact ⟨_, .word back, spells_word value.write_word.1 value.write_word.2⟩
  | text value =>
    rw [writeAt]
    exact ⟨_, .text value, spells_quote value⟩
  | @list items plain ih =>
    choose! tokens has spells using fun item member => ih item member (depth + 1)
    have whole := @HasTokens.list (items.map fun item => (item, tokens item))
      (List.forall_mem_map.mpr has)
    rw [writeAt, writeItems_eq]
    refine ⟨_, ?_, spells_enclose rfl rfl spells⟩
    simpa [Function.comp_def] using whole
  | @record members plain ih =>
    choose! tokens has spells using fun member held => ih member held (depth + 1)
    have whole := @HasTokens.object
      (members.map fun member => ((some member.1, member.2), tokens member))
      (List.forall_mem_map.mpr has)
    rw [Value.record, writeAt, writeMembers_eq, List.map_map]
    refine ⟨_, ?_, spells_enclose rfl rfl fun member held => spells_member member.1
      (spells member held)⟩
    simpa [Function.comp_def] using whole

theorem IsPlain.isTextOf {value : Value} (plain : value.IsPlain) (layout : Layout) :
    IsTextOf value (value.writeAt layout 0) := by
  obtain ⟨tokens, has, spells⟩ := plain.exists_tokens layout 0
  refine ⟨tokens, has, ?_⟩
  have whole := spells Reading.breaks_nil .nil
  rwa [List.append_nil, List.append_nil] at whole

/-- Plain data reads back as itself from the text that is written for it. -/
theorem IsPlain.read?_writeAt {value : Value} (plain : value.IsPlain) (layout : Layout) :
    read? (value.writeAt layout 0) = some value :=
  read?_eq_some_iff.mpr (plain.isTextOf layout)

theorem IsPlain.read?_write {value : Value} (plain : value.IsPlain) :
    read? value.write.toList = some value := by
  rw [write, String.toList_ofList, plain.read?_writeAt]

end Value

/-- A text that is a single word is read as what the word says. -/
theorem read?_word {word : List Char} (filled : word ≠ [])
    (all : ∀ c ∈ word, Lexing.isLetter c = true) : read? word = Value.ofWord? word := by
  have next : Parsing.next ⟨[], .value false⟩ (.word word) =
      (Value.ofWord? word).bind (Parsing.accept · []) := rfl
  have whole := @Reading.readFrom_word .initial [] Reading.breaks_nil word filled all
  rw [List.append_nil, Parsing.initial, next] at whole
  refine whole.trans ?_
  cases Value.ofWord? word <;> rfl

/-- A finite double whose own JSON text reads back as the same double. -/
def ReadsBack (x : Float) : Prop :=
  x.isFinite = true ∧ (read? (Number.real x).write).bind Value.float? = some x

instance (x : Float) : Decidable (ReadsBack x) :=
  inferInstanceAs (Decidable (_ ∧ _))

namespace Value

theorem isPlain_real {x : Float} (back : ReadsBack x) : (number (.real x)).IsPlain := by
  obtain ⟨finite, read⟩ := back
  obtain ⟨filled, all⟩ := (Number.real x).write_word
  rw [read?_word filled all] at read
  exact .number (ofWord?_real finite read)

theorem isPlain_whole {value : Int} (least : -Nat.pow 2 63 ≤ value)
    (most : value < Nat.pow 2 64) : (number (.whole value)).IsPlain :=
  .number (ofWord?_whole least most)

theorem isPlain_ofFloat? {given : Option Float} (back : ∀ x ∈ given, ReadsBack x) :
    (ofFloat? given).IsPlain := by
  cases given with
  | none => exact .null
  | some x => exact isPlain_real (back x rfl)

theorem isPlain_ofText? (given : Option String) : (ofText? given).IsPlain := by
  cases given with
  | none => exact .null
  | some text => exact .text text

theorem isPlain_map {α : Type} {write : α → Value} {given : Option α}
    (plain : ∀ a ∈ given, (write a).IsPlain) : ((given.map write).getD null).IsPlain := by
  cases given with
  | none => exact .null
  | some a => exact plain a rfl

end Value

/-- Reads a whole text as JSON and its data as what is expected. -/
def decode? {α : Type} (read : Value → Option α) (text : String) : Option α :=
  (read? text.toList).bind read

theorem decode?_write {α : Type} {read : Value → Option α} {value : Value} {a : α}
    (plain : value.IsPlain) (back : read value = some a) : decode? read value.write = some a := by
  rw [decode?, plain.read?_write, Option.bind_some, back]

end Cupping.Json
