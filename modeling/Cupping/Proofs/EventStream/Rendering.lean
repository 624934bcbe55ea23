import Cupping.Proofs.EventStream.Chunking
import Cupping.Proofs.Text.Lines
import Cupping.Proofs.Text.Utf8

/-!
Writing payloads as an event stream. Every choice a writer has is a different rendering: how a line
ends, whether a space follows the colon, which other lines stand where. The framing takes each of
them back to the payloads.
-/

namespace Cupping.EventStream

inductive LineEnd where
  | feed
  | returnFeed
deriving DecidableEq, Repr

def LineEnd.bytes : LineEnd → List UInt8
  | .feed => [10]
  | .returnFeed => [13, 10]

/-- A line as it is written. -/
structure Line where
  text : List Char
  ending : LineEnd
deriving DecidableEq, Repr

namespace Line

def bytes (line : Line) : List UInt8 :=
  Text.Utf8.encode line.text ++ line.ending.bytes

/-- What a reader takes for the text of the line: a carriage return right before the line feed is a
part of the line end, whoever wrote it. -/
def shown (line : Line) : List Char :=
  match line.ending with
  | .feed => Text.dropReturn line.text
  | .returnFeed => line.text

end Line

/-- A text that is no line of a payload: it is not empty, and its field is not `data`. -/
def IsForeign (text : List Char) : Prop :=
  text ≠ [] ∧ text.takeWhile (· ≠ ':') ≠ ['d', 'a', 't', 'a']

instance (text : List Char) : Decidable (IsForeign text) :=
  inferInstanceAs (Decidable (_ ∧ _))

/-- A text that carries a piece of a payload. Without the space after the colon the piece must not
start with one. -/
def Carries (text piece : List Char) : Prop :=
  text = "data: ".toList ++ piece ∨ text = "data:".toList ++ piece ∧ piece.head? ≠ some ' '

/-- The lines carry the pieces, with foreign lines between them. -/
inductive CarriesAll : List Line → List (List Char) → Prop where
  | nil : CarriesAll [] []
  | foreign {line : Line} {lines : List Line} {pieces : List (List Char)}
      (whole : '\n' ∉ line.text) (foreign : IsForeign line.text)
      (rest : CarriesAll lines pieces) : CarriesAll (line :: lines) pieces
  | piece {line : Line} {piece : List Char} {lines : List Line} {pieces : List (List Char)}
      (carries : Carries line.text piece) (rest : CarriesAll lines pieces) :
      CarriesAll (line :: lines) (piece :: pieces)

/-- The lines write the payloads: each as its pieces and an empty line, with foreign and empty lines
between payloads. -/
inductive Renders : List Line → List String → Prop where
  | nil : Renders [] []
  | foreign {line : Line} {lines : List Line} {payloads : List String}
      (whole : '\n' ∉ line.text) (foreign : IsForeign line.text)
      (rest : Renders lines payloads) : Renders (line :: lines) payloads
  | blank {line : Line} {lines : List Line} {payloads : List String}
      (blank : line.text = []) (rest : Renders lines payloads) : Renders (line :: lines) payloads
  | payload {body lines : List Line} {line : Line} {payload : String} {payloads : List String}
      (carries : CarriesAll body (Text.splitAt '\n' payload.toList)) (blank : line.text = [])
      (rest : Renders lines payloads) : Renders (body ++ line :: lines) (payload :: payloads)

/-- No piece of the payloads ends with a carriage return. -/
def IsClean (payloads : List String) : Prop :=
  ∀ payload ∈ payloads, ∀ piece ∈ Text.splitAt '\n' payload.toList, piece.getLast? ≠ some '\r'

instance (payloads : List String) : Decidable (IsClean payloads) :=
  inferInstanceAs (Decidable (∀ payload ∈ payloads, ∀ piece ∈ Text.splitAt '\n' payload.toList,
    piece.getLast? ≠ some '\r'))

/-- The foreign lines stay foreign to a reader. -/
def StaysForeign (lines : List Line) : Prop :=
  ∀ line ∈ lines, IsForeign line.text → IsForeign line.shown

instance (lines : List Line) : Decidable (StaysForeign lines) :=
  inferInstanceAs (Decidable (∀ line ∈ lines, IsForeign line.text → IsForeign line.shown))

def bytes (lines : List Line) : List UInt8 :=
  lines.flatMap Line.bytes

namespace Framing

/-- Together, the frames of all chunks are those of their bytes in one piece. -/
theorem pushAll_flatten (state : Framing) (chunks : List (List UInt8)) :
    (pushAll state chunks).1.flatten = (push state chunks.flatten).1 ∧
      (pushAll state chunks).2 = (push state chunks.flatten).2 := by
  induction chunks generalizing state with
  | nil => exact ⟨rfl, rfl⟩
  | cons chunk rest ih =>
    obtain ⟨frames, final⟩ := ih (push state chunk).2
    rw [List.flatten_cons, push_append]
    constructor
    · rw [pushAll, List.flatten_cons, frames]
    · rw [pushAll, final]

theorem push_open {bytes : List UInt8} (noFeed : 10 ∉ bytes) (line : List UInt8)
    (values : List String) (rest : List UInt8) :
    push ⟨line, values⟩ (bytes ++ rest) = push ⟨bytes.reverse ++ line, values⟩ rest := by
  induction bytes generalizing line with
  | nil => rfl
  | cons byte more ih =>
    have other : byte ≠ 10 := fun same => noFeed (by simp [same])
    have later : 10 ∉ more := fun member => noFeed (List.mem_cons_of_mem byte member)
    rw [List.cons_append, push, step, if_neg other]
    simp only [ih later, Option.toList_none, List.nil_append, List.reverse_cons,
      List.append_assoc, List.singleton_append]

theorem noFeed_encode {text : List Char} (whole : '\n' ∉ text) : 10 ∉ Text.Utf8.encode text :=
  fun member => whole (Text.Utf8.mem_encode_ascii (by decide) member)

theorem readingText_encode (text : List Char) :
    Reading.lineText (Text.Utf8.encode text) = Text.dropReturn text := by
  unfold Reading.lineText Reading.dropReturn Text.dropReturn
  by_cases returned : text.getLast? = some '\r'
  · obtain ⟨before, rfl⟩ := List.getLast?_eq_some_iff.mp returned
    have single : Text.Utf8.encode ['\r'] = [13] := by decide
    rw [if_pos returned, Text.Utf8.encode_append, single, if_pos List.getLast?_concat,
      List.dropLast_concat, List.dropLast_concat, Text.Utf8.lossy_encode]
  · have other : (Text.Utf8.encode text).getLast? ≠ some 13 := fun last =>
      returned (Text.Utf8.getLast?_encode_ascii (by decide) last)
    rw [if_neg returned, if_neg other, Text.Utf8.lossy_encode]

theorem readingText_encode_return (text : List Char) :
    Reading.lineText (Text.Utf8.encode text ++ [13]) = text := by
  unfold Reading.lineText Reading.dropReturn
  rw [if_pos List.getLast?_concat, List.dropLast_concat, Text.Utf8.lossy_encode]

/-- A line is read as the text it shows, and what follows it is read afresh. -/
theorem push_line {line : Line} (whole : '\n' ∉ line.text) (values : List String)
    (rest : List UInt8) :
    push ⟨[], values⟩ (line.bytes ++ rest) =
      ((endLine values line.shown).1.toList ++
          (push ⟨[], (endLine values line.shown).2⟩ rest).1,
        (push ⟨[], (endLine values line.shown).2⟩ rest).2) := by
  have noFeed := noFeed_encode whole
  unfold Line.bytes Line.shown
  cases line.ending with
  | feed =>
    rw [LineEnd.bytes, List.append_assoc, push_open noFeed, List.append_nil,
      List.singleton_append, push, step, if_pos rfl, lineText_reverse, readingText_encode]
  | returnFeed =>
    have noFeed' : 10 ∉ Text.Utf8.encode line.text ++ [13] := by
      rw [List.mem_append]
      rintro (member | member)
      · exact noFeed member
      · simp at member
    have cut : Text.Utf8.encode line.text ++ [13, 10] ++ rest =
        (Text.Utf8.encode line.text ++ [13]) ++ 10 :: rest := by
      simp
    rw [LineEnd.bytes, cut, push_open noFeed', List.append_nil, push, step, if_pos rfl,
      lineText_reverse, readingText_encode_return]

theorem endLine_foreign {text : List Char} (foreign : IsForeign text) (values : List String) :
    endLine values text = (none, values) := by
  obtain ⟨filled, other⟩ := foreign
  have value : dataValue? text = none := if_neg other
  simp [endLine, filled, value]

theorem value?_carries {text piece : List Char} (carries : Carries text piece) :
    Reading.value? text = some (String.ofList piece) := by
  rcases carries with rfl | ⟨rfl, tight⟩
  · rfl
  · cases piece with
    | nil => rfl
    | cons first rest =>
      have other : first ≠ ' ' := by simpa using tight
      unfold Reading.value?
      split <;> simp_all

theorem endLine_carries {text piece : List Char} (carries : Carries text piece)
    (values : List String) :
    endLine values text = (none, values ++ [String.ofList piece]) := by
  have filled : text ≠ [] := by
    rcases carries with rfl | ⟨rfl, -⟩ <;> simp
  simp [endLine, filled, dataValue?_eq, value?_carries carries]

theorem shown_eq {line : Line} (clean : line.text.getLast? ≠ some '\r') :
    line.shown = line.text := by
  unfold Line.shown
  cases line.ending with
  | feed => exact if_neg clean
  | returnFeed => rfl

theorem shown_carries {line : Line} {piece : List Char} (carries : Carries line.text piece)
    (clean : piece.getLast? ≠ some '\r') : line.shown = line.text := by
  apply shown_eq
  cases piece with
  | nil => rcases carries with same | ⟨same, -⟩ <;> rw [same] <;> decide
  | cons first rest =>
    rcases carries with same | ⟨same, -⟩ <;>
      rwa [same, List.getLast?_append_of_ne_nil _ (List.cons_ne_nil first rest)]

theorem noFeed_carries {text piece : List Char} (carries : Carries text piece)
    (whole : '\n' ∉ piece) : '\n' ∉ text := by
  rcases carries with rfl | ⟨rfl, -⟩ <;> simpa using whole

/-- The lines of a payload add its pieces to the values and complete nothing. -/
theorem push_carriesAll {lines : List Line} {pieces : List (List Char)}
    (carries : CarriesAll lines pieces) (stays : StaysForeign lines)
    (clean : ∀ piece ∈ pieces, piece.getLast? ≠ some '\r')
    (whole : ∀ piece ∈ pieces, '\n' ∉ piece) (values : List String) (rest : List UInt8) :
    push ⟨[], values⟩ (bytes lines ++ rest) =
      push ⟨[], values ++ pieces.map String.ofList⟩ rest := by
  induction carries generalizing values with
  | nil => simp [bytes]
  | foreign noFeed foreign more ih =>
    obtain ⟨here, later⟩ := List.forall_mem_cons.mp stays
    rw [bytes, List.flatMap_cons, List.append_assoc, push_line noFeed,
      endLine_foreign (here foreign)]
    exact ih later clean whole values
  | piece carried more ih =>
    obtain ⟨-, later⟩ := List.forall_mem_cons.mp stays
    obtain ⟨noReturn, cleanLater⟩ := List.forall_mem_cons.mp clean
    obtain ⟨noFeed, wholeLater⟩ := List.forall_mem_cons.mp whole
    rw [List.map_cons, List.append_cons, bytes, List.flatMap_cons, List.append_assoc,
      push_line (noFeed_carries carried noFeed), shown_carries carried noReturn,
      endLine_carries carried]
    exact ih later cleanLater wholeLater _

theorem shown_blank {line : Line} (blank : line.text = []) : line.shown = [] := by
  rw [shown_eq (by simp [blank]), blank]

theorem push_blank {line : Line} (blank : line.text = []) (values : List String)
    (rest : List UInt8) :
    push ⟨[], values⟩ (line.bytes ++ rest) =
      ((endLine values []).1.toList ++ (push initial rest).1, (push initial rest).2) := by
  have emptied : (endLine values []).2 = [] := by
    cases values <;> rfl
  rw [push_line (by simp [blank]), shown_blank blank, emptied, initial]

/-- What is written, the framing takes back: it finds the payloads, and nothing is left over. -/
theorem push_renders {lines : List Line} {payloads : List String}
    (renders : Renders lines payloads) (stays : StaysForeign lines) (clean : IsClean payloads) :
    push initial (bytes lines) = (payloads, initial) := by
  induction renders with
  | nil => rfl
  | foreign noFeed foreign more ih =>
    obtain ⟨here, later⟩ := List.forall_mem_cons.mp stays
    rw [bytes, List.flatMap_cons, initial, push_line noFeed, endLine_foreign (here foreign)]
    exact ih later clean
  | blank empty more ih =>
    obtain ⟨-, later⟩ := List.forall_mem_cons.mp stays
    have read := ih later clean
    rw [bytes] at read
    rw [bytes, List.flatMap_cons, initial, push_blank empty, read]
    rfl
  | @payload body lines line payload payloads carries empty more ih =>
    obtain ⟨inBody, after⟩ := List.forall_mem_append.mp stays
    obtain ⟨-, later⟩ := List.forall_mem_cons.mp after
    obtain ⟨here, cleanLater⟩ := List.forall_mem_cons.mp clean
    have read := ih later cleanLater
    have completed : endLine ((Text.splitAt '\n' payload.toList).map String.ofList) [] =
        (some payload, []) := by
      simp [endLine, Text.splitAt_ne_nil, Text.join_splitAt]
    have cut : bytes (body ++ line :: lines) = bytes body ++ (line.bytes ++ bytes lines) := by
      simp [bytes]
    rw [cut, initial, push_carriesAll carries inBody here fun piece => Text.separator_notMem,
      List.nil_append, push_blank empty, completed, read]
    rfl

/-- However payloads are rendered and the bytes are cut into chunks, the framing finds the payloads
in their order and keeps nothing. -/
theorem pushAll_renders {lines : List Line} {payloads : List String}
    (renders : Renders lines payloads) (stays : StaysForeign lines) (clean : IsClean payloads)
    {chunks : List (List UInt8)} (cut : chunks.flatten = bytes lines) :
    (initial.pushAll chunks).1.flatten = payloads ∧ (initial.pushAll chunks).2 = initial := by
  obtain ⟨frames, final⟩ := pushAll_flatten initial chunks
  rw [frames, final, cut, push_renders renders stays clean]
  exact ⟨rfl, rfl⟩

/-- A heartbeat, a payload of two pieces with a foreign line between them, and an empty payload. -/
def mixedLines : List Line :=
  [⟨": heartbeat".toList, .feed⟩, ⟨[], .returnFeed⟩,
    ⟨"data:a".toList, .feed⟩, ⟨"id: 7\r".toList, .feed⟩, ⟨"data:  é:".toList, .returnFeed⟩,
    ⟨[], .feed⟩, ⟨[], .returnFeed⟩,
    ⟨"data:".toList, .feed⟩, ⟨"retry".toList, .feed⟩, ⟨[], .feed⟩]

/-- The cut is inside the letter of two bytes. -/
theorem pushAll_mixedLines :
    Renders mixedLines ["a\n é:", ""] ∧ StaysForeign mixedLines ∧ IsClean ["a\n é:", ""] ∧
      (initial.pushAll [(bytes mixedLines).take 36, [], (bytes mixedLines).drop 36]).1.flatten =
        ["a\n é:", ""] ∧
      (initial.pushAll [(bytes mixedLines).take 36, [], (bytes mixedLines).drop 36]).2 =
        initial := by
  have first : CarriesAll
      [⟨"data:a".toList, .feed⟩, ⟨"id: 7\r".toList, .feed⟩, ⟨"data:  é:".toList, .returnFeed⟩]
      (Text.splitAt '\n' "a\n é:".toList) := by
    apply CarriesAll.piece (.inr ⟨rfl, by decide⟩)
    apply CarriesAll.foreign (by decide) (by decide)
    exact CarriesAll.piece (.inl rfl) .nil
  have second : CarriesAll [⟨"data:".toList, .feed⟩, ⟨"retry".toList, .feed⟩]
      (Text.splitAt '\n' "".toList) := by
    apply CarriesAll.piece (.inr ⟨rfl, by decide⟩)
    exact CarriesAll.foreign (by decide) (by decide) .nil
  have renders : Renders mixedLines ["a\n é:", ""] := by
    apply Renders.foreign (by decide) (by decide)
    apply Renders.blank rfl
    apply Renders.payload first rfl
    apply Renders.blank rfl
    exact Renders.payload second rfl .nil
  have stays : StaysForeign mixedLines := by decide
  have clean : IsClean ["a\n é:", ""] := by decide
  exact ⟨renders, stays, clean, pushAll_renders renders stays clean (by simp)⟩

/-- A payload of two pieces with a foreign line between them that is a carriage return. -/
def returnLines : List Line :=
  [⟨"data: a".toList, .feed⟩, ⟨['\r'], .feed⟩, ⟨"data: b".toList, .feed⟩, ⟨[], .feed⟩]

/-- Without foreign lines that stay foreign, a payload can come back in parts. -/
theorem pushAll_returnLines :
    ¬ ∀ (lines : List Line) (payloads : List String) (chunks : List (List UInt8)),
      Renders lines payloads → IsClean payloads → chunks.flatten = bytes lines →
        (initial.pushAll chunks).1.flatten = payloads ∧
          (initial.pushAll chunks).2 = initial := by
  intro undone
  have renders : Renders returnLines ["a\nb"] := by
    have carries : CarriesAll (returnLines.take 3) (Text.splitAt '\n' "a\nb".toList) := by
      apply CarriesAll.piece (.inl rfl)
      apply CarriesAll.foreign (by decide) (by decide)
      exact CarriesAll.piece (.inl rfl) .nil
    exact Renders.payload carries rfl .nil
  have parts : (initial.pushAll [bytes returnLines]).1.flatten = ["a", "b"] := by decide
  have whole := undone returnLines ["a\nb"] [bytes returnLines] renders (by decide) (by simp)
  rw [parts] at whole
  exact absurd whole.1 (by decide)

end Framing
end Cupping.EventStream
