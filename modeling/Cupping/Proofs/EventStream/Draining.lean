import Cupping.EventStream.Decoder
import Cupping.Proofs.EventStream.Chunking
import Mathlib.Data.List.TakeWhile

/-!
Taking whole lines from a buffer and taking bytes one at a time give the same frames. Between two
chunks the buffer holds the unfinished line and nothing else, since all line feeds have been taken.
-/

namespace Cupping.EventStream

theorem idxOf?_append_cons {α : Type} [BEq α] [LawfulBEq α] {before : List α} {item : α}
    (first : item ∉ before) (behind : List α) :
    (before ++ item :: behind).idxOf? item = some before.length := by
  have none : before.findIdx? (· == item) = none := List.idxOf?_eq_none_iff.mpr first
  rw [List.idxOf?, List.findIdx?_append, none, List.findIdx?_cons, if_pos (beq_self_eq_true item)]
  simp

theorem drop_append_cons {α : Type} (before : List α) (item : α) (behind : List α) :
    (before ++ item :: behind).drop (before.length + 1) = behind := by
  rw [List.append_cons]
  exact List.drop_left' List.length_append

namespace Framing

/-- Without a line feed the line only grows. -/
theorem push_of_notMem (state : Framing) {bytes : List UInt8} (quiet : 10 ∉ bytes) :
    push state bytes = ([], { state with line := bytes.reverse ++ state.line }) := by
  induction bytes generalizing state with
  | nil => rfl
  | cons byte rest ih =>
    obtain ⟨other, quiet⟩ := not_or.mp (mt List.mem_cons.mpr quiet)
    have kept : step state byte = (none, { state with line := byte :: state.line }) :=
      if_neg (Ne.symm other)
    rw [push, kept]
    simp only [ih _ quiet]
    simp

/-- Up to its first line feed, a text is one line. -/
theorem push_append_feed (values : List String) {line : List UInt8} (quiet : 10 ∉ line)
    (later : List UInt8) :
    push ⟨[], values⟩ (line ++ 10 :: later) =
      ((endLine values (Reading.lineText line)).1.toList ++
          (push ⟨[], (endLine values (Reading.lineText line)).2⟩ later).1,
        (push ⟨[], (endLine values (Reading.lineText line)).2⟩ later).2) := by
  rw [push_append, push_of_notMem _ quiet, List.append_nil, List.nil_append, push]
  simp only [step, if_true, lineText_reverse]

end Framing

namespace Decoder

/-- The bytes of the buffer, the latest first. -/
def framing (decoder : Decoder) : Framing :=
  ⟨decoder.buffer.reverse, decoder.values⟩

theorem trim_append_feed (line : List UInt8) : trim (line ++ [10]) = Reading.dropReturn line := by
  simp only [trim, List.dropLast_concat, Reading.dropReturn]

/-- The first colon is where the field ends, however it is looked for. -/
theorem splitField_eq (line : List Char) :
    splitField line = (line.takeWhile (· ≠ ':'),
      Framing.dropSpace ((line.dropWhile (· ≠ ':')).drop 1)) := by
  by_cases colon : ':' ∈ line
  · obtain ⟨field, value, rfl, first⟩ := List.eq_append_cons_of_mem colon
    have plain : ∀ c ∈ field, decide (c ≠ ':') = true :=
      fun c member => decide_eq_true fun same => first (same ▸ member)
    rw [splitField, idxOf?_append_cons first, List.takeWhile_append_of_pos plain,
      List.dropWhile_append_of_pos plain, List.takeWhile_cons_of_neg (by simp),
      List.dropWhile_cons_of_neg (by simp), List.append_nil, List.drop_one, List.tail_cons]
    simp only [List.take_left, drop_append_cons]
    rfl
  · have plain : ∀ c ∈ line, decide (c ≠ ':') = true :=
      fun c member => decide_eq_true fun same => colon (same ▸ member)
    rw [splitField, List.idxOf?_eq_none_iff.mpr colon, List.takeWhile_eq_self_iff.mpr plain,
      List.dropWhile_eq_nil_iff.mpr plain]
    rfl

/-- A comment is a line whose field is empty, so that it needs no treatment of its own. -/
theorem takeLine_eq (values : List String) (line : List Char) :
    takeLine values line = Framing.endLine values line := by
  cases line with
  | nil => cases values <;> rfl
  | cons first rest =>
    have found : Framing.dataValue? (first :: rest) =
        if (splitField (first :: rest)).1 = "data".toList then
          some (String.ofList (splitField (first :: rest)).2) else none := by
      rw [splitField_eq]
      rfl
    by_cases comment : first = ':'
    · have unnamed : (splitField (first :: rest)).1 = [] := by
        rw [splitField_eq, comment]
        rfl
      rw [unnamed, if_neg (by decide)] at found
      rw [comment] at found ⊢
      simp [takeLine, Framing.endLine, found]
    · simp only [takeLine, Framing.endLine, found]
      split_ifs <;> simp_all

theorem drain_of_notMem {decoder : Decoder} (quiet : 10 ∉ decoder.buffer) :
    drain decoder = ([], decoder) := by
  rw [drain]
  split
  · rfl
  · rename_i place found
    rw [List.idxOf?_eq_none_iff.mpr quiet] at found
    cases found

theorem drain_append_feed (values : List String) {line : List UInt8} (quiet : 10 ∉ line)
    (later : List UInt8) :
    drain ⟨line ++ 10 :: later, values⟩ =
      ((Framing.endLine values (Reading.lineText line)).1.toList ++
          (drain ⟨later, (Framing.endLine values (Reading.lineText line)).2⟩).1,
        (drain ⟨later, (Framing.endLine values (Reading.lineText line)).2⟩).2) := by
  have place := idxOf?_append_cons quiet later
  have taken : (line ++ 10 :: later).take (line.length + 1) = line ++ [10] := by
    rw [List.append_cons]
    exact List.take_left' List.length_append
  rw [drain]
  split
  · rename_i found
    rw [place] at found
    cases found
  · rename_i other found
    obtain rfl : line.length = other := Option.some.inj (place.symm.trans found)
    simp only [taken, drop_append_cons, trim_append_feed, takeLine_eq]
    rfl

/-- Draining the buffer finds what its bytes make one at a time, and leaves no line feed. -/
theorem drain_eq (buffer : List UInt8) (values : List String) :
    (drain ⟨buffer, values⟩).1 = (Framing.push ⟨[], values⟩ buffer).1 ∧
      (drain ⟨buffer, values⟩).2.framing = (Framing.push ⟨[], values⟩ buffer).2 ∧
      10 ∉ (drain ⟨buffer, values⟩).2.buffer := by
  by_cases feed : 10 ∈ buffer
  · obtain ⟨line, later, rfl, quiet⟩ := List.eq_append_cons_of_mem feed
    rw [drain_append_feed values quiet, Framing.push_append_feed values quiet]
    obtain ⟨frames, final, clear⟩ := drain_eq later
      (Framing.endLine values (Reading.lineText line)).2
    exact ⟨congrArg _ frames, final, clear⟩
  · rw [drain_of_notMem feed, Framing.push_of_notMem _ feed, List.append_nil]
    exact ⟨rfl, rfl, feed⟩
termination_by buffer.length
decreasing_by
  subst_vars
  simp only [List.length_append, List.length_cons]
  omega

/-- A decoder whose buffer has no line feed takes a chunk as its framing takes the bytes of it. -/
theorem push_eq {decoder : Decoder} (quiet : 10 ∉ decoder.buffer) (chunk : List UInt8) :
    (decoder.push chunk).1 = (decoder.framing.push chunk).1 ∧
      (decoder.push chunk).2.framing = (decoder.framing.push chunk).2 ∧
      10 ∉ (decoder.push chunk).2.buffer := by
  have whole : Framing.push ⟨[], decoder.values⟩ (decoder.buffer ++ chunk) =
      decoder.framing.push chunk := by
    rw [Framing.push_append, Framing.push_of_notMem _ quiet, List.append_nil]
    rfl
  rw [← whole]
  exact drain_eq (decoder.buffer ++ chunk) decoder.values

/-- The frames that some chunks complete, chunk by chunk, and what has arrived of the next one. -/
def pushAll (decoder : Decoder) : List (List UInt8) → List (List String) × Decoder
  | [] => ([], decoder)
  | chunk :: rest =>
    let (frames, next) := decoder.push chunk
    let (more, final) := pushAll next rest
    (frames :: more, final)

theorem pushAll_eq {decoder : Decoder} (quiet : 10 ∉ decoder.buffer)
    (chunks : List (List UInt8)) :
    (decoder.pushAll chunks).1 = (decoder.framing.pushAll chunks).1 ∧
      (decoder.pushAll chunks).2.framing = (decoder.framing.pushAll chunks).2 ∧
      10 ∉ (decoder.pushAll chunks).2.buffer := by
  induction chunks generalizing decoder with
  | nil => exact ⟨rfl, rfl, quiet⟩
  | cons chunk rest ih =>
    obtain ⟨frames, next, clear⟩ := push_eq quiet chunk
    obtain ⟨more, final, clear⟩ := ih clear
    rw [pushAll, Framing.pushAll]
    simp only [← next, frames, more, true_and]
    exact ⟨final, clear⟩

/-- Whatever the chunks are, line by line from the buffer they make the frames that they make byte
by byte, each at the same chunk, and the buffer is what remains of the last line. -/
theorem pushAll_framing (chunks : List (List UInt8)) :
    (initial.pushAll chunks).1 = (Framing.initial.pushAll chunks).1 ∧
      (initial.pushAll chunks).2.framing = (Framing.initial.pushAll chunks).2 ∧
      10 ∉ (initial.pushAll chunks).2.buffer :=
  pushAll_eq List.not_mem_nil chunks

/-- A letter of two bytes and the end of a line are cut in the middle. -/
example : (initial.pushAll [[0x64, 0x61, 0x74, 0x61, 0x3A, 0x20, 0xC3], [0xA9, 0x0D], [],
    [0x0A, 0x0D], [0x0A]]).1 = [[], [], [], [], ["é"]] :=
  (pushAll_framing _).1.trans (by decide)

end Decoder
end Cupping.EventStream
