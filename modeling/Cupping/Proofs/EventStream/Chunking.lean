import Cupping.Proofs.EventStream.Reading

/-!
However a stream is cut into chunks, its framing finds the frames of the whole stream, each as soon
as the line feed that completes it has arrived. The state between two chunks is determined by the
bytes so far.
-/

namespace Cupping.EventStream.Framing

open Reading

theorem data_shape {line : List Char} (field : line.takeWhile (· ≠ ':') = ['d', 'a', 't', 'a']) :
    line = ['d', 'a', 't', 'a'] ∨ ∃ value, line = 'd' :: 'a' :: 't' :: 'a' :: ':' :: value := by
  have whole := List.takeWhile_append_dropWhile (p := (· ≠ ':')) (l := line)
  cases rest : line.dropWhile (· ≠ ':') with
  | nil =>
    rw [field, rest] at whole
    exact .inl whole.symm
  | cons colon value =>
    have stops := List.head_dropWhile_not (· ≠ ':') (l := line) (by rw [rest]; simp)
    simp only [rest, List.head_cons, decide_eq_false_iff_not, not_not] at stops
    rw [field, rest, stops] at whole
    exact .inr ⟨value, whole.symm⟩

theorem dropSpace_eq {value : List Char} (tight : ∀ rest, value ≠ ' ' :: rest) :
    dropSpace value = value := by
  unfold dropSpace
  split
  · rename_i rest
    exact absurd rfl (tight rest)
  · rfl

/-- Looking for the first colon finds the `data` lines and their values. -/
theorem dataValue?_eq (line : List Char) : dataValue? line = value? line := by
  unfold value?
  split
  · rfl
  · simp [dataValue?, dropSpace]
  · rename_i value tight
    simp [dataValue?, dropSpace_eq (fun rest same => tight rest same)]
  · rename_i bare spaced tight
    refine if_neg fun field => ?_
    rcases data_shape field with same | ⟨value, same⟩
    · exact bare same
    · exact tight value same

theorem lineText_reverse (line : List UInt8) : lineText line.reverse = Reading.lineText line := by
  induction line using List.reverseRecOn with
  | nil => rfl
  | append_singleton before last =>
    rw [List.reverse_append, List.reverse_singleton, List.singleton_append, lineText,
      Reading.lineText, dropReturn]
    by_cases carriage : last = 13 <;> simp [carriage]

/-- An empty line completes what the lines after the one before make, and any other joins them. -/
theorem endLine_filterMap (lines : List (List Char)) (line : List Char) :
    endLine (lines.filterMap value?) line =
      (if line = [] then frame? lines else none,
        (if line = [] then [] else lines ++ [line]).filterMap value?) := by
  cases line with
  | nil => cases values : lines.filterMap value? <;> simp [endLine, frame?, values]
  | cons first rest =>
    cases value : value? (first :: rest) <;>
      simp [endLine, dataValue?_eq, List.filterMap_append, value]

/-- What has arrived of the next frame after some bytes: those of the unfinished line, and the
values of the lines after the last empty one. -/
def after (bytes : List UInt8) : Framing :=
  ⟨(unfinishedLine bytes).reverse, (openLines bytes).filterMap value?⟩

/-- A byte takes the state after those before it to the state after it, and gives the frame that it
completes. -/
theorem step_after (bytes : List UInt8) (byte : UInt8) :
    step (after bytes) byte =
      (if byte = 10 then closing? bytes else none, after (bytes ++ [byte])) := by
  by_cases feed : byte = 10
  · simp [step, after, feed, lineText_reverse, endLine_filterMap, closing?,
      unfinishedLine_append_singleton, openLines_append_singleton]
  · simp [step, after, feed, unfinishedLine_append_singleton, openLines_append_singleton]

theorem push_after (before chunk later : List UInt8) :
    push (after before) chunk =
      (closedWithin (before ++ chunk ++ later) before.length chunk.length,
        after (before ++ chunk)) := by
  induction chunk generalizing before with
  | nil => simp [push, closedWithin]
  | cons byte rest ih =>
    have arrived : closedAt? (before ++ byte :: rest ++ later) before.length =
        if byte = 10 then closing? before else none := by
      simp [closedAt?]
    rw [push, step_after]
    simp only [ih (before ++ [byte])]
    rw [List.length_cons, Nat.add_comm, closedWithin_add, closedWithin_one, arrived]
    simp

theorem push_append (state : Framing) (bytes more : List UInt8) :
    push state (bytes ++ more) =
      ((push state bytes).1 ++ (push (push state bytes).2 more).1,
        (push (push state bytes).2 more).2) := by
  induction bytes generalizing state with
  | nil => rfl
  | cons byte rest ih => simp only [List.cons_append, push, ih, List.append_assoc]

/-- The frames that some chunks complete, chunk by chunk, and what has arrived of the next one. -/
def pushAll (state : Framing) : List (List UInt8) → List (List String) × Framing
  | [] => ([], state)
  | chunk :: rest =>
    let (frames, next) := state.push chunk
    let (more, final) := pushAll next rest
    (frames :: more, final)

theorem pushAll_after (before : List UInt8) (chunks : List (List UInt8)) :
    pushAll (after before) chunks =
      (chunks.mapIdx fun number chunk => closedWithin (before ++ chunks.flatten)
          (before.length + (chunks.take number).flatten.length) chunk.length,
        after (before ++ chunks.flatten)) := by
  induction chunks generalizing before with
  | nil => simp [pushAll]
  | cons chunk rest ih =>
    rw [pushAll, push_after before chunk rest.flatten]
    simp only [ih (before ++ chunk), List.mapIdx_cons, List.flatten_cons, List.append_assoc,
      List.take_zero, List.flatten_nil, List.length_nil, Nat.add_zero, List.take_succ_cons,
      List.length_append, Nat.add_assoc]

/-- Completed chunk by chunk, the frames of a stretch of the stream are complete. -/
theorem flatten_closedWithin (bytes : List UInt8) (place : Nat) (chunks : List (List UInt8)) :
    (chunks.mapIdx fun number chunk => closedWithin bytes
        (place + (chunks.take number).flatten.length) chunk.length).flatten =
      closedWithin bytes place chunks.flatten.length := by
  induction chunks generalizing place with
  | nil => simp [closedWithin]
  | cons chunk rest ih =>
    simp only [List.mapIdx_cons, List.flatten_cons, List.take_zero, List.flatten_nil,
      List.length_nil, Nat.add_zero, List.take_succ_cons, List.length_append, closedWithin_add,
      ← Nat.add_assoc, ih (place + chunk.length)]

/-- Whatever the chunks are, each gives the frames completed by its own bytes, all of them together
are the frames of the whole stream, and the bytes alone determine what remains. -/
theorem pushAll_initial (chunks : List (List UInt8)) :
    (initial.pushAll chunks).1 = chunks.mapIdx (fun number chunk =>
        closedWithin chunks.flatten (chunks.take number).flatten.length chunk.length) ∧
      (initial.pushAll chunks).1.flatten = frames chunks.flatten ∧
      (initial.pushAll chunks).2 = after chunks.flatten := by
  have run : initial.pushAll chunks = _ := pushAll_after [] chunks
  simp only [List.nil_append, List.length_nil, Nat.zero_add] at run
  refine ⟨by rw [run], ?_, by rw [run]⟩
  have joined := flatten_closedWithin chunks.flatten 0 chunks
  simp only [Nat.zero_add] at joined
  rw [run, joined, frames_eq_closedWithin]

/-- A letter of two bytes and the end of a line are cut in the middle. -/
example : (initial.pushAll [[0x64, 0x61, 0x74, 0x61, 0x3A, 0x20, 0xC3], [0xA9, 0x0D], [],
    [0x0A, 0x0D], [0x0A]]).1 = [[], [], [], [], ["é"]] := by
  decide

end Cupping.EventStream.Framing
