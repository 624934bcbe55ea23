import Cupping.EventStream.Framing
import Mathlib.Data.List.Basic
import Mathlib.Data.List.Induction

/-!
An event stream read at once. The bytes are cut into lines, the lines into groups that an empty line
ends, and a group with values is a frame. What one more byte adds to such a reading is what the
framing of a stream has to find out without going back.
-/

namespace Cupping.EventStream.Reading

variable {α : Type}

/-- The pieces of a list that an element with a property ends, without that element. -/
def ended (p : α → Bool) (items : List α) : List (List α) :=
  (items.splitOnP p).dropLast

/-- What follows the last element with a property. -/
def unended (p : α → Bool) (items : List α) : List α :=
  (items.splitOnP p).getLast (List.splitOnP_ne_nil p items)

theorem splitOnP_eq (p : α → Bool) (items : List α) :
    items.splitOnP p = ended p items ++ [unended p items] :=
  (List.dropLast_concat_getLast (List.splitOnP_ne_nil p items)).symm

theorem splitOnP_concat {p : α → Bool} {item : α} (kept : p item = false) {items : List α}
    {pieces : List (List α)} {last : List α} (split : items.splitOnP p = pieces ++ [last]) :
    (items ++ [item]).splitOnP p = pieces ++ [last ++ [item]] := by
  induction items generalizing pieces last with
  | nil =>
    obtain ⟨rfl, rfl⟩ : pieces = [] ∧ last = [] := by
      cases pieces <;> simp_all
    simp [List.splitOnP_cons_eq_if_modifyHead, kept]
  | cons head rest ih =>
    have whole := ih (splitOnP_eq p rest)
    rw [List.splitOnP_cons_eq_if_modifyHead, splitOnP_eq p rest] at split
    rw [List.cons_append, List.splitOnP_cons_eq_if_modifyHead, whole]
    by_cases ends : p head = true
    · rw [if_pos ends, ← List.cons_append] at split
      obtain ⟨rfl, same⟩ := List.append_inj' split rfl
      simp_all
    · rw [if_neg ends] at split
      rw [if_neg ends]
      cases shape : ended p rest with
      | nil =>
        have shifted : [] ++ [head :: unended p rest] = pieces ++ [last] := by
          simpa [shape] using split
        obtain ⟨rfl, same⟩ := List.append_inj' shifted rfl
        obtain rfl := List.singleton_inj.mp same
        rfl
      | cons piece more =>
        have shifted : ((head :: piece) :: more) ++ [unended p rest] = pieces ++ [last] := by
          simpa [shape] using split
        obtain ⟨rfl, same⟩ := List.append_inj' shifted rfl
        obtain rfl := List.singleton_inj.mp same
        rfl

theorem ended_append_singleton (p : α → Bool) (items : List α) (item : α) :
    ended p (items ++ [item]) =
      if p item then ended p items ++ [unended p items] else ended p items := by
  by_cases ends : p item = true
  · rw [if_pos ends, ended, List.splitOnP_append_cons items [] ends, ← splitOnP_eq p items]
    simp
  · rw [if_neg ends, ended, splitOnP_concat (by simpa using ends) (splitOnP_eq p items)]
    simp

theorem unended_append_singleton (p : α → Bool) (items : List α) (item : α) :
    unended p (items ++ [item]) = if p item then [] else unended p items ++ [item] := by
  by_cases ends : p item = true
  · simp [unended, List.splitOnP_append_cons items [] ends, ends]
  · simp [unended, splitOnP_concat (by simpa using ends) (splitOnP_eq p items), ends]

/-- The bytes of the lines that a line feed ends. -/
def completeLines (bytes : List UInt8) : List (List UInt8) :=
  ended (· == 10) bytes

/-- The bytes after the last line feed. -/
def unfinishedLine (bytes : List UInt8) : List UInt8 :=
  unended (· == 10) bytes

/-- Removes one carriage return from the end of a line. -/
def dropReturn (line : List UInt8) : List UInt8 :=
  if line.getLast? = some 13 then line.dropLast else line

/-- The text of a line. -/
def lineText (line : List UInt8) : List Char :=
  Text.Utf8.lossy (dropReturn line)

/-- The texts of the complete lines. -/
def texts (bytes : List UInt8) : List (List Char) :=
  (completeLines bytes).map lineText

/-- The value of a `data` line. One space after the colon does not belong to it, and without a colon
it is empty. -/
def value? : List Char → Option String
  | ['d', 'a', 't', 'a'] => some ""
  | 'd' :: 'a' :: 't' :: 'a' :: ':' :: ' ' :: value => some (String.ofList value)
  | 'd' :: 'a' :: 't' :: 'a' :: ':' :: value => some (String.ofList value)
  | _ => none

/-- The frame made of some lines, unless there is no `data` line among them. -/
def frame? (lines : List (List Char)) : Option String :=
  match lines.filterMap value? with
  | [] => none
  | values => some ("\n".intercalate values)

/-- The frames of a stream, made of the lines between empty ones. Lines that no empty line follows
make no frame yet. -/
def frames (bytes : List UInt8) : List String :=
  (ended List.isEmpty (texts bytes)).filterMap frame?

/-- The complete lines after the last empty one. -/
def openLines (bytes : List UInt8) : List (List Char) :=
  unended List.isEmpty (texts bytes)

/-- The frame that a line feed would complete right after some bytes. -/
def closing? (bytes : List UInt8) : Option String :=
  if lineText (unfinishedLine bytes) = [] then frame? (openLines bytes) else none

/-- The frame that the byte at a place completes; only a line feed can. -/
def closedAt? (bytes : List UInt8) (place : Nat) : Option String :=
  if bytes[place]? = some 10 then closing? (bytes.take place) else none

/-- The frames completed by so many bytes from a place on. -/
def closedWithin (bytes : List UInt8) (place count : Nat) : List String :=
  (List.range' place count).filterMap (closedAt? bytes)

theorem texts_append_singleton (bytes : List UInt8) (byte : UInt8) :
    texts (bytes ++ [byte]) =
      if byte = 10 then texts bytes ++ [lineText (unfinishedLine bytes)] else texts bytes := by
  unfold texts completeLines unfinishedLine
  rw [ended_append_singleton]
  by_cases feed : byte = 10 <;> simp [feed]

theorem unfinishedLine_append_singleton (bytes : List UInt8) (byte : UInt8) :
    unfinishedLine (bytes ++ [byte]) =
      if byte = 10 then [] else unfinishedLine bytes ++ [byte] := by
  unfold unfinishedLine
  rw [unended_append_singleton]
  by_cases feed : byte = 10 <;> simp [feed]

theorem openLines_append_singleton (bytes : List UInt8) (byte : UInt8) :
    openLines (bytes ++ [byte]) =
      if byte = 10 then
        if lineText (unfinishedLine bytes) = [] then []
        else openLines bytes ++ [lineText (unfinishedLine bytes)]
      else openLines bytes := by
  unfold openLines
  rw [texts_append_singleton]
  by_cases feed : byte = 10
  · rw [if_pos feed, if_pos feed, unended_append_singleton]
    simp [List.isEmpty_iff]
  · rw [if_neg feed, if_neg feed]

theorem frames_append_singleton (bytes : List UInt8) (byte : UInt8) :
    frames (bytes ++ [byte]) =
      frames bytes ++ (if byte = 10 then closing? bytes else none).toList := by
  unfold frames
  rw [texts_append_singleton]
  by_cases feed : byte = 10
  · rw [if_pos feed, if_pos feed, ended_append_singleton, closing?]
    by_cases blank : lineText (unfinishedLine bytes) = []
    · simp [blank, openLines, List.filterMap_append, List.filterMap_cons]
      split <;> simp_all
    · simp [blank, List.isEmpty_iff]
  · simp [feed]

/-- What a byte completes is settled by the bytes up to it. -/
theorem closedAt?_append {place : Nat} {bytes : List UInt8} (within : place < bytes.length)
    (more : List UInt8) : closedAt? (bytes ++ more) place = closedAt? bytes place := by
  simp [closedAt?, List.getElem?_append_left within,
    List.take_append_of_le_length (Nat.le_of_lt within)]

theorem closedWithin_one (bytes : List UInt8) (place : Nat) :
    closedWithin bytes place 1 = (closedAt? bytes place).toList := by
  cases closed : closedAt? bytes place <;> simp [closedWithin, closed]

theorem closedWithin_add (bytes : List UInt8) (place first second : Nat) :
    closedWithin bytes place (first + second) =
      closedWithin bytes place first ++ closedWithin bytes (place + first) second := by
  unfold closedWithin
  rw [← List.range'_append_1, List.filterMap_append]

theorem closedWithin_append {place count : Nat} {bytes : List UInt8}
    (within : place + count ≤ bytes.length) (more : List UInt8) :
    closedWithin (bytes ++ more) place count = closedWithin bytes place count := by
  unfold closedWithin
  apply List.filterMap_congr
  intro spot member
  have bounds := List.mem_range'_1.mp member
  exact closedAt?_append (by omega) more

/-- The frames of a stream are those that its bytes complete. -/
theorem frames_eq_closedWithin (bytes : List UInt8) :
    frames bytes = closedWithin bytes 0 bytes.length := by
  induction bytes using List.reverseRecOn with
  | nil => rfl
  | append_singleton bytes byte ih =>
    have last : closedAt? (bytes ++ [byte]) bytes.length =
        if byte = 10 then closing? bytes else none := by
      simp [closedAt?]
    calc frames (bytes ++ [byte])
      _ = closedWithin (bytes ++ [byte]) 0 bytes.length ++
          closedWithin (bytes ++ [byte]) bytes.length 1 := by
        rw [frames_append_singleton, ih, closedWithin_one, last, closedWithin_append (by omega)]
      _ = closedWithin (bytes ++ [byte]) 0 (bytes ++ [byte]).length := by
        simp [closedWithin_add]

end Cupping.EventStream.Reading
