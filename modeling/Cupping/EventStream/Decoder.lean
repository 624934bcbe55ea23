import Cupping.EventStream.Framing

/-!
The framing of event streams chunk by chunk. The bytes of unfinished lines are kept in a buffer:
each chunk goes behind them, and then lines are taken from the front as long as there is a line
feed.
-/

namespace Cupping.EventStream

/-- What has arrived of the next frame, with the bytes as they came. -/
structure Decoder where
  buffer : List UInt8
  /-- The values of the `data` lines since the last frame. -/
  values : List String
deriving DecidableEq, Repr

namespace Decoder

def initial : Decoder :=
  ⟨[], []⟩

/-- The bytes of a line without the line feed that ends them, and without a carriage return in
front of it. -/
def trim (bytes : List UInt8) : List UInt8 :=
  let line := bytes.dropLast
  if line.getLast? = some 13 then line.dropLast else line

/-- The field of a line and its value, in front of the first colon and behind it. A space that
follows the colon is not part of the value; a line without a colon is a field without one. -/
def splitField (line : List Char) : List Char × List Char :=
  match line.idxOf? ':' with
  | none => (line, [])
  | some place =>
    (line.take place, match line.drop (place + 1) with
      | ' ' :: value => value
      | value => value)

/-- The frame that a line completes, and the values that remain. -/
def takeLine (values : List String) (line : List Char) : Option String × List String :=
  if line.isEmpty then
    if values.isEmpty then (none, values) else (some ("\n".intercalate values), [])
  else if line.head? = some ':' then (none, values)
  else
    let (field, value) := splitField line
    (none, if field = "data".toList then values ++ [String.ofList value] else values)

/-- Takes lines from the buffer until there is no line feed in it, and gives the frames that they
complete. -/
def drain (decoder : Decoder) : List String × Decoder :=
  match _found : decoder.buffer.idxOf? 10 with
  | none => ([], decoder)
  | some place =>
    let line := Text.Utf8.lossy (trim (decoder.buffer.take (place + 1)))
    let (frame, values) := takeLine decoder.values line
    let (frames, final) := drain ⟨decoder.buffer.drop (place + 1), values⟩
    (frame.toList ++ frames, final)
termination_by decoder.buffer.length
decreasing_by
  have within := (List.findIdx?_eq_some_iff_getElem.mp _found).1
  rw [List.length_drop]
  omega

/-- The frames that a chunk completes, and what has arrived of the next one. -/
def push (decoder : Decoder) (chunk : List UInt8) : List String × Decoder :=
  drain { decoder with buffer := decoder.buffer ++ chunk }

end Decoder
end Cupping.EventStream
