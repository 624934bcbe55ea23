import Cupping.Text.Utf8

/-!
The line format of event streams. A frame is the joined values of the `data` lines before an empty
line. Bytes are taken one at a time, so that it does not matter how they arrive.
-/

namespace Cupping.EventStream

/-- What has arrived of the next frame. -/
structure Framing where
  /-- The bytes of the unfinished line, the latest first. -/
  line : List UInt8
  /-- The values of the `data` lines since the last frame. -/
  values : List String
deriving DecidableEq, Repr

namespace Framing

/-- Before the first byte. -/
def initial : Framing :=
  ⟨[], []⟩

def dropSpace : List Char → List Char
  | ' ' :: rest => rest
  | value => value

/-- The value of a line whose field is `data`; without a colon it is empty. -/
def dataValue? (line : List Char) : Option String :=
  if line.takeWhile (· ≠ ':') = ['d', 'a', 't', 'a'] then
    some (String.ofList (dropSpace ((line.dropWhile (· ≠ ':')).drop 1)))
  else none

/-- The frame that a line completes, and the values that remain. An empty line completes a frame
unless there is nothing in it. -/
def endLine (values : List String) (line : List Char) : Option String × List String :=
  if line.isEmpty then
    if values.isEmpty then (none, []) else (some ("\n".intercalate values), [])
  else (none, values ++ (dataValue? line).toList)

/-- The text of a line whose bytes are given with the latest first. A carriage return at its end
does not count. -/
def lineText : List UInt8 → List Char
  | [] => []
  | last :: before => Text.Utf8.lossy (if last = 13 then before else last :: before).reverse

/-- The frame completed by a byte, and what has arrived of the next one. -/
def step (state : Framing) (byte : UInt8) : Option String × Framing :=
  if byte = 10 then
    let (frame, values) := endLine state.values (lineText state.line)
    (frame, ⟨[], values⟩)
  else (none, { state with line := byte :: state.line })

/-- The frames completed by some bytes, and what has arrived of the next one. -/
def push (state : Framing) : List UInt8 → List String × Framing
  | [] => ([], state)
  | byte :: rest =>
    let (frame, next) := step state byte
    let (frames, final) := push next rest
    (frame.toList ++ frames, final)

end Framing
end Cupping.EventStream
