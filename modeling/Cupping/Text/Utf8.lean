/-!
UTF-8. Decoding goes byte by byte and yields `none` for each ill-formed piece, a piece being as long
as a character could still have come of it. Reading with replacement and reading strictly are both
views of that.
-/

namespace Cupping.Text.Utf8

/-- What the decoder knows between two bytes. -/
inductive State where
  /-- Between two characters. -/
  | ready
  /-- Inside a character with `more + 1` bytes to come, the next of them from `low` to `high`. -/
  | inside (value more low high : Nat)
deriving DecidableEq, Repr

/-- The output and the next state for the first byte of a character. -/
def start (byte : Nat) : List (Option Char) × State :=
  if byte < 0x80 then ([some (Char.ofNat byte)], .ready)
  else if 0xC2 ≤ byte ∧ byte ≤ 0xDF then ([], .inside (byte - 0xC0) 0 0x80 0xBF)
  else if byte = 0xE0 then ([], .inside 0 1 0xA0 0xBF)
  else if byte = 0xED then ([], .inside 0xD 1 0x80 0x9F)
  else if 0xE1 ≤ byte ∧ byte ≤ 0xEF then ([], .inside (byte - 0xE0) 1 0x80 0xBF)
  else if byte = 0xF0 then ([], .inside 0 2 0x90 0xBF)
  else if byte = 0xF4 then ([], .inside 4 2 0x80 0x8F)
  else if 0xF1 ≤ byte ∧ byte ≤ 0xF3 then ([], .inside (byte - 0xF0) 2 0x80 0xBF)
  else ([none], .ready)

/-- The output and the next state for one byte. A byte that cannot continue a character ends an
ill-formed piece and is looked at again as a first byte. -/
def step (state : State) (byte : Nat) : List (Option Char) × State :=
  match state with
  | .ready => start byte
  | .inside value more low high =>
    if low ≤ byte ∧ byte ≤ high then
      let value := value * 64 + (byte - 0x80)
      match more with
      | 0 => ([some (Char.ofNat value)], .ready)
      | more + 1 => ([], .inside value more 0x80 0xBF)
    else
      let (output, next) := start byte
      (none :: output, next)

/-- The characters of the bytes that follow a state; an unfinished character is ill-formed. -/
def decodeFrom : State → List UInt8 → List (Option Char)
  | .ready, [] => []
  | .inside .., [] => [none]
  | state, byte :: rest =>
    let (output, next) := step state byte.toNat
    output ++ decodeFrom next rest

/-- The characters of a byte sequence, with `none` for each ill-formed piece. -/
def decode (bytes : List UInt8) : List (Option Char) :=
  decodeFrom .ready bytes

/-- The text of a byte sequence, with U+FFFD for each ill-formed piece. -/
def lossy (bytes : List UInt8) : List Char :=
  (decode bytes).map (·.getD '\uFFFD')

/-- The text of a byte sequence, if all of it is well-formed. -/
def strict? (bytes : List UInt8) : Option String :=
  ((decode bytes).mapM id).map String.ofList

def encode (text : List Char) : List UInt8 :=
  text.flatMap String.utf8EncodeChar

end Cupping.Text.Utf8
