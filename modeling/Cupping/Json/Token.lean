import Cupping.Json.Value

/-!
The tokens of JSON text, recognised character by character. A missing character stands for bytes
that are no character; it may only occur inside of quotes.
-/

namespace Cupping.Json

/-- The smallest parts of JSON text. -/
inductive Token where
  | beginList
  | endList
  | beginObject
  | endObject
  | comma
  | colon
  /-- A number or a name, still unread. -/
  | word (letters : List Char)
  /-- A quoted text, unless it cannot be read. -/
  | text (content : Option String)
deriving DecidableEq, Repr

/-- What a quoted text is put together from. -/
inductive Piece where
  | char (c : Option Char)
  /-- An escaped UTF-16 code unit. -/
  | unit (code : Nat)
deriving DecidableEq, Repr

namespace Piece

/-- Whether a code unit is the first half of a surrogate pair. -/
def isHigh (code : Nat) : Bool :=
  decide (0xD800 ≤ code) && decide (code < 0xDC00)

/-- Whether a code unit is the second half of a surrogate pair. -/
def isLow (code : Nat) : Bool :=
  decide (0xDC00 ≤ code) && decide (code < 0xE000)

/-- The character of a surrogate pair. -/
def ofPair (high low : Nat) : Char :=
  Char.ofNat (0x10000 + (high - 0xD800) * 0x400 + (low - 0xDC00))

/-- The characters of a quoted text. Halves of surrogate pairs need each other. -/
def join? : List Piece → Option (List Char)
  | [] => some []
  | .char c :: rest =>
    match c, join? rest with
    | some c, some text => some (c :: text)
    | _, _ => none
  | .unit high :: .unit low :: rest =>
    if isHigh high then
      if isLow low then (join? rest).map (ofPair high low :: ·) else none
    else if isLow high then none
    else (join? (.unit low :: rest)).map (Char.ofNat high :: ·)
  | .unit code :: rest =>
    if isHigh code || isLow code then none else (join? rest).map (Char.ofNat code :: ·)

end Piece

/-- Where in a token the text stands. Pieces and letters are kept in reverse. -/
inductive Lexing where
  | between
  | word (letters : List Char)
  | text (pieces : List Piece)
  /-- Behind a backslash. -/
  | escape (pieces : List Piece)
  /-- In the digits of an escaped code unit, with `more + 1` to come. -/
  | code (pieces : List Piece) (value more : Nat)
deriving DecidableEq, Repr

namespace Lexing

def isLetter (c : Char) : Bool :=
  c.isAlphanum || c = '+' || c = '-' || c = '.'

def isSpace (c : Char) : Bool :=
  c = ' ' || c = '\n' || c = '\r' || c = '\t'

def escaped? : Char → Option Char
  | '"' => some '"'
  | '\\' => some '\\'
  | '/' => some '/'
  | 'b' => some '\x08'
  | 'f' => some '\x0c'
  | 'n' => some '\n'
  | 'r' => some '\r'
  | 't' => some '\t'
  | _ => none

def hexDigit? (c : Char) : Option Nat :=
  if c.isDigit then some (c.toNat - '0'.toNat)
  else if 'a' ≤ c ∧ c ≤ 'f' then some (c.toNat - 'a'.toNat + 10)
  else if 'A' ≤ c ∧ c ≤ 'F' then some (c.toNat - 'A'.toNat + 10)
  else none

def mark? : Char → Option Token
  | '[' => some .beginList
  | ']' => some .endList
  | '{' => some .beginObject
  | '}' => some .endObject
  | ',' => some .comma
  | ':' => some .colon
  | _ => none

/-- The tokens completed by a character between tokens, and where it leads. -/
def start (c : Char) : Option (List Token × Lexing) :=
  if isSpace c then some ([], between)
  else if c = '"' then some ([], text [])
  else if isLetter c then some ([], word [c])
  else (mark? c).map fun token => ([token], between)

/-- The tokens completed by a character inside of quotes, and where it leads. -/
def inText (pieces : List Piece) : Option Char → Option (List Token × Lexing)
  | none => some ([], text (.char none :: pieces))
  | some c =>
    if c = '"' then
      some ([.text ((Piece.join? pieces.reverse).map String.ofList)], between)
    else if c = '\\' then some ([], escape pieces)
    else if c.toNat < 0x20 then none
    else some ([], text (.char (some c) :: pieces))

/-- The tokens completed by a character, and where it leads. -/
def next : Lexing → Option Char → Option (List Token × Lexing)
  | text pieces, c => inText pieces c
  | _, none => none
  | between, some c => start c
  | word letters, some c =>
    if isLetter c then some ([], word (c :: letters))
    else (start c).map fun (tokens, state) => (.word letters.reverse :: tokens, state)
  | escape pieces, some c =>
    if c = 'u' then some ([], code pieces 0 3)
    else (escaped? c).map fun c => ([], text (.char (some c) :: pieces))
  | code pieces value more, some c =>
    (hexDigit? c).map fun digit =>
      match more with
      | 0 => ([], text (.unit (16 * value + digit) :: pieces))
      | more + 1 => ([], code pieces (16 * value + digit) more)

/-- The tokens completed by the end of the text; quotes have to be closed by then. -/
def finish? : Lexing → Option (List Token)
  | between => some []
  | word letters => some [.word letters.reverse]
  | _ => none

end Lexing
end Cupping.Json
