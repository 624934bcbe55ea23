/-!
Identifiers of runs: 128 bits in hexadecimal. They are written in lower case with hyphens, and read
with or without hyphens, in braces or as a URN.
-/

namespace Cupping

/-- The identifier of a run, by its hexadecimal digits. -/
structure RunId where
  digits : List (Fin 16)
  size : digits.length = 32
deriving DecidableEq

namespace RunId

def groupSizes : List Nat :=
  [8, 4, 4, 4, 12]

/-- A text cut into groups of the given sizes with hyphens between them; the last group takes all
that is left. -/
def hyphenate : List Nat → List Char → List Char
  | [], text => text
  | [_], text => text
  | size :: more, text => text.take size ++ '-' :: hyphenate more (text.drop size)

/-- Undoes `hyphenate` for a text whose groups have exactly the given sizes. -/
def unhyphenate? : List Nat → List Char → Option (List Char)
  | [], text => if text.isEmpty then some [] else none
  | [size], text => if text.length = size then some text else none
  | size :: more, text =>
    match text.drop size with
    | '-' :: rest => (unhyphenate? more rest).map (text.take size ++ ·)
    | _ => none

def writeDigit (digit : Fin 16) : Char :=
  Nat.digitChar digit

def readDigit? (c : Char) : Option (Fin 16) :=
  (List.finRange 16).find? fun digit => writeDigit digit = c.toLower

/-- The identifier of a list of digits, if there are as many as it takes. -/
def ofDigits? (digits : List (Fin 16)) : Option RunId :=
  if size : digits.length = 32 then some ⟨digits, size⟩ else none

def unwrap (text : List Char) : List Char :=
  match text with
  | 'u' :: 'r' :: 'n' :: ':' :: 'u' :: 'u' :: 'i' :: 'd' :: ':' :: rest => rest
  | '{' :: rest => if rest.getLast? = some '}' then rest.dropLast else text
  | _ => text

/-- The digits of an identifier, still as characters: all of the text, or what is grouped by
hyphens. -/
def plainDigits? (text : List Char) : Option (List Char) :=
  if text.length = 32 then some text else unhyphenate? groupSizes (unwrap text)

def ofText? (text : String) : Option RunId := do
  let digits ← plainDigits? text.toList
  ofDigits? (← digits.mapM readDigit?)

def write (id : RunId) : String :=
  String.ofList (hyphenate groupSizes (id.digits.map writeDigit))

instance : ToString RunId := ⟨write⟩

end RunId
end Cupping
