import Cupping.Toml.Quotation
import Cupping.Toml.Scalar
import Cupping.Toml.Table

/-!
Reading TOML values and names. Lists and tables in braces may be nested to a bounded depth.
-/

namespace Cupping.Toml

def isNameChar (c : Char) : Bool :=
  c.isAlphanum || c = '-' || c = '_'

/-- A name without dots, and what follows it. -/
def readName? (text : List Char) : Option (String × List Char) :=
  match text with
  | '"' :: _ | '\'' :: _ => (readQuoted? text).map fun (name, rest) => (String.ofList name, rest)
  | _ =>
    let name := text.takeWhile isNameChar
    if name.isEmpty then none else some (String.ofList name, text.dropWhile isNameChar)

/-- A name with dots, blanks around its parts, and what follows it; it has at most `parts` parts. -/
def readPath? : Nat → List Char → Option (List String × List Char)
  | 0, _ => none
  | parts + 1, text => do
    let (name, rest) ← readName? (text.dropWhile isSpace)
    match rest.dropWhile isSpace with
    | '.' :: rest =>
      let (names, rest) ← readPath? parts rest
      some (name :: names, rest)
    | rest => some ([name], rest)

/-- How deep lists and tables may be nested, and how many parts a name can have. -/
def maxDepth : Nat := 79

/-- The path of a name with dots, its last part, and what follows it. -/
def readKey? (text : List Char) : Option ((List String × String) × List Char) := do
  let (names, rest) ← readPath? maxDepth text
  let last ← names.getLast?
  some ((names.dropLast, last), rest)

def afterComment (text : List Char) : List Char :=
  text.dropWhile isPlain

/-- What follows blanks, line breaks and comments, of which there are at most `fuel`. -/
def afterGap : Nat → List Char → List Char
  | 0, text => text
  | fuel + 1, text =>
    match text with
    | '#' :: rest => afterGap fuel (afterComment rest)
    | '\r' :: '\n' :: rest => afterGap fuel rest
    | '\n' :: rest | ' ' :: rest | '\t' :: rest => afterGap fuel rest
    | _ => text

/-- What follows all blanks, line breaks and comments. -/
def skipGap (text : List Char) : List Char :=
  afterGap text.length text

/-- The items of a list up to its closing bracket, and what follows. A comma may stand behind the
last item. -/
def readItems? (readValue? : List Char → Option (Value × List Char)) :
    Nat → List Char → Option (List Value × List Char)
  | 0, _ => none
  | fuel + 1, text =>
    match skipGap text with
    | ']' :: rest => some ([], rest)
    | text => do
      let (item, rest) ← readValue? text
      match skipGap rest with
      | ',' :: rest =>
        let (items, rest) ← readItems? readValue? fuel rest
        some (item :: items, rest)
      | ']' :: rest => some ([item], rest)
      | _ => none

/-- The entries of a table in braces up to its closing brace, and what follows. All stand on one
line, and there is no comma behind the last one. -/
def readEntries? (readValue? : List Char → Option (Value × List Char)) :
    Nat → Entries → List Char → Option (Entries × List Char)
  | 0, _, _ => none
  | fuel + 1, entries, text => do
    let ((path, name), rest) ← readKey? text
    let rest ← afterChar? '=' rest
    let (value, rest) ← readValue? (rest.dropWhile isSpace)
    let entries ← entries.assign path name value
    match rest.dropWhile isSpace with
    | ',' :: rest => readEntries? readValue? fuel entries rest
    | '}' :: rest => some (entries, rest)
    | _ => none

/-- A table in braces behind its opening brace, and what follows. -/
def readBraces? (readValue? : List Char → Option (Value × List Char)) (text : List Char) :
    Option (Value × List Char) :=
  match text.dropWhile isSpace with
  | '}' :: rest => some (.table [], rest)
  | text => (readEntries? readValue? text.length [] text).map fun (entries, rest) =>
    ((Node.table .header entries).close, rest)

/-- A value, and what follows it. -/
def readValue? : Nat → List Char → Option (Value × List Char)
  | depth, text =>
    match text, depth with
    | '[' :: _, 0 | '{' :: _, 0 => none
    | '[' :: rest, depth + 1 =>
      (readItems? (readValue? depth) (rest.length + 1) rest).map fun (items, rest) =>
        (.list items, rest)
    | '{' :: rest, depth + 1 => readBraces? (readValue? depth) rest
    | '"' :: _, _ | '\'' :: _, _ => (readText? text).map fun (content, rest) =>
      (.text (String.ofList content), rest)
    | _, _ => readScalar? text

end Cupping.Toml
