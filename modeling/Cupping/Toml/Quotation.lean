import Cupping.Json.Token

/-!
TOML texts in quotes: on one line or on several, with escapes or literally.
-/

namespace Cupping.Toml

def isPlain (c : Char) : Bool :=
  c = '\t' || (decide (0x20 ≤ c.toNat) && c.toNat ≠ 0x7F)

def isSpace (c : Char) : Bool :=
  c = ' ' || c = '\t'

def escaped? : Char → Option Char
  | 'b' => some '\x08'
  | 't' => some '\t'
  | 'n' => some '\n'
  | 'f' => some '\x0c'
  | 'r' => some '\r'
  | '"' => some '"'
  | '\\' => some '\\'
  | _ => none

def charOfCode? (digits : List Char) : Option Char := do
  let values ← digits.mapM Json.Lexing.hexDigit?
  let code := values.foldl (fun code digit => 16 * code + digit) 0
  if code.isValidChar then some (Char.ofNat code) else none

def prepend (c : Char) (found : List Char × List Char) : List Char × List Char :=
  (c :: found.1, found.2)

/-- A text with escapes up to its closing quote, and what follows. -/
def readBasic? : List Char → Option (List Char × List Char)
  | [] => none
  | '"' :: rest => some ([], rest)
  | '\\' :: 'u' :: a :: b :: c :: d :: rest => do
    return prepend (← charOfCode? [a, b, c, d]) (← readBasic? rest)
  | '\\' :: 'U' :: a :: b :: c :: d :: e :: f :: g :: h :: rest => do
    return prepend (← charOfCode? [a, b, c, d, e, f, g, h]) (← readBasic? rest)
  | '\\' :: c :: rest => do return prepend (← escaped? c) (← readBasic? rest)
  | c :: rest => if isPlain c && c ≠ '\\' then (readBasic? rest).map (prepend c) else none

/-- A literal text up to its closing quote, and what follows. -/
def readLiteral? : List Char → Option (List Char × List Char)
  | [] => none
  | '\'' :: rest => some ([], rest)
  | c :: rest => if isPlain c then (readLiteral? rest).map (prepend c) else none

def startsLine : List Char → Bool
  | '\n' :: _ | '\r' :: '\n' :: _ => true
  | _ => false

/-- A text of several lines with escapes up to its closing quotes, and what follows. Behind an
escaped line break all blanks and line breaks are skipped. One or two quotes may stand right before
the closing ones. -/
def readLines? (skipping : Bool) : List Char → Option (List Char × List Char)
  | [] => none
  | '"' :: '"' :: '"' :: '"' :: '"' :: rest => some (['"', '"'], rest)
  | '"' :: '"' :: '"' :: '"' :: rest => some (['"'], rest)
  | '"' :: '"' :: '"' :: rest => some ([], rest)
  | '\n' :: rest =>
    if skipping then readLines? true rest else (readLines? false rest).map (prepend '\n')
  | '\r' :: '\n' :: rest =>
    if skipping then readLines? true rest else (readLines? false rest).map (prepend '\n')
  | '\\' :: 'u' :: a :: b :: c :: d :: rest => do
    return prepend (← charOfCode? [a, b, c, d]) (← readLines? false rest)
  | '\\' :: 'U' :: a :: b :: c :: d :: e :: f :: g :: h :: rest => do
    return prepend (← charOfCode? [a, b, c, d, e, f, g, h]) (← readLines? false rest)
  | '\\' :: c :: rest =>
    match escaped? c with
    | some escaped => (readLines? false rest).map (prepend escaped)
    | none => if startsLine ((c :: rest).dropWhile isSpace) then readLines? true rest else none
  | c :: rest =>
    if skipping && isSpace c then readLines? true rest
    else if isPlain c && c ≠ '\\' then (readLines? false rest).map (prepend c)
    else none

/-- A literal text of several lines up to its closing quotes, and what follows. One or two quotes
may stand right before the closing ones. -/
def readLiteralLines? : List Char → Option (List Char × List Char)
  | [] => none
  | '\'' :: '\'' :: '\'' :: '\'' :: '\'' :: rest => some (['\'', '\''], rest)
  | '\'' :: '\'' :: '\'' :: '\'' :: rest => some (['\''], rest)
  | '\'' :: '\'' :: '\'' :: rest => some ([], rest)
  | '\n' :: rest => (readLiteralLines? rest).map (prepend '\n')
  | '\r' :: '\n' :: rest => (readLiteralLines? rest).map (prepend '\n')
  | c :: rest => if isPlain c then (readLiteralLines? rest).map (prepend c) else none

/-- What follows a line break at the front of a text, if there is one. -/
def dropBreak : List Char → List Char
  | '\n' :: rest | '\r' :: '\n' :: rest => rest
  | text => text

/-- A text in quotes of one line, and what follows it. -/
def readQuoted? : List Char → Option (List Char × List Char)
  | '"' :: rest => readBasic? rest
  | '\'' :: rest => readLiteral? rest
  | _ => none

/-- A text in quotes of any kind, and what follows it. A line break right behind the opening of
several lines does not count. -/
def readText? : List Char → Option (List Char × List Char)
  | '"' :: '"' :: '"' :: rest => readLines? false (dropBreak rest)
  | '\'' :: '\'' :: '\'' :: rest => readLiteralLines? (dropBreak rest)
  | text => readQuoted? text

end Cupping.Toml
