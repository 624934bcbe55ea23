import Cupping.Toml.Reading

/-!
TOML documents: definitions, one a line, under the headers of the tables they belong to.
-/

namespace Cupping.Toml

/-- What has been read of a document. -/
structure Document where
  root : Entries
  /-- The path of the table that definitions belong to. -/
  here : List String

namespace Document

def empty : Document :=
  ⟨[], []⟩

/-- What follows the end of a line, blanks and a comment before it included. -/
def afterLine? (text : List Char) : Option (List Char) :=
  let rest := text.dropWhile isSpace
  let rest := match rest with
    | '#' :: more => afterComment more
    | _ => rest
  match rest with
  | [] => some []
  | '\n' :: rest | '\r' :: '\n' :: rest => some rest
  | _ => none

def define? (document : Document) (path : List String) (name : String) (value : Value) :
    Option Document :=
  (Entries.descend .implied (fun _ entries => entries.assign path name value) document.here .header
    document.root).map fun root => { document with root }

def openTable? (document : Document) (path : List String) (name : String) : Option Document :=
  (document.root.openTable path name).map fun root => ⟨root, path ++ [name]⟩

def openItem? (document : Document) (path : List String) (name : String) : Option Document :=
  (document.root.openItem path name).map fun root => ⟨root, path ++ [name]⟩

def readItemHeader? (document : Document) (text : List Char) : Option (Document × List Char) := do
  let ((path, name), rest) ← readKey? text
  let rest ← afterChar? ']' (← afterChar? ']' rest)
  some (← document.openItem? path name, ← afterLine? rest)

def readHeader? (document : Document) (text : List Char) : Option (Document × List Char) := do
  let ((path, name), rest) ← readKey? text
  let rest ← afterChar? ']' rest
  some (← document.openTable? path name, ← afterLine? rest)

def readDefinition? (document : Document) (text : List Char) : Option (Document × List Char) := do
  let ((path, name), rest) ← readKey? text
  let rest ← afterChar? '=' rest
  let (value, rest) ← readValue? maxDepth (rest.dropWhile isSpace)
  some (← document.define? path name value, ← afterLine? rest)

/-- Reads one line, or several when a value takes them. -/
def readLine? (document : Document) (text : List Char) : Option (Document × List Char) :=
  match text.dropWhile isSpace with
  | '[' :: '[' :: rest => document.readItemHeader? rest
  | '[' :: rest => document.readHeader? rest
  | '#' :: rest => (afterLine? ('#' :: rest)).map (document, ·)
  | '\n' :: rest | '\r' :: '\n' :: rest => some (document, rest)
  | rest => document.readDefinition? rest

/-- Reads all lines, of which there are at most `fuel`. -/
def readLines? : Nat → Document → List Char → Option Document
  | 0, _, _ => none
  | fuel + 1, document, text =>
    if (text.dropWhile isSpace).isEmpty then some document
    else (document.readLine? text).bind fun (document, rest) => readLines? fuel document rest

end Document

/-- The text behind a byte order mark. -/
def dropMark : List Char → List Char
  | '\uFEFF' :: rest => rest
  | text => text

/-- Reads a document; the result is its outermost table. -/
def read? (text : String) : Option (List (String × Value)) :=
  let chars := dropMark text.toList
  (Document.readLines? (chars.length + 1) .empty chars).map fun document =>
    Node.closeEntries document.root

end Cupping.Toml
