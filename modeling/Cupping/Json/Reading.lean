import Cupping.Json.Numeral
import Cupping.Json.Token

/-!
Reading JSON text in one pass, with the open lists and objects on a stack. Nesting may be of any
depth.
-/

namespace Cupping.Json

/-- A list or object that is still open, with its finished parts in reverse. -/
inductive Frame where
  | list (items : List Value)
  | object (members : List (Option String × Value))
  /-- An object whose next member has its name already. -/
  | member (members : List (Option String × Value)) (name : Option String)

/-- What may come next. A bracket may close at once only what has just been opened. -/
inductive Awaiting where
  | value (canClose : Bool)
  | name (canClose : Bool)
  | colon (name : Option String)
  | separator
  | nothing (result : Value)

/-- The state of reading between two tokens. -/
structure Parsing where
  frames : List Frame
  awaiting : Awaiting

namespace Parsing

/-- Before the first token. -/
def initial : Parsing :=
  ⟨[], .value false⟩

def accept (value : Value) : List Frame → Option Parsing
  | [] => some ⟨[], .nothing value⟩
  | .list items :: outer => some ⟨.list (value :: items) :: outer, .separator⟩
  | .member members name :: outer => some ⟨.object ((name, value) :: members) :: outer, .separator⟩
  | .object _ :: _ => none

def closeList : List Frame → Option Parsing
  | .list items :: outer => accept (.list items.reverse) outer
  | _ => none

def closeObject : List Frame → Option Parsing
  | .object members :: outer => accept (.object members.reverse) outer
  | _ => none

def advance : List Frame → Option Parsing
  | .list items :: outer => some ⟨.list items :: outer, .value false⟩
  | .object members :: outer => some ⟨.object members :: outer, .name false⟩
  | _ => none

/-- A value, or its beginning. -/
def beginValue (frames : List Frame) : Token → Option Parsing
  | .beginList => some ⟨.list [] :: frames, .value true⟩
  | .beginObject => some ⟨.object [] :: frames, .name true⟩
  | .word letters => (Value.ofWord? letters).bind (accept · frames)
  | .text none => accept .unreadable frames
  | .text (some content) => accept (.text content) frames
  | _ => none

def next (state : Parsing) (token : Token) : Option Parsing :=
  match state.awaiting, token with
  | .value true, .endList => closeList state.frames
  | .value _, token => beginValue state.frames token
  | .name true, .endObject => closeObject state.frames
  | .name _, .text name => some { state with awaiting := .colon name }
  | .colon name, .colon =>
    match state.frames with
    | .object members :: outer => some ⟨.member members name :: outer, .value false⟩
    | _ => none
  | .separator, .comma => advance state.frames
  | .separator, .endList => closeList state.frames
  | .separator, .endObject => closeObject state.frames
  | _, _ => none

def result? (state : Parsing) : Option Value :=
  match state.awaiting with
  | .nothing result => some result
  | _ => none

end Parsing

/-- The state of reading between two characters. -/
structure Reading where
  lexing : Lexing
  parsing : Parsing

namespace Reading

/-- Before the first character. -/
def initial : Reading :=
  ⟨.between, .initial⟩

def next (state : Reading) (c : Option Char) : Option Reading :=
  (state.lexing.next c).bind fun (tokens, lexing) =>
    (tokens.foldlM Parsing.next state.parsing).map fun parsing => ⟨lexing, parsing⟩

/-- The value of the whole text, at its end. -/
def finish? (state : Reading) : Option Value :=
  (state.lexing.finish?).bind fun tokens =>
    (tokens.foldlM Parsing.next state.parsing).bind Parsing.result?

end Reading

/-- Reads a whole JSON text, in which a missing character stands for bytes that are none. -/
def readDecoded? (text : List (Option Char)) : Option Value :=
  (text.foldlM Reading.next Reading.initial).bind Reading.finish?

def read? (text : List Char) : Option Value :=
  readDecoded? (text.map some)

end Cupping.Json
