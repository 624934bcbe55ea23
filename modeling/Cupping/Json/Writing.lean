import Cupping.Decimal.Notation
import Cupping.Json.Value

/-!
Writing JSON text, without spaces or laid out over lines. Only what has to be escaped is.
-/

namespace Cupping.Json

/-- How much space there is in written JSON. -/
inductive Layout where
  | compact
  /-- Each item and member on a line of its own, indented by two spaces a level. -/
  | indented
deriving DecidableEq, Repr

namespace Layout

/-- What stands before an item, or before a closing bracket, at some depth. -/
def lineBreak (depth : Nat) : Layout → List Char
  | compact => []
  | indented => '\n' :: List.replicate (2 * depth) ' '

def colon : Layout → List Char
  | compact => [':']
  | indented => [':', ' ']

end Layout

def hexChar (digit : Nat) : Char :=
  Nat.digitChar digit

def escape (c : Char) : List Char :=
  if c = '"' then ['\\', '"']
  else if c = '\\' then ['\\', '\\']
  else if c = '\x08' then ['\\', 'b']
  else if c = '\x0c' then ['\\', 'f']
  else if c = '\n' then ['\\', 'n']
  else if c = '\r' then ['\\', 'r']
  else if c = '\t' then ['\\', 't']
  else if c.toNat < 0x20 then ['\\', 'u', '0', '0', hexChar (c.toNat / 16), hexChar (c.toNat % 16)]
  else [c]

def quote (text : String) : List Char :=
  '"' :: text.toList.flatMap escape ++ ['"']

/-- A number; one without decimal digits is null. -/
def Number.write : Number → List Char
  | whole value => Decimal.signed (value < 0) (Decimal.digitsOf value.natAbs)
  | real value => if value.isFinite then (Decimal.json value).toList else ['n', 'u', 'l', 'l']

/-- Items between brackets, each at the start of a line of the layout. -/
def enclose (layout : Layout) (depth : Nat) (left right : Char) : List (List Char) → List Char
  | [] => [left, right]
  | first :: rest =>
    let line := layout.lineBreak (depth + 1)
    left :: line ++ first ++ rest.flatMap (fun item => ',' :: line ++ item)
      ++ layout.lineBreak depth ++ [right]

mutual

def Value.writeAt (layout : Layout) (depth : Nat) : Value → List Char
  | .null | .unreadable => ['n', 'u', 'l', 'l']
  | .bool true => ['t', 'r', 'u', 'e']
  | .bool false => ['f', 'a', 'l', 's', 'e']
  | .number value => value.write
  | .text value => quote value
  | .list items => enclose layout depth '[' ']' (writeItems layout (depth + 1) items)
  | .object members => enclose layout depth '{' '}' (writeMembers layout (depth + 1) members)

def Value.writeItems (layout : Layout) (depth : Nat) : List Value → List (List Char)
  | [] => []
  | item :: rest => item.writeAt layout depth :: writeItems layout depth rest

def Value.writeMembers (layout : Layout) (depth : Nat) :
    List (Option String × Value) → List (List Char)
  | [] => []
  | (name, value) :: rest =>
    (quote (name.getD "") ++ layout.colon ++ value.writeAt layout depth)
      :: writeMembers layout depth rest

end

/-- The text of a value, without spaces. -/
def Value.write (value : Value) : String :=
  String.ofList (value.writeAt .compact 0)

/-- The text of a value, laid out over lines. -/
def Value.writeIndented (value : Value) : String :=
  String.ofList (value.writeAt .indented 0)

end Cupping.Json
