import Cupping.NameMap
import Cupping.Json.Value

/-!
Records in JSON data: an object with members of certain names, or a list with the same values in
order. Members of other names are ignored, whatever they contain; in an object no known name may be
repeated; a list may be short of values that can be left out, and of no others.
-/

namespace Cupping.Json

/-- What there is of a field. -/
inductive Slot where
  | given (value : Value)
  /-- An object has no member of the name. -/
  | unnamed
  /-- A list ends before the field. -/
  | beyond

abbrev Record := List (String × Slot)

namespace Record

def ofMembers? (names : List String) (members : List (Option String × Value)) : Option Record := do
  let members ← members.mapM fun member => member.1.map (·, member.2)
  if names.any fun name => decide (2 ≤ (members.filter (·.1 = name)).length) then none
  else some (names.map fun name => (name, ((members.lookup name).map Slot.given).getD .unnamed))

def ofItems? (names : List String) (items : List Value) : Option Record :=
  if names.length < items.length then none
  else some (names.zip (items.map Slot.given ++ List.replicate names.length .beyond))

def ofValue? (names : List String) : Value → Option Record
  | .object members => ofMembers? names members
  | .list items => ofItems? names items
  | _ => none

variable {α : Type}

def slot (record : Record) (name : String) : Slot :=
  (record.lookup name).getD .unnamed

def required (record : Record) (name : String) (read : Value → Option α) : Option α :=
  match record.slot name with
  | .given value => read value
  | _ => none

def defaulted (record : Record) (name : String) (default : α) (read : Value → Option α) :
    Option α :=
  match record.slot name with
  | .given value => read value
  | _ => some default

def orNull (read : Value → Option α) : Value → Option (Option α)
  | .null => some none
  | value => (read value).map some

def optional (record : Record) (name : String) (read : Value → Option α) : Option (Option α) :=
  record.defaulted name none (orNull read)

/-- A field that may be null, or left out of an object. -/
def nullable (record : Record) (name : String) (read : Value → Option α) : Option (Option α) :=
  match record.slot name with
  | .given value => orNull read value
  | .unnamed => some none
  | .beyond => none

end Record

namespace Value

def bool? : Value → Option Bool
  | bool value => some value
  | _ => none

def text? : Value → Option String
  | text value => some value
  | _ => none

def float? : Value → Option Float
  | number value => some value.toFloat
  | _ => none

def wholeIn? (low high : Int) : Value → Option Int
  | number (.whole value) => if low ≤ value ∧ value ≤ high then some value else none
  | _ => none

def word32? (value : Value) : Option UInt32 :=
  (value.wholeIn? 0 (Nat.pow 2 32 - 1)).map fun whole => UInt32.ofNat whole.toNat

def integer64? (value : Value) : Option Int64 :=
  (value.wholeIn? (-Nat.pow 2 63) (Nat.pow 2 63 - 1)).map Int64.ofInt

def listOf? {α : Type} (read : Value → Option α) : Value → Option (List α)
  | list items => items.mapM read
  | _ => none

def member? {α : Type} (read : Value → Option α) (member : Option String × Value) :
    Option (String × α) :=
  match member.1, read member.2 with
  | some name, some value => some (name, value)
  | _, _ => none

/-- The members of an object, of which the last of a name counts. -/
def mapOf? {α : Type} (read : Value → Option α) : Value → Option (NameMap α)
  | object members => (members.mapM (member? read)).map NameMap.ofList
  | _ => none

/-- A choice among names: the name as a text, or an object with null under the name. -/
def choice? {α : Type} (ofName? : String → Option α) : Value → Option α
  | text name => ofName? name
  | object [(some name, null)] => ofName? name
  | _ => none

end Value
end Cupping.Json
