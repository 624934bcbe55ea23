import Cupping.Decimal.Reading

/-!
JSON data. A number is whole or a double, by the way it is written. Some scalars are well-formed and
still have no value: a number beyond the doubles, or a text with half a surrogate pair. They are
kept apart, because data that nobody reads may contain them.
-/

namespace Cupping.Json

/-- A number; whole numbers have at most 64 bits. -/
inductive Number where
  | whole (value : Int)
  | real (value : Float)
deriving DecidableEq, Repr

def Number.toFloat : Number → Float
  | whole value => Float.ofInt value
  | real value => value

/-- Any piece of JSON data. Objects keep their members as written, repeated names included. -/
inductive Value where
  | null
  | bool (value : Bool)
  | number (value : Number)
  | text (value : String)
  /-- A well-formed scalar without a value. -/
  | unreadable
  | list (items : List Value)
  /-- A name is missing where its text is unreadable. -/
  | object (members : List (Option String × Value))
deriving Repr

namespace Value

instance : Inhabited Value := ⟨null⟩

def record (members : List (String × Value)) : Value :=
  object (members.map fun member => (some member.1, member.2))

/-- A number or, for an absent one, null. -/
def ofFloat? : Option Float → Value
  | none => null
  | some value => number (.real value)

/-- A text or, for an absent one, null. -/
def ofText? : Option String → Value
  | none => null
  | some value => text value

end Value
end Cupping.Json
