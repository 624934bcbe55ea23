/-!
TOML data. Points in time are only told apart from other data.
-/

namespace Cupping.Toml

/-- Any piece of TOML data. -/
inductive Value where
  | text (value : String)
  | integer (value : Int)
  | real (value : Float)
  | bool (value : Bool)
  /-- A date, a time, or both. -/
  | moment
  | list (items : List Value)
  | table (entries : List (String × Value))
deriving Repr

instance : Inhabited Value := ⟨.moment⟩

namespace Value

def text? : Value → Option String
  | text value => some value
  | _ => none

def natural? : Value → Option Nat
  | integer (.ofNat value) => some value
  | _ => none

end Value
end Cupping.Toml
