import Cupping.Cell
import Cupping.NameMap

/-!
One row of a dataset, and the parameter values taken from it.
-/

namespace Cupping

abbrev ParameterSet := NameMap Cell

/-- A row; a column without a value has no cell. -/
structure Row where
  cells : NameMap Cell
deriving DecidableEq, Inhabited

namespace Row

/-- The row of a list of cells; of two in one column the later wins. -/
def ofList (cells : List (String × Cell)) : Row :=
  ⟨NameMap.ofList cells⟩

/-- The value of a column, blank text counting as none. -/
def get? (row : Row) (field : String) : Option Cell :=
  (row.cells.get? field).filter (!·.isBlank)

def isPresent (row : Row) (field : String) : Bool :=
  (row.get? field).isSome

def number? (row : Row) (field : String) : Option Float :=
  (row.get? field).bind Cell.number?

/-- The values of some columns, as far as there are any. -/
def project (row : Row) (fields : List String) : ParameterSet :=
  NameMap.ofList (fields.filterMap fun field => (row.get? field).map (field, ·))

end Row
end Cupping
